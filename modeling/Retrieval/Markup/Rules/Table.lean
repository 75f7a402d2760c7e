import Retrieval.Markup.Rules.Body

/-!
# Rules for tables

What does not belong into a table is put before it.

* `Rules.foster` : the rules of the body for what does not belong into the table;
* `Rules.inTable`, `inTableText`, `inCaption`, `inColumnGroup`, `inTableBody`, `inRow`, `inCell` : the rules inside
  a table.
-/

namespace Retrieval.Markup.Rules

def cells : List String := ["td", "th"]

def rowGroups : List String := ["tbody", "tfoot", "thead"]

/-- Start tags that begin another part of a table, apart from rows and cells. -/
def partStarts : List String := ["caption", "col", "colgroup", "tbody", "tfoot", "thead"]

def toTable (b : Builder) : Builder := b.popTo ["table", "template", "html"]

def toRowGroup (b : Builder) : Builder := b.popTo (rowGroups ++ ["template", "html"])

def toRow (b : Builder) : Builder := b.popTo ["tr", "template", "html"]

/-! ## What does not belong into a table -/

/-- Ends the fostering of what a rule has dealt with. -/
def endFostering : Outcome → Outcome
  | .done b => .done { b with fosters := false }
  | .again b t => .again { b with fosters := false } t

/-- The rules of the body for a token that does not belong into the table. -/
def foster (b : Builder) (t : Token) : Outcome := endFostering (inBody { b with fosters := true } t)

def fosterText (b : Builder) (s : List Char) : Builder :=
  { bodyText { b with fosters := true } s with fosters := false }

/-- The rules while the text of a table is collected. If it is not blank, it does not belong into the table. -/
def inTableText (b : Builder) (t : Token) : Outcome :=
  match t with
  | .null => .done b
  | .text s => .done { b with waiting := s :: b.waiting }
  | t =>
    let texts := b.waiting.reverse
    let b := { b with waiting := [] }
    let b := if texts.all (·.all isSpace) then texts.foldl Builder.addText b else texts.foldl fosterText b
    b.retry b.resume t

/-! ## Tables -/

def tableText (b : Builder) (t : Token) : Outcome :=
  if b.currentIs (·.isOneOf tableParts) then { b with resume := b.mode }.retry .inTableText t else foster b t

def leaveTable? (b : Builder) : Option Builder :=
  if b.inScope .table "table" then some (b.popThrough "table").resetMode else none

/-- A form in a table, which has no content there. -/
def tableForm (b : Builder) (tag : Tag) : Builder :=
  if b.hasOpen "template" ∨ b.form.isSome then b
  else
    let (e, b) := b.insertClosed .html tag
    { b with form := some e.id }

def tableStart (b : Builder) (tag : Tag) : Outcome :=
  let name := tag.name
  if name = "caption" then .done (((toTable b).mark.insertElement tag).goTo .inCaption)
  else if name = "colgroup" then .done (((toTable b).insertElement tag).goTo .inColumnGroup)
  else if name = "col" then ((toTable b).insertNamed "colgroup").retry .inColumnGroup (.startTag tag)
  else if name ∈ rowGroups then .done (((toTable b).insertElement tag).goTo .inTableBody)
  else if name = "tr" ∨ name ∈ cells then ((toTable b).insertNamed "tbody").retry .inTableBody (.startTag tag)
  else if name = "table" then
    match leaveTable? b with
    | some b => .again b (.startTag tag)
    | none => .done b
  else if name ∈ ["style", "script", "template"] then .done (insertMetadata b tag)
  else if name = "input" ∧ isHidden tag then .done (b.insertEmpty tag)
  else if name = "form" then .done (tableForm b tag)
  else foster b (.startTag tag)

def tableEnd (b : Builder) (name : String) : Outcome :=
  if name = "table" then .done ((leaveTable? b).getD b)
  else if name ∈ ["body", "html", "tr"] ++ partStarts ++ cells then .done b
  else if name = "template" then .done (endTemplate b)
  else foster b (.endTag name)

def inTable (b : Builder) (t : Token) : Outcome :=
  match t with
  | .text _ | .null => tableText b t
  | .comment => .done b.addComment
  | .startTag tag => tableStart b tag
  | .endTag name => tableEnd b name
  | .eof => inBody b .eof
  | .doctype _ | .nothing => .done b

/-! ## Captions and columns -/

def leaveCaption? (b : Builder) : Option Builder :=
  if b.inScope .table "caption" then some ((b.close "caption").clearFormatting.goTo .inTable) else none

def inCaption (b : Builder) (t : Token) : Outcome :=
  match t with
  | .startTag tag =>
    if tag.name = "tr" ∨ tag.name ∈ partStarts ++ cells then leaveFor b t else inBody b t
  | .endTag name =>
    if name = "caption" then .done ((leaveCaption? b).getD b)
    else if name = "table" then leaveFor b t
    else if name ∈ ["body", "html", "tr"] ++ partStarts ++ cells then .done b
    else inBody b t
  | t => inBody b t
where
  leaveFor (b : Builder) (t : Token) : Outcome :=
    match leaveCaption? b with
    | some b => .again b t
    | none => .done b

/-- What cannot stand among columns ends their group. In a template without a group it is left out. -/
def endColumns (b : Builder) (t : Token) : Outcome :=
  if b.atElement "colgroup" then b.pop.retry .inTable t else .done b

def inColumnGroup (b : Builder) (t : Token) : Outcome :=
  match t with
  | .text s =>
    if b.atElement "colgroup" then onText b s Builder.addText endColumns
    else .done (b.addText (s.filter isSpace))
  | .comment => .done b.addComment
  | .startTag tag =>
    if tag.name = "html" then .done b
    else if tag.name = "col" then .done (b.insertEmpty tag)
    else if tag.name = "template" then .done (insertMetadata b tag)
    else endColumns b t
  | .endTag name =>
    if name = "colgroup" then .done (if b.atElement "colgroup" then b.pop.goTo .inTable else b)
    else if name = "col" then .done b
    else if name = "template" then .done (endTemplate b)
    else endColumns b t
  | .eof => inBody b .eof
  | t => endColumns b t

/-! ## Rows and cells -/

def leaveRowGroup (b : Builder) : Builder := (toRowGroup b).pop.goTo .inTable

/-- Leaves a group of rows, if one or a table is open, and goes on with a token. -/
def leaveRowGroupFor (b : Builder) (t : Token) : Outcome :=
  if b.inScopeAny .table ["table", "tbody", "tfoot"] then .again (leaveRowGroup b) t else .done b

def inTableBody (b : Builder) (t : Token) : Outcome :=
  match t with
  | .startTag tag =>
    if tag.name = "tr" then .done (((toRowGroup b).insertElement tag).goTo .inRow)
    else if tag.name ∈ cells then ((toRowGroup b).insertNamed "tr").retry .inRow t
    else if tag.name ∈ partStarts then leaveRowGroupFor b t
    else inTable b t
  | .endTag name =>
    if name ∈ rowGroups then .done (if b.inScope .table name then leaveRowGroup b else b)
    else if name = "table" then leaveRowGroupFor b t
    else if name ∈ ["body", "caption", "col", "colgroup", "html", "tr"] ++ cells then .done b
    else inTable b t
  | t => inTable b t

def leaveRow? (b : Builder) : Option Builder :=
  if b.inScope .table "tr" then some ((toRow b).pop.goTo .inTableBody) else none

def leaveRowFor (b : Builder) (t : Token) : Outcome :=
  match leaveRow? b with
  | some b => .again b t
  | none => .done b

def inRow (b : Builder) (t : Token) : Outcome :=
  match t with
  | .startTag tag =>
    if tag.name ∈ cells then .done (((toRow b).insertElement tag).mark.goTo .inCell)
    else if tag.name = "tr" ∨ tag.name ∈ partStarts then leaveRowFor b t
    else inTable b t
  | .endTag name =>
    if name = "tr" then .done ((leaveRow? b).getD b)
    else if name = "table" then leaveRowFor b t
    else if name ∈ rowGroups then if b.inScope .table name then leaveRowFor b t else .done b
    else if name ∈ ["body", "caption", "col", "colgroup", "html"] ++ cells then .done b
    else inTable b t
  | t => inTable b t

/-- Leaves a cell whose content has been closed through it. -/
def leaveCell (b : Builder) : Builder := b.clearFormatting.goTo .inRow

def leaveCellFor (b : Builder) (t : Token) : Outcome :=
  .again (leaveCell ((b.closeImplied impliedEnds).popThroughAny cells)) t

def inCell (b : Builder) (t : Token) : Outcome :=
  match t with
  | .startTag tag =>
    if tag.name = "tr" ∨ tag.name ∈ partStarts ++ cells then
      if b.inScopeAny .table cells then leaveCellFor b t else .done b
    else inBody b t
  | .endTag name =>
    if name ∈ cells then .done (if b.inScope .table name then leaveCell (b.close name) else b)
    else if name ∈ ["body", "caption", "col", "colgroup", "html"] then .done b
    else if name = "table" ∨ name = "tr" ∨ name ∈ rowGroups then
      if b.inScope .table name then leaveCellFor b t else .done b
    else inBody b t
  | t => inBody b t

end Retrieval.Markup.Rules
