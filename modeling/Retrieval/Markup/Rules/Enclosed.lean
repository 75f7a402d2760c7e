import Retrieval.Markup.Rules.Table

/-!
# Rules for selections, templates and framesets

* `Rules.inSelect`, `Rules.inSelectInTable` : the rules in a selection, which has little but options;
* `Rules.inTemplate` : the rules in a template, which may hold what elsewhere has to stand in a table;
* `Rules.inFrameset`, `afterFrameset`, `afterAfterFrameset` : the rules of documents that have frames for a body.
-/

namespace Retrieval.Markup.Rules

/-! ## Selections -/

def leaveSelect (b : Builder) : Builder := (b.popThrough "select").resetMode

def endOption (b : Builder) : Builder := if b.atElement "option" then b.pop else b

/-- The end tag of a group of options, which ends an option inside it. -/
def endOptionGroup (b : Builder) : Builder :=
  let b := if b.atElement "option" ∧ b.pop.atElement "optgroup" then b.pop else b
  if b.atElement "optgroup" then b.pop else b

def selectStart (b : Builder) (tag : Tag) : Outcome :=
  if tag.name = "option" then .done ((endOption b).insertElement tag)
  else if tag.name = "optgroup" then
    let b := endOption b
    .done ((if b.atElement "optgroup" then b.pop else b).insertElement tag)
  else if tag.name = "select" then .done (if b.inScope .select "select" then leaveSelect b else b)
  else if tag.name ∈ ["input", "keygen", "textarea"] then
    if b.inScope .select "select" then .again (leaveSelect b) (.startTag tag) else .done b
  else if tag.name = "script" ∨ tag.name = "template" then .done (insertMetadata b tag)
  else .done b

def selectEnd (b : Builder) (name : String) : Builder :=
  if name = "optgroup" then endOptionGroup b
  else if name = "option" then endOption b
  else if name = "select" then if b.inScope .select "select" then leaveSelect b else b
  else if name = "template" then endTemplate b
  else b

def inSelect (b : Builder) (t : Token) : Outcome :=
  match t with
  | .text s => .done (b.addText s)
  | .comment => .done b.addComment
  | .startTag tag => selectStart b tag
  | .endTag name => .done (selectEnd b name)
  | .eof => inBody b .eof
  | .null | .doctype _ | .nothing => .done b

def selectEnders : List String := ["caption", "table", "tbody", "tfoot", "thead", "tr", "td", "th"]

def inSelectInTable (b : Builder) (t : Token) : Outcome :=
  match t with
  | .startTag tag => if tag.name ∈ selectEnders then .again (leaveSelect b) t else inSelect b t
  | .endTag name =>
    if name ∈ selectEnders then if b.inScope .table name then .again (leaveSelect b) t else .done b
    else inSelect b t
  | t => inSelect b t

/-! ## Templates -/

/-- Goes on in a mode that fits what a template turned out to hold. -/
def templateAs (b : Builder) (mode : Mode) (t : Token) : Outcome :=
  { b with templates := mode :: b.templates.tail }.retry mode t

def inTemplate (b : Builder) (t : Token) : Outcome :=
  match t with
  | .startTag tag =>
    let name := tag.name
    if name ∈ metadata then .done (insertMetadata b tag)
    else if name = "col" then templateAs b .inColumnGroup t
    else if name ∈ partStarts then templateAs b .inTable t
    else if name = "tr" then templateAs b .inTableBody t
    else if name ∈ cells then templateAs b .inRow t
    else templateAs b .inBody t
  | .endTag name => .done (if name = "template" then endTemplate b else b)
  | .eof => endOpenTemplate b
  | t => inBody b t

/-! ## Framesets -/

def addSpaces (b : Builder) (s : List Char) : Builder := b.addText (s.filter isSpace)

def endFrameset (b : Builder) : Builder :=
  if b.stack.length = 1 then b
  else
    let b := b.pop
    if b.atElement "frameset" then b else b.goTo .afterFrameset

def inFrameset (b : Builder) (t : Token) : Outcome :=
  match t with
  | .text s => .done (addSpaces b s)
  | .comment => .done b.addComment
  | .startTag tag =>
    if tag.name = "frameset" then .done (b.insertElement tag)
    else if tag.name = "frame" then .done (b.insertEmpty tag)
    else if tag.name = "noframes" then .done (insertMetadata b tag)
    else .done b
  | .endTag name => .done (if name = "frameset" then endFrameset b else b)
  | _ => .done b

def afterFrameset (b : Builder) (t : Token) : Outcome :=
  match t with
  | .text s => .done (addSpaces b s)
  | .comment => .done b.addComment
  | .startTag tag => .done (if tag.name = "noframes" then insertMetadata b tag else b)
  | .endTag name => .done (if name = "html" then b.goTo .afterAfterFrameset else b)
  | _ => .done b

def afterAfterFrameset (b : Builder) (t : Token) : Outcome :=
  match t with
  | .text s =>
    let spaces := s.filter isSpace
    .done (if spaces = [] then b else bodyText b spaces)
  | .comment => .done (b.addCommentAt (.inside Document.root))
  | .startTag tag => .done (if tag.name = "noframes" then insertMetadata b tag else b)
  | _ => .done b

end Retrieval.Markup.Rules
