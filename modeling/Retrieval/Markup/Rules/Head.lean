import Retrieval.Markup.Builder

/-!
# Rules for the head of a document

* `Rules.insertMetadata` : the elements that may stand in the head;
* `Rules.endTemplate`, `Rules.endOpenTemplate` : the end of a template, by its tag or by the end of the document;
* `Rules.initial`, `beforeHtml`, `beforeHead`, `inHead`, `afterHead`, `rawText` : the rules of the modes up to the
  body.

A document without a head or a body gets one.
-/

namespace Retrieval.Markup.Rules

/-- The rule for text whose leading spaces are treated in a way of their own. -/
def onText (b : Builder) (s : List Char) (spaces : Builder → List Char → Builder)
    (otherwise : Builder → Token → Outcome) : Outcome :=
  let (blank, rest) := leadingSpaces s
  let b := if blank = [] then b else spaces b blank
  if rest = [] then .done b else otherwise b (.text rest)

def dropSpaces (b : Builder) (_ : List Char) : Builder := b

/-! ## Elements of the head -/

def metadata : List String :=
  ["base", "basefont", "bgsound", "link", "meta", "noframes", "script", "style", "template", "title"]

def openTemplate (b : Builder) (tag : Tag) : Builder :=
  let b := (b.insertElement tag).mark.refuseFrameset
  { b with mode := .inTemplate, templates := .inTemplate :: b.templates }

def insertMetadata (b : Builder) (tag : Tag) : Builder :=
  if tag.name = "title" then b.insertRaw tag (.references tag.name)
  else if tag.name = "script" then b.insertRaw tag .script
  else if tag.name ∈ ["noframes", "style", "noscript"] then b.insertRaw tag (.raw tag.name)
  else if tag.name = "template" then openTemplate b tag
  else b.insertEmpty tag

/-- Leaves the innermost template, whose content has been closed. -/
def leaveTemplate (b : Builder) : Builder :=
  let b := (b.popThrough "template").clearFormatting
  { b with templates := b.templates.tail }.resetMode

def endTemplate (b : Builder) : Builder :=
  if b.hasOpen "template" then leaveTemplate (b.closeImplied templateEnds) else b

def endOpenTemplate (b : Builder) : Outcome :=
  if b.hasOpen "template" then .again (leaveTemplate b) .eof else .done b

/-- End tags that are taken for the beginning of the body where none is open. -/
def bodyEnds : List String := ["body", "html", "br"]

/-! ## Before the head -/

def initial (b : Builder) (t : Token) : Outcome :=
  match t with
  | .text s => onText b s dropSpaces otherwise
  | .comment => .done (b.addCommentAt (.inside Document.root))
  | t => otherwise b t
where
  otherwise (b : Builder) (t : Token) : Outcome := { b with old := true }.retry .beforeHtml t

def beforeHtml (b : Builder) (t : Token) : Outcome :=
  match t with
  | .text s => onText b s dropSpaces otherwise
  | .comment => .done (b.addCommentAt (.inside Document.root))
  | .startTag tag => if tag.name = "html" then .done ((b.createRoot tag).goTo .beforeHead) else otherwise b t
  | .endTag name => if name = "head" ∨ name ∈ bodyEnds then otherwise b t else .done b
  | t => otherwise b t
where
  otherwise (b : Builder) (t : Token) : Outcome := (b.createRoot { name := "html" }).retry .beforeHead t

def openHead (b : Builder) (tag : Tag) : Builder :=
  let (head, b) := b.insertIn .html tag
  { b with head := some head, mode := .inHead }

def beforeHead (b : Builder) (t : Token) : Outcome :=
  match t with
  | .text s => onText b s dropSpaces otherwise
  | .comment => .done b.addComment
  | .startTag tag =>
    if tag.name = "html" then .done b
    else if tag.name = "head" then .done (openHead b tag)
    else otherwise b t
  | .endTag name => if name = "head" ∨ name ∈ bodyEnds then otherwise b t else .done b
  | t => otherwise b t
where
  otherwise (b : Builder) (t : Token) : Outcome := .again (openHead b { name := "head" }) t

/-! ## In and after the head -/

def inHead (b : Builder) (t : Token) : Outcome :=
  match t with
  | .text s => onText b s Builder.addText otherwise
  | .comment => .done b.addComment
  | .startTag tag =>
    if tag.name = "html" ∨ tag.name = "head" then .done b
    else if tag.name ∈ metadata ∨ tag.name = "noscript" then .done (insertMetadata b tag)
    else otherwise b t
  | .endTag name =>
    if name = "head" then .done (b.pop.goTo .afterHead)
    else if name = "template" then .done (endTemplate b)
    else if name ∈ bodyEnds then otherwise b t
    else .done b
  | t => otherwise b t
where
  otherwise (b : Builder) (t : Token) : Outcome := b.pop.retry .afterHead t

def insertLate (b : Builder) (tag : Tag) : Builder :=
  match b.head with
  | some head => (insertMetadata (b.push head) tag).remove head.id
  | none => insertMetadata b tag

def afterHead (b : Builder) (t : Token) : Outcome :=
  match t with
  | .text s => onText b s Builder.addText otherwise
  | .comment => .done b.addComment
  | .startTag tag =>
    if tag.name = "html" ∨ tag.name = "head" then .done b
    else if tag.name = "body" then .done ((b.insertElement tag).refuseFrameset.goTo .inBody)
    else if tag.name = "frameset" then .done ((b.insertElement tag).goTo .inFrameset)
    else if tag.name ∈ metadata then .done (insertLate b tag)
    else otherwise b t
  | .endTag name =>
    if name = "template" then .done (endTemplate b)
    else if name ∈ bodyEnds then otherwise b t
    else .done b
  | t => otherwise b t
where
  otherwise (b : Builder) (t : Token) : Outcome := (b.insertNamed "body").retry .inBody t

/-! ## Raw text -/

def rawText (b : Builder) (t : Token) : Outcome :=
  match t with
  | .text s => .done (b.addText s)
  | .endTag _ => .done (b.pop.goTo b.resume)
  | .eof => b.pop.retry b.resume .eof
  | _ => .done b

end Retrieval.Markup.Rules
