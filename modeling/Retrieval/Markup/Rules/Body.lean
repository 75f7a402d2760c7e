import Retrieval.Markup.Formatting
import Retrieval.Markup.Rules.Head

/-!
# Rules for the body of a document

* `Rules.bodyText`, `bodyStart`, `bodyEnd` : text, start tags and end tags in the body;
* `Rules.inBody` : the rules of the body, which most other modes fall back on;
* `Rules.afterBody`, `Rules.afterAfterBody` : the rules behind the body.
-/

namespace Retrieval.Markup.Rules

/-! ## Text -/

def bodyText (b : Builder) (s : List Char) : Builder :=
  let b := b.reopen
  (if s.all isSpace then b else b.refuseFrameset).addText s

/-! ## Start tags -/

def blocks : List String :=
  ["address", "article", "aside", "blockquote", "center", "details", "dialog", "dir", "div", "dl", "fieldset",
   "figcaption", "figure", "footer", "header", "hgroup", "main", "menu", "nav", "ol", "p", "section", "summary",
   "ul"]

/-- Names of elements that give text its form, apart from links. -/
def phrases : List String :=
  ["b", "big", "code", "em", "font", "i", "s", "small", "strike", "strong", "tt", "u"]

/-- Names of objects, which keep their form to themselves. -/
def objects : List String := ["applet", "marquee", "object"]

/-- Names of elements without content that stand in text. -/
def empties : List String := ["area", "br", "embed", "img", "keygen", "wbr", "input"]

/-- Start tags that mean nothing in the body. -/
def strays : List String :=
  ["html", "caption", "col", "colgroup", "frame", "head", "tbody", "td", "tfoot", "th", "thead", "tr"]

def isHidden (tag : Tag) : Bool := (tag.attribute? "type").any fun s => s.map Char.toLower == "hidden"

/-- The name of the item that the start of a new one ends. -/
def openItem? (names : List String) : List OpenElement → Option String
  | [] => none
  | e :: rest =>
    if e.name.isOneOf names then some e.name.name
    else if e.name.isSpecial ∧ ¬ e.name.isOneOf ["address", "div", "p"] then none
    else openItem? names rest

def startItem (names : List String) (b : Builder) (tag : Tag) : Builder :=
  let b := b.refuseFrameset
  let b := match openItem? names b.stack with
    | some name => (b.closeImpliedBut name).popThrough name
    | none => b
  b.endParagraph.insertElement tag

/-- The start of a heading. Headings do not stand right in headings. -/
def startHeading (b : Builder) (tag : Tag) : Builder :=
  let b := b.endParagraph
  (if b.currentIs (·.isOneOf headings) then b.pop else b).insertElement tag

/-- The start of text whose line breaks count, apart from one at its start. -/
def startPreformatted (b : Builder) (tag : Tag) : Builder :=
  { (b.endParagraph.insertElement tag).refuseFrameset with skipsBreak := true }

/-- The start of a link: links do not stand in links. -/
def startLink (b : Builder) (tag : Tag) : Builder :=
  let b := match b.recent.findSome? (·.ofTag? (·.name = "a")) with
    | some (id, _) => ((b.closeFormatting "a").forget id).remove id
    | none => b
  b.reopen.insertFormatting tag

def startUnbroken (b : Builder) (tag : Tag) : Builder :=
  let b := b.reopen
  let b := if b.inScope .standard "nobr" then (b.closeFormatting "nobr").reopen else b
  b.insertFormatting tag

/-- An element without content in text. -/
def startEmpty (b : Builder) (tag : Tag) : Builder :=
  let b := b.reopen.insertEmpty tag
  if tag.name = "input" ∧ isHidden tag then b else b.refuseFrameset

/-- The start of a form. Forms do not stand in forms. -/
def startForm (b : Builder) (tag : Tag) : Builder :=
  let inTemplate := b.hasOpen "template"
  if b.form.isSome ∧ ¬ inTemplate then b
  else
    let (e, b) := b.endParagraph.insertIn .html tag
    if inTemplate then b else { b with form := some e.id }

/-- The start of a button. Buttons do not stand in buttons. -/
def startButton (b : Builder) (tag : Tag) : Builder :=
  let b := if b.inScope .standard "button" then b.close "button" else b
  (b.reopen.insertElement tag).refuseFrameset

def startSelect (b : Builder) (tag : Tag) : Builder :=
  let mode : Mode :=
    if b.mode ∈ [.inTable, .inCaption, .inTableBody, .inRow, .inCell] then .inSelectInTable else .inSelect
  ((b.reopen.insertElement tag).refuseFrameset).goTo mode

/-- The start of an option, which ends the one before it. -/
def startOption (b : Builder) (tag : Tag) : Builder :=
  (if b.atElement "option" then b.pop else b).reopen.insertElement tag

/-- The start of an annotation, which ends those before it whose names are given. -/
def startRuby (ends : List String) (b : Builder) (tag : Tag) : Builder :=
  (if b.inScope .standard "ruby" then b.closeImplied ends else b).insertElement tag

def startTextarea (b : Builder) (tag : Tag) : Builder :=
  { b.refuseFrameset.insertRaw tag (.references tag.name) with skipsBreak := true }

def startTable (b : Builder) (tag : Tag) : Builder :=
  let b := if b.old then b else b.endParagraph
  ((b.insertElement tag).refuseFrameset).goTo .inTable

def startBody (b : Builder) (_ : Tag) : Builder :=
  if b.body?.isSome ∧ ¬ b.hasOpen "template" then b.refuseFrameset else b

/-- A frameset in the place of the body, if that has no content. -/
def startFrameset (b : Builder) (tag : Tag) : Builder :=
  match b.admitsFrameset, b.body? with
  | true, some body =>
    let b := { b.withDocument (·.detach body.id) with stack := b.stack.drop (b.stack.length - 1) }
    (b.insertElement tag).goTo .inFrameset
  | _, _ => b

def startForeign (language : Language) (b : Builder) (tag : Tag) : Builder :=
  if tag.selfClosing then (b.insertClosed language tag).2 else (b.insertIn language tag).2

abbrev StartRule := Builder → Tag → Builder

def blockRule? (name : String) : Option StartRule :=
  if name ∈ blocks then some fun b tag => b.endParagraph.insertElement tag
  else if name ∈ headings then some startHeading
  else if name = "pre" ∨ name = "listing" then some startPreformatted
  else if name = "form" then some startForm
  else if name = "li" then some (startItem ["li"])
  else if name = "dd" ∨ name = "dt" then some (startItem ["dd", "dt"])
  else if name = "plaintext" then some fun b tag => { b.endParagraph.insertElement tag with reading := .plain }
  else if name = "table" then some startTable
  else if name = "hr" then some fun b tag => (b.endParagraph.insertEmpty tag).refuseFrameset
  else if name = "xmp" then some fun b tag => b.endParagraph.reopen.refuseFrameset.insertRaw tag (.raw tag.name)
  else none

/-- The rules of start tags of elements that stand in text. -/
def inlineRule? (name : String) : Option StartRule :=
  if name = "a" then some startLink
  else if name ∈ phrases then some fun b tag => b.reopen.insertFormatting tag
  else if name = "nobr" then some startUnbroken
  else if name = "button" then some startButton
  else if name ∈ objects then some fun b tag => (b.reopen.insertElement tag).mark.refuseFrameset
  else if name ∈ empties then some startEmpty
  else if name = "image" then some fun b tag => startEmpty b { tag with name := "img" }
  else if name ∈ ["param", "source", "track"] then some Builder.insertEmpty
  else if name = "textarea" then some startTextarea
  else if name = "iframe" then some fun b tag => b.refuseFrameset.insertRaw tag (.raw tag.name)
  else if name = "noembed" ∨ name = "noscript" then some fun b tag => b.insertRaw tag (.raw tag.name)
  else if name = "select" then some startSelect
  else if name = "optgroup" ∨ name = "option" then some startOption
  else if name = "rb" ∨ name = "rtc" then some (startRuby impliedEnds)
  else if name = "rp" ∨ name = "rt" then some (startRuby (impliedEnds.filter (· ≠ "rtc")))
  else none

def startRule (name : String) : StartRule :=
  if name ∈ strays then fun b _ => b
  else if name ∈ metadata then insertMetadata
  else if name = "body" then startBody
  else if name = "frameset" then startFrameset
  else if name = "math" then startForeign .math
  else if name = "svg" then startForeign .svg
  else
    ((blockRule? name).orElse fun _ => inlineRule? name).getD fun b tag => b.reopen.insertElement tag

def bodyStart (b : Builder) (tag : Tag) : Builder := startRule tag.name b tag

/-! ## End tags -/

def endForm (b : Builder) : Builder :=
  if b.hasOpen "template" then if b.inScope .standard "form" then b.close "form" else b
  else
    match b.form with
    | none => b
    | some id =>
      let b := { b with form := none }
      if Builder.reaches .standard (·.id == id) b.stack then (b.closeImplied impliedEnds).remove id else b

/-- The end of a paragraph, which there has been even if it had no beginning. -/
def endOfParagraph (b : Builder) : Builder :=
  (if b.inScope .button "p" then b else b.insertNamed "p").closeParagraph

def endItem (b : Builder) (scope : Scope) (name : String) : Builder :=
  if b.inScope scope name then (b.closeImpliedBut name).popThrough name else b

def endHeading (b : Builder) : Builder :=
  if b.inScopeAny .standard headings then (b.closeImplied impliedEnds).popThroughAny headings else b

/-- An end tag in the body that leaves it neither. -/
def innerEnd (b : Builder) (name : String) : Builder :=
  if name = "template" then endTemplate b
  else if name = "form" then endForm b
  else if name = "p" then endOfParagraph b
  else if name ∈ blocks ∨ name ∈ ["button", "listing", "pre"] then
    if b.inScope .standard name then b.close name else b
  else if name = "li" then endItem b .list name
  else if name = "dd" ∨ name = "dt" then endItem b .standard name
  else if name ∈ headings then endHeading b
  else if name = "a" ∨ name = "nobr" ∨ name ∈ phrases then b.closeFormatting name
  else if name ∈ objects then
    if b.inScope .standard name then (b.close name).clearFormatting else b
  else if name = "br" then startEmpty b { name }
  else b.closeGeneric name

def bodyEnd (b : Builder) (name : String) : Outcome :=
  if name = "body" then .done (if b.inScope .standard "body" then b.goTo .afterBody else b)
  else if name = "html" then
    if b.inScope .standard "body" then b.retry .afterBody (.endTag name) else .done b
  else .done (innerEnd b name)

/-! ## The body and what is behind it -/

def inBody (b : Builder) (t : Token) : Outcome :=
  match t with
  | .text s => .done (bodyText b s)
  | .comment => .done b.addComment
  | .startTag tag => .done (bodyStart b tag)
  | .endTag name => bodyEnd b name
  | .eof => if b.templates = [] then .done b else endOpenTemplate b
  | .null | .doctype _ | .nothing => .done b

/-- What comes too late is put into the body after all. -/
def backToBody (b : Builder) (t : Token) : Outcome := b.retry .inBody t

def rootElementPlace (b : Builder) : Place := .inside ((b.stack.getLast?.map (·.id)).getD Document.root)

def afterBody (b : Builder) (t : Token) : Outcome :=
  match t with
  | .text s => onText b s bodyText backToBody
  | .comment => .done (b.addCommentAt (rootElementPlace b))
  | .startTag tag => if tag.name = "html" then .done b else backToBody b t
  | .endTag name => if name = "html" then .done (b.goTo .afterAfterBody) else backToBody b t
  | .eof => .done b
  | t => backToBody b t

def afterAfterBody (b : Builder) (t : Token) : Outcome :=
  match t with
  | .text s => onText b s bodyText backToBody
  | .comment => .done (b.addCommentAt (.inside Document.root))
  | .startTag tag => if tag.name = "html" then .done b else backToBody b t
  | .eof => .done b
  | t => backToBody b t

end Retrieval.Markup.Rules
