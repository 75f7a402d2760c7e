import Retrieval.Markup.Element
import Retrieval.Markup.Token

/-!
# Building documents

A document is built token by token. What a token does depends on the mode, and on the elements that are open.

* `Builder` : the document so far, the open elements, and what else the rules keep in mind;
* `Builder.insertElement`, `addText`, `addComment` : put something at the current place;
* `Builder.pop`, `popThrough`, `popTo`, `closeImplied` : close elements;
* `Builder.resetMode` : the mode that fits the open elements;
* `Outcome` : what is left to do after a rule.
-/

namespace Retrieval.Markup

/-- Where in a document its builder is. -/
inductive Mode where
  | initial
  | beforeHtml
  | beforeHead
  | inHead
  | afterHead
  | inBody
  | rawText
  | inTable
  | inTableText
  | inCaption
  | inColumnGroup
  | inTableBody
  | inRow
  | inCell
  | inSelect
  | inSelectInTable
  | inTemplate
  | afterBody
  | inFrameset
  | afterFrameset
  | afterAfterBody
  | afterAfterFrameset
deriving Repr, DecidableEq

structure OpenElement where
  id : NodeId
  name : ElementName
deriving Repr, DecidableEq

/-- An entry among the elements that give text its form. A marker keeps apart what is inside a cell, a caption or an
object. -/
inductive FormattingEntry where
  | marker
  | element (id : NodeId) (tag : Tag)
deriving Repr, DecidableEq

/-- A document under way. -/
structure Builder where
  document : Document := .empty
  reading : Reading := .markup
  mode : Mode := .initial
  /-- the mode to go back to after raw text or the text of a table -/
  resume : Mode := .initial
  /-- the open elements, the innermost first -/
  stack : List OpenElement := []
  /-- the elements that give text its form, the last first -/
  formatting : List FormattingEntry := []
  /-- the modes within the open templates, the innermost first -/
  templates : List Mode := []
  head : Option OpenElement := none
  form : Option NodeId := none
  /-- whether a frameset may still take the place of the body -/
  admitsFrameset : Bool := true
  /-- whether tables may stand in paragraphs -/
  old : Bool := false
  /-- whether what does not belong into a table is put before it -/
  fosters : Bool := false
  /-- whether a line break that comes next is left out -/
  skipsBreak : Bool := false
  /-- text in a table that waits for its place, last first -/
  waiting : List (List Char) := []

namespace Builder

/-! ## The open elements -/

def currentIs (b : Builder) (p : ElementName → Bool) : Bool := b.stack.head?.any (p ·.name)

def atElement (b : Builder) (name : String) : Bool := b.currentIs (·.isNamed name)

def hasOpen (b : Builder) (name : String) : Bool := b.stack.any (·.name.isNamed name)

/-- Whether a search among open elements, the innermost first, comes to an element that satisfies a condition. -/
def reaches (scope : Scope) (p : OpenElement → Bool) : List OpenElement → Bool
  | [] => false
  | e :: rest => p e || (!scope.endsAt e.name && reaches scope p rest)

def inScopeAny (b : Builder) (scope : Scope) (names : List String) : Bool :=
  reaches scope (·.name.isOneOf names) b.stack

def inScope (b : Builder) (scope : Scope) (name : String) : Bool := reaches scope (·.name.isNamed name) b.stack

def body? (b : Builder) : Option OpenElement := b.stack.dropLast.getLast?.filter (·.name.isNamed "body")

/-! ## Places -/

/-- Where something goes that a table does not take: before the innermost table, or into a template inside it. -/
def fosterPlace (d : Document) : List OpenElement → Place
  | [] => .inside Document.root
  | [e] => .inside e.id
  | e :: outer :: rest =>
    if e.name.isNamed "template" then .inside e.id
    else if e.name.isNamed "table" then
      if (d.parent? e.id).isSome then .before e.id else .inside outer.id
    else fosterPlace d (outer :: rest)

def placeIn (b : Builder) (target : OpenElement) : Place :=
  if b.fosters && target.name.isOneOf tableParts then fosterPlace b.document b.stack else .inside target.id

def place (b : Builder) : Place :=
  match b.stack with
  | e :: _ => b.placeIn e
  | [] => .inside Document.root

/-! ## Insertion -/

def withDocument (b : Builder) (f : Document → Document) : Builder := { b with document := f b.document }

def addText (b : Builder) (s : List Char) : Builder :=
  if s = [] then b
  else
    let place := b.place
    b.withDocument (·.insertText place (.ofList s))

def addCommentAt (b : Builder) (place : Place) : Builder :=
  let (id, document) := b.document.create .comment
  { b with document := document.insert place id }

def addComment (b : Builder) : Builder := b.addCommentAt b.place

def createElement (b : Builder) (language : Language) (tag : Tag) : OpenElement × Builder :=
  let name : ElementName := ⟨language, tag.name⟩
  let (id, document) := b.document.create (.element name tag.attributes)
  (⟨id, name⟩, { b with document })

/-- Adds an element at the current place, which does not stay open. -/
def insertClosed (b : Builder) (language : Language) (tag : Tag) : OpenElement × Builder :=
  let place := b.place
  let (e, b) := b.createElement language tag
  (e, b.withDocument (·.insert place e.id))

def push (b : Builder) (e : OpenElement) : Builder := { b with stack := e :: b.stack }

def insertIn (b : Builder) (language : Language) (tag : Tag) : OpenElement × Builder :=
  let (e, b) := b.insertClosed language tag
  (e, b.push e)

def insertElement (b : Builder) (tag : Tag) : Builder := (b.insertIn .html tag).2

def insertEmpty (b : Builder) (tag : Tag) : Builder := (b.insertClosed .html tag).2

/-- Adds and opens an element whose tag has been left out. -/
def insertNamed (b : Builder) (name : String) : Builder := b.insertElement { name }

def createRoot (b : Builder) (tag : Tag) : Builder :=
  let (e, b) := b.createElement .html tag
  (b.withDocument (·.insert (.inside Document.root) e.id)).push e

/-- Adds and opens an element whose content is read in a way of its own. -/
def insertRaw (b : Builder) (tag : Tag) (reading : Reading) : Builder :=
  { b.insertElement tag with reading, resume := b.mode, mode := .rawText }

/-! ## Closing -/

def goTo (b : Builder) (mode : Mode) : Builder := { b with mode }

def pop (b : Builder) : Builder := { b with stack := b.stack.tail }

/-- Closes elements up to one that satisfies a condition, which stays open. -/
def popTo (b : Builder) (names : List String) : Builder :=
  { b with stack := b.stack.dropWhile (!·.name.isOneOf names) }

def popThroughAny (b : Builder) (names : List String) : Builder := (b.popTo names).pop

def popThrough (b : Builder) (name : String) : Builder := b.popThroughAny [name]

def remove (b : Builder) (id : NodeId) : Builder := { b with stack := b.stack.eraseP (·.id == id) }

/-- Closes elements whose end may be left out. -/
def closeImplied (b : Builder) (names : List String) : Builder :=
  { b with stack := b.stack.dropWhile (·.name.isOneOf names) }

def closeImpliedBut (b : Builder) (name : String) : Builder := b.closeImplied (impliedEnds.filter (· ≠ name))

/-- Closes an element with a name, and before it those inside it. -/
def close (b : Builder) (name : String) : Builder := (b.closeImplied impliedEnds).popThrough name

def closeParagraph (b : Builder) : Builder := (b.closeImpliedBut "p").popThrough "p"

def endParagraph (b : Builder) : Builder := if b.inScope .button "p" then b.closeParagraph else b

/-- Says that no frameset may come any more. -/
def refuseFrameset (b : Builder) : Builder := { b with admitsFrameset := false }

/-- Forgets what gave form to text since the last marker, and the marker. -/
def clearFormatting (b : Builder) : Builder :=
  { b with formatting := (b.formatting.dropWhile (· ≠ .marker)).tail }

/-- Marks a place among the elements that give form to text. -/
def mark (b : Builder) : Builder := { b with formatting := .marker :: b.formatting }

/-! ## Modes -/

/-- The mode inside a selection, given what it stands in. -/
def selectMode : List OpenElement → Mode
  | [] => .inSelect
  | e :: rest =>
    if e.name.isNamed "template" then .inSelect
    else if e.name.isNamed "table" then .inSelectInTable
    else selectMode rest

def modeFor (b : Builder) : List OpenElement → Mode
  | [] => .inBody
  | e :: rest =>
    let inside := rest ≠ []
    if e.name.isNamed "select" then selectMode rest
    else if e.name.isOneOf ["td", "th"] ∧ inside then .inCell
    else if e.name.isNamed "tr" then .inRow
    else if e.name.isOneOf ["tbody", "thead", "tfoot"] then .inTableBody
    else if e.name.isNamed "caption" then .inCaption
    else if e.name.isNamed "colgroup" then .inColumnGroup
    else if e.name.isNamed "table" then .inTable
    else if e.name.isNamed "template" then b.templates.head?.getD .inBody
    else if e.name.isNamed "head" ∧ inside then .inHead
    else if e.name.isNamed "body" then .inBody
    else if e.name.isNamed "frameset" then .inFrameset
    else if e.name.isNamed "html" then if b.head.isNone then .beforeHead else .afterHead
    else b.modeFor rest

def resetMode (b : Builder) : Builder := { b with mode := b.modeFor b.stack }

end Builder

/-! ## Outcomes -/

/-- What a rule makes of a token: nothing is left to do, or what is left of the token meets the rules once more. -/
inductive Outcome where
  | done (b : Builder)
  | again (b : Builder) (token : Token)

def Builder.retry (b : Builder) (mode : Mode) (token : Token) : Outcome := .again (b.goTo mode) token

/-- Divides a text behind its leading spaces. -/
def leadingSpaces (s : List Char) : List Char × List Char := (s.takeWhile isSpace, s.dropWhile isSpace)

end Retrieval.Markup
