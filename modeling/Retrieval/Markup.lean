import Retrieval.Markup.Rules.Enclosed
import Retrieval.Markup.Rules.Foreign

/-!
# Marked-up documents

* `Markup.rules` : the rules of a mode;
* `Builder.take` : a document after one more token;
* `Markup.parse` : the document of a text.

Every text is a document: whatever is wrong in it is mended or left out.
-/

namespace Retrieval.Markup

def rules : Mode → Builder → Token → Outcome
  | .initial => Rules.initial
  | .beforeHtml => Rules.beforeHtml
  | .beforeHead => Rules.beforeHead
  | .inHead => Rules.inHead
  | .afterHead => Rules.afterHead
  | .inBody => Rules.inBody
  | .rawText => Rules.rawText
  | .inTable => Rules.inTable
  | .inTableText => Rules.inTableText
  | .inCaption => Rules.inCaption
  | .inColumnGroup => Rules.inColumnGroup
  | .inTableBody => Rules.inTableBody
  | .inRow => Rules.inRow
  | .inCell => Rules.inCell
  | .inSelect => Rules.inSelect
  | .inSelectInTable => Rules.inSelectInTable
  | .inTemplate => Rules.inTemplate
  | .afterBody => Rules.afterBody
  | .inFrameset => Rules.inFrameset
  | .afterFrameset => Rules.afterFrameset
  | .afterAfterBody => Rules.afterAfterBody
  | .afterAfterFrameset => Rules.afterAfterFrameset

namespace Builder

/-- What becomes of a token, by the rules of the mode or those for drawings and formulas. -/
def step (b : Builder) (t : Token) : Outcome :=
  let ordinary := rules b.mode
  if Rules.isForeign b t then Rules.foreign ordinary b t else ordinary b t

/-- Applies rules to a token until nothing is left of it, `fuel` times at most. -/
def settle : (fuel : Nat) → Builder → Token → Builder
  | 0, b, _ => b
  | fuel + 1, b, t =>
    match b.step t with
    | .done b => b
    | .again b t => settle fuel b t

/-- No token meets more rules than this: a rule that passes it on closes an element or goes to a later mode. -/
def settleBound (b : Builder) : Nat := 4 * b.document.nodes.size + 32

/-- The document after a document type, which counts at the start only. -/
def takeDoctype (b : Builder) (d : Doctype) : Builder :=
  if b.mode = .initial then { b with old := d.isOld, mode := .beforeHtml } else b

/-- A text without its first line break, if that is to be left out. -/
def withoutBreak (skips : Bool) (s : List Char) : List Char :=
  match skips, s with
  | true, '\n' :: rest => rest
  | _, s => s

def take (b : Builder) (t : Token) : Builder :=
  let skips := b.skipsBreak
  let b := { b with skipsBreak := false }
  match t with
  | .nothing => b
  | .doctype d => b.takeDoctype d
  | .text s =>
    let s := withoutBreak skips s
    if s = [] then b else settle b.settleBound b (.text s)
  | t => settle b.settleBound b t

/-- Whether the innermost open element is foreign, so that sections of text may come. -/
def isInForeign (b : Builder) : Bool := b.currentIs (·.language != .html)

/-- The document of a text that goes on, by `fuel` tokens at most. -/
def takeAll : (fuel : Nat) → Builder → List Char → Builder
  | 0, b, _ => b
  | fuel + 1, b, s =>
    let r := Token.next b.reading b.isInForeign s
    let b := { b with reading := r.reading }.take r.token
    match r.token with
    | .eof => b
    | _ => takeAll fuel b r.rest

end Builder

/-- The text with one kind of line break, `done` being the part before it, last first. -/
def unifyBreaks (done : List Char) : List Char → List Char
  | [] => done.reverse
  | '\r' :: '\n' :: rest => unifyBreaks ('\n' :: done) rest
  | '\r' :: rest => unifyBreaks ('\n' :: done) rest
  | c :: rest => unifyBreaks (c :: done) rest

/-- The text without the mark that may stand at its start. -/
def withoutMark : List Char → List Char
  | '\uFEFF' :: rest => rest
  | s => s

/-- The document of a text. Every token but the last takes a character away. -/
def parse (text : String) : Document :=
  let s := unifyBreaks [] (withoutMark text.toList)
  (Builder.takeAll (s.length + 1) {} s).document

end Retrieval.Markup
