import Retrieval.Markup.Rules.Body

/-!
# Rules for drawings and formulas

Elements of drawings and formulas have no rules of their own; the tags of ordinary text end them.

* `Rules.isForeign` : whether a token belongs to a drawing or a formula;
* `Rules.foreign` : the rules for such tokens.
-/

namespace Retrieval.Markup.Rules

def isText : Token → Bool
  | .text _ | .null => true
  | _ => false

/-- Whether a token is a start tag whose name satisfies a condition. -/
def isStart (p : String → Bool) : Token → Bool
  | .startTag tag => p tag.name
  | _ => false

/-- Names of elements that stay foreign in the text of formulas. -/
def formulaGlyphs : List String := ["mglyph", "malignmark"]

/-- Whether a token that meets an open element belongs to a drawing or a formula. -/
def belongsTo (e : ElementName) (t : Token) : Bool :=
  match t with
  | .eof => false
  | t =>
    e.language != .html &&
      !(e.holdsFormulaText && (isText t || isStart (!formulaGlyphs.contains ·) t)) &&
      !(e.holdsMarkup && (isText t || isStart (fun _ => true) t)) &&
      !(e == ⟨.math, "annotation-xml"⟩ && isStart (· == "svg") t)

def isForeign (b : Builder) (t : Token) : Bool := b.currentIs (belongsTo · t)

def breakouts : List String :=
  ["b", "big", "blockquote", "body", "br", "center", "code", "dd", "div", "dl", "dt", "em", "embed", "h1", "h2", "h3",
   "h4", "h5", "h6", "head", "hr", "i", "img", "li", "listing", "menu", "meta", "nobr", "ol", "p", "pre", "ruby",
   "s", "small", "span", "strong", "strike", "sub", "sup", "table", "tt", "u", "ul", "var"]

def breaksOut (tag : Tag) : Bool :=
  breakouts.contains tag.name ||
    (tag.name == "font" && ["color", "face", "size"].any fun name => (tag.attribute? name).isSome)

def admitsText (e : ElementName) : Bool := e.language == .html || e.holdsFormulaText || e.holdsMarkup

/-- Ends a drawing or a formula, and goes on with a token behind it. -/
def breakOut (b : Builder) (t : Token) : Outcome :=
  .again { b with stack := b.stack.tail.dropWhile (!admitsText ·.name) } t

/-- What an end tag closes among foreign elements, the innermost first. -/
inductive ForeignEnd where
  /-- an element, outside which these are open -/
  | found (outer : List OpenElement)
  /-- none; the rules of the mode are next -/
  | ordinary
  /-- none at all -/
  | missing

/-- Looks for what an end tag closes. The root is never closed, and the innermost element is foreign. -/
def foreignEnd (name : String) : (innermost : Bool) → List OpenElement → ForeignEnd
  | _, [] => .missing
  | _, [_] => .missing
  | innermost, e :: rest =>
    if e.name.language = .html ∧ ¬ innermost then .ordinary
    else if e.name.name = name then .found rest
    else foreignEnd name false rest

/-- The rules for drawings and formulas. `otherwise` are the rules of the mode. -/
def foreign (otherwise : Builder → Token → Outcome) (b : Builder) (t : Token) : Outcome :=
  match t with
  | .null => .done (b.addText ['\uFFFD'])
  | .text s => .done ((if s.all isSpace then b else b.refuseFrameset).addText s)
  | .comment => .done b.addComment
  | .startTag tag =>
    if breaksOut tag then breakOut b t
    else .done (startForeign ((b.stack.head?.map (·.name.language)).getD .html) b tag)
  | .endTag name =>
    if name = "br" ∨ name = "p" then breakOut b t
    else
      match foreignEnd name true b.stack with
      | .found outer => .done { b with stack := outer }
      | .ordinary => otherwise b t
      | .missing => .done b
  | t => otherwise b t

end Retrieval.Markup.Rules
