import Retrieval.Markup.Tag

/-!
# Raw text

The text of some elements is not read for tags: it ends where their own end tag begins, and nowhere else. In a script
there are comments, and an end tag does not count in a script within a comment.

* `RawText.closes name s` : whether a text begins with the end tag of an element;
* `RawText.untilEndTag` : the text before the end tag, and what begins with it;
* `RawText.script` : the same for a script.
-/

namespace Retrieval.Markup.RawText

/-- Whether a text begins with the name of a tag, in any case, and something that ends the name. -/
def beginsWithName (name : List Char) (s : List Char) : Bool :=
  (s.take name.length).map Char.toLower == name &&
    (s.drop name.length).head?.any fun c => isSpace c || c == '/' || c == '>'

def closes (name : List Char) : List Char → Bool
  | '<' :: '/' :: rest => beginsWithName name rest
  | _ => false

/-- Divides a text at the end tag of an element, `done` being what has been read, last first. -/
def divide (name : List Char) (done : List Char) : List Char → List Char × List Char
  | [] => (done.reverse, [])
  | c :: rest =>
    if closes name (c :: rest) then (done.reverse, c :: rest)
    else divide name (Tag.valueChar c :: done) rest

/-- The text before the end tag of an element, and what begins with that tag. -/
def untilEndTag (name : String) (s : List Char) : List Char × List Char := divide name.toList [] s

/-! ## Scripts -/

/-- What surrounds a place in a script. -/
inductive Depth where
  | plain
  | comment
  | scriptInComment
deriving Repr, DecidableEq

def scriptName : List Char := "script".toList

/-- The depth after the first character of a text. A comment counts as ended by the dashes that open it. -/
def Depth.next : Depth → List Char → Depth
  | .plain, '<' :: '!' :: '-' :: '-' :: _ => .comment
  | .comment, '-' :: '-' :: '>' :: _ => .plain
  | .comment, '<' :: rest => if beginsWithName scriptName rest then .scriptInComment else .comment
  | .scriptInComment, '-' :: '-' :: '>' :: _ => .plain
  | .scriptInComment, '<' :: '/' :: rest =>
    if beginsWithName scriptName rest then .comment else .scriptInComment
  | depth, _ => depth

def divideScript (depth : Depth) (done : List Char) : List Char → List Char × List Char
  | [] => (done.reverse, [])
  | c :: rest =>
    if depth ≠ .scriptInComment ∧ closes scriptName (c :: rest) then (done.reverse, c :: rest)
    else divideScript (depth.next (c :: rest)) (Tag.valueChar c :: done) rest

/-- The script before its end tag, and what begins with that tag. -/
def script (s : List Char) : List Char × List Char := divideScript .plain [] s

end Retrieval.Markup.RawText
