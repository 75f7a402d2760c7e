import Retrieval.Text.Lowercase.Table

/-!
# Lower case

* `lowerChar` : the lower-case form of one character, which may have two characters;
* `endsWord` : whether a capital sigma stands at the end of a word;
* `lowercase` : the lower-case form of a text.
-/

namespace Retrieval.Text

/-- A character with its own lower-case form, or itself. -/
def lowerChar (c : Char) : List Char := (lowerForms.find? c).getD [c]

def casedAhead (s : List Char) : Bool :=
  (s.dropWhile caseIgnorable.contains).head?.any cased.contains

/-- Between the reversed text `before` and the text `after` a word ends: it has a cased character
behind it and none in front. -/
def endsWord (before after : List Char) : Bool := casedAhead before && !casedAhead after

/-- The lower-case form of a text, `before` being the part already seen and `done` its lower-case form,
both last first. -/
def lowerFrom (before done : List Char) : List Char → List Char
  | [] => done.reverse
  | c :: rest =>
    let image := if c = 'Σ' then [if endsWord before rest then 'ς' else 'σ'] else lowerChar c
    lowerFrom (c :: before) (image.reverse ++ done) rest

/-- The lower-case form of a list of characters; a capital sigma depends on its place. -/
def lowerList (s : List Char) : List Char := lowerFrom [] [] s

def lowercase (s : String) : String := .ofList (lowerList s.toList)

end Retrieval.Text
