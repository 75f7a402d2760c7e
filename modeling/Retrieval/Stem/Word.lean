/-!
# Letters and regions of an English word

A word is a list of characters in lower case, in which `Y` stands for a `y` that acts as a consonant.

* `isVowel`, `endsShort` : vowels and short last syllables;
* `markConsonants` : tells the two kinds of `y` apart;
* `Regions` : where the two regions begin in which endings may be removed;
* `longestEnding?` : the longest of several endings that a word has.
-/

namespace Retrieval.Stem

/-- The vowels; a `y` in capital form is none. -/
def isVowel (c : Char) : Bool := c ∈ ['a', 'e', 'i', 'o', 'u', 'y']

/-- The word with `Y` for every `y` at its beginning or behind a vowel; `before` is the last character
already marked. -/
def markConsonantsFrom (before : Option Char) : List Char → List Char
  | [] => []
  | c :: rest =>
    let marked := if c = 'y' && before.all isVowel then 'Y' else c
    marked :: markConsonantsFrom (some marked) rest

/-- The word with `Y` for every `y` that acts as a consonant. -/
def markConsonants (w : List Char) : List Char := markConsonantsFrom none w

/-- The word with every `Y` back in lower case. -/
def unmarkConsonants (w : List Char) : List Char := w.map fun c => if c = 'Y' then 'y' else c

/-- Whether the word ends in a short syllable: a vowel between two consonants, the last one not `w`, `x`
or `Y`, or a vowel and a consonant that are the whole word. -/
def endsShort (w : List Char) : Bool :=
  match w.reverse with
  | c :: v :: b :: _ => !isVowel c && c ∉ ['w', 'x', 'Y'] && isVowel v && !isVowel b
  | [c, v] => !isVowel c && isVowel v
  | _ => false

/-! ## Regions -/

/-- Where the first and the second region begin, counted in characters. -/
structure Regions where
  first : Nat
  second : Nat

/-- The position behind the first consonant that follows a vowel at or after `from_`. -/
def regionAfter? (w : List Char) (from_ : Nat) : Option Nat :=
  match (w.drop from_).dropWhile (!isVowel ·) with
  | [] => none
  | _ :: rest =>
    match rest.dropWhile isVowel with
    | [] => none
    | _ :: tail => some (w.length - tail.length)

/-- Beginnings that fix the first region by themselves. -/
def fixedBeginnings : List (List Char) :=
  ["gener", "commun", "arsen"].map String.toList

/-- The regions of a word; a region that does not begin is empty. -/
def regions (w : List Char) : Regions :=
  match (fixedBeginnings.find? (·.isPrefixOf w)).map List.length <|> regionAfter? w 0 with
  | none => ⟨w.length, w.length⟩
  | some first => ⟨first, (regionAfter? w first).getD w.length⟩

/-! ## Endings -/

def before? (ending : String) (w : List Char) : Option (List Char) :=
  if ending.toList.isSuffixOf w then some (w.take (w.length - ending.length)) else none

/-- The longest listed ending of the word: what is in front of it and what the list says of it. -/
def longestEnding? {α : Type} (endings : List (String × α)) (w : List Char) :
    Option (List Char × α) :=
  endings.foldl (fun best (ending, rule) =>
    match before? ending w, best with
    | none, best => best
    | some base, none => some (base, rule)
    | some base, some (other, r) =>
      if base.length < other.length then some (base, rule) else some (other, r)) none

end Retrieval.Stem
