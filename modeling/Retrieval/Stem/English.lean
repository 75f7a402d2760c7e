import Retrieval.Stem.Word

/-!
# English stems

Endings are removed in steps: plurals, `-ed` and `-ing`, a final `y`, then derivational endings from the
longer to the shorter, each only inside the region that its step names. Some words are stemmed by list.

* `Ending` : what an ending becomes and what has to stand in front of it;
* `step1a`, …, `step5` : the steps;
* `stem` : the stem of a word.
-/

namespace Retrieval.Stem

/-- What an ending is replaced with, where it has to lie, and what has to stand in front of it. -/
structure Ending where
  replacement : String
  region : Regions → Nat := Regions.first
  follows : List Char → Bool := fun _ => true

/-- Replaces the longest listed ending, if its region and its condition admit that. -/
def replaceEnding (endings : List (String × Ending)) (r : Regions) (w : List Char) : List Char :=
  match longestEnding? endings w with
  | none => w
  | some (base, rule) =>
    if rule.region r ≤ base.length && rule.follows base then base ++ rule.replacement.toList else w

/-! ## Inflection -/

def dropPossessive (w : List Char) : List Char :=
  match longestEnding? [("'", ()), ("'s", ()), ("'s'", ())] w with
  | some (base, _) => base
  | none => w

inductive Plural where
  | sses
  | ies
  | s
  | keep

def step1a (w : List Char) : List Char :=
  let w := dropPossessive w
  match longestEnding? [("sses", Plural.sses), ("ied", .ies), ("ies", .ies), ("s", .s), ("us", .keep),
      ("ss", .keep)] w with
  | some (base, .sses) => base ++ ['s', 's']
  | some (base, .ies) => base ++ if 2 ≤ base.length then ['i'] else ['i', 'e']
  | some (base, .s) => if base.dropLast.any isVowel then base else w
  | some (_, .keep) => w
  | none => w

/-- What an ending of past tense or gerund leaves is completed by an `e`, freed of a doubled consonant, or
lengthened if it is short. -/
def completeVerb (r : Regions) (base : List Char) : List Char :=
  if ["at", "bl", "iz"].any (fun s => s.toList.isSuffixOf base) then base ++ ['e']
  else if ["bb", "dd", "ff", "gg", "mm", "nn", "pp", "rr", "tt"].any
      (fun s => s.toList.isSuffixOf base) then base.dropLast
  else if base.length = r.first && endsShort base then base ++ ['e']
  else base

def step1b (r : Regions) (w : List Char) : List Char :=
  match longestEnding? [("eed", true), ("eedly", true), ("ed", false), ("edly", false),
      ("ing", false), ("ingly", false)] w with
  | some (base, true) => if r.first ≤ base.length then base ++ ['e', 'e'] else w
  | some (base, false) => if base.any isVowel then completeVerb r base else w
  | none => w

/-- Turns a final `y` behind a consonant that is not the first letter into `i`. -/
def step1c (w : List Char) : List Char :=
  match w.reverse with
  | y :: c :: b :: rest =>
    if (y = 'y' || y = 'Y') && !isVowel c then ('i' :: c :: b :: rest).reverse else w
  | _ => w

/-! ## Derivation -/

def admitsLi (base : List Char) : Bool :=
  base.getLast?.any (· ∈ ['c', 'd', 'e', 'g', 'h', 'k', 'm', 'n', 'r', 't'])

def endings2 : List (String × Ending) :=
  [("tional", { replacement := "tion" }), ("enci", { replacement := "ence" }),
   ("anci", { replacement := "ance" }), ("abli", { replacement := "able" }),
   ("entli", { replacement := "ent" }), ("izer", { replacement := "ize" }),
   ("ization", { replacement := "ize" }), ("ational", { replacement := "ate" }),
   ("ation", { replacement := "ate" }), ("ator", { replacement := "ate" }),
   ("alism", { replacement := "al" }), ("aliti", { replacement := "al" }),
   ("alli", { replacement := "al" }), ("fulness", { replacement := "ful" }),
   ("ousli", { replacement := "ous" }), ("ousness", { replacement := "ous" }),
   ("iveness", { replacement := "ive" }), ("iviti", { replacement := "ive" }),
   ("biliti", { replacement := "ble" }), ("bli", { replacement := "ble" }),
   ("ogi", { replacement := "og", follows := fun base => base.getLast? == some 'l' }),
   ("fulli", { replacement := "ful" }), ("lessli", { replacement := "less" }),
   ("li", { replacement := "", follows := admitsLi })]

def endings3 : List (String × Ending) :=
  [("tional", { replacement := "tion" }), ("ational", { replacement := "ate" }),
   ("alize", { replacement := "al" }), ("icate", { replacement := "ic" }),
   ("iciti", { replacement := "ic" }), ("ical", { replacement := "ic" }),
   ("ful", { replacement := "" }), ("ness", { replacement := "" }),
   ("ative", { replacement := "", region := Regions.second })]

/-- The endings of the fourth step, all removed in the second region. -/
def endings4 : List (String × Ending) :=
  ["al", "ance", "ence", "er", "ic", "able", "ible", "ant", "ement", "ment", "ent", "ism", "ate", "iti",
    "ous", "ive", "ize"].map (fun e => (e, { replacement := "", region := Regions.second }))
  ++ [("ion", { replacement := "", region := Regions.second,
                follows := fun base => base.getLast?.any (· ∈ ['s', 't']) })]

/-- Removes a final `e`, and one of two final `l`. -/
def step5 (r : Regions) (w : List Char) : List Char :=
  match w.getLast? with
  | some 'e' =>
    let base := w.dropLast
    if r.second ≤ base.length || (r.first ≤ base.length && !endsShort base) then base else w
  | some 'l' =>
    let base := w.dropLast
    if r.second ≤ base.length && base.getLast? == some 'l' then base else w
  | _ => w

/-! ## Exceptions -/

def listedStems : List (String × String) :=
  [("skis", "ski"), ("skies", "sky"), ("dying", "die"), ("lying", "lie"), ("tying", "tie"),
   ("idly", "idl"), ("gently", "gentl"), ("ugly", "ugli"), ("early", "earli"), ("only", "onli"),
   ("singly", "singl"), ("sky", "sky"), ("news", "news"), ("howe", "howe"), ("atlas", "atlas"),
   ("cosmos", "cosmos"), ("bias", "bias"), ("andes", "andes")]

/-- Words that are left alone once the plural is removed. -/
def invariantWords : List String :=
  ["inning", "outing", "canning", "herring", "earring", "proceed", "exceed", "succeed"]

def laterSteps (r : Regions) (w : List Char) : List Char :=
  step5 r <| replaceEnding endings4 r <| replaceEnding endings3 r <| replaceEnding endings2 r <|
    step1c <| step1b r w

/-- The stem of a word given as characters; words of one or two characters are their own stems. -/
def stemList (word : List Char) : List Char :=
  match listedStems.find? (·.1.toList == word) with
  | some (_, stem) => stem.toList
  | none =>
    if word.length < 3 then word
    else
      let marked := markConsonants (if word.head? == some '\'' then word.tail else word)
      let r := regions marked
      let singular := step1a marked
      unmarkConsonants <|
        if invariantWords.any (·.toList == singular) then singular else laterSteps r singular

def stem (word : String) : String := .ofList (stemList word.toList)

end Retrieval.Stem
