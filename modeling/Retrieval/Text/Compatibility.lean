import Retrieval.Text.Compatibility.Table

/-!
# Compatibility composition

The normal form in which compatibility variants are replaced by what they stand for and every
character is composed as far as possible.

* `expand` : the full compatibility decomposition of a character;
* `orderMarks` : marks in the order of their combining classes;
* `compose` : the recomposition of a decomposed text;
* `normalize` : the normal form, from these three.
-/

namespace Retrieval.Text.Compatibility

/-! ## Combining classes -/

/-- The combining class of a character; zero for all but marks. -/
def combiningClass (c : Char) : Nat :=
  let i := partitionPoint (fun i => (combiningRuns[3 * i + 1]?).any (· < c.toNat)) 10 0
  if (combiningRuns[3 * i]?).any (· ≤ c.toNat) then combiningRuns.getD (3 * i + 2) 0 else 0

/-! ## Hangul syllables -/

/-- The leading, vowel and, if there is one, trailing jamo of the syllable with the given index. -/
def syllableJamo (index : Nat) : List Char :=
  let trailing := index % 28
  [Char.ofNat (0x1100 + index / 588), Char.ofNat (0x1161 + index % 588 / 28)] ++
    if trailing = 0 then [] else [Char.ofNat (0x11A7 + trailing)]

/-- The syllable of a leading and a vowel jamo, or of an open syllable and a trailing jamo. -/
def composeSyllable? (a b : Char) : Option Char :=
  let m := a.toNat
  let n := b.toNat
  if 0x1100 ≤ m && m < 0x1113 && 0x1161 ≤ n && n < 0x1176 then
    some (Char.ofNat (0xAC00 + ((m - 0x1100) * 21 + (n - 0x1161)) * 28))
  else if 0xAC00 ≤ m && m < 0xD7A4 && (m - 0xAC00) % 28 == 0 && 0x11A8 ≤ n && n < 0x11C3 then
    some (Char.ofNat (m + (n - 0x11A7)))
  else none

/-! ## The three steps -/

def expand (c : Char) : List Char :=
  if 0xAC00 ≤ c.toNat && c.toNat < 0xD7A4 then syllableJamo (c.toNat - 0xAC00)
  else if c.toNat < 0xA0 then [c]
  else (expansions.find? c).getD [c]

/-- Puts a character in front of ordered text; a mark moves behind marks of a smaller class. -/
def insertMark (c : Char) : List Char → List Char
  | [] => [c]
  | d :: rest =>
    if 0 < combiningClass d && combiningClass d < combiningClass c then d :: insertMark c rest
    else c :: d :: rest

/-- The text with every run of marks in the order of their classes, equal classes kept in place. -/
def orderMarks (s : List Char) : List Char := s.foldr insertMark []

def compositeIndex (a b : Char) : Nat :=
  partitionPoint (fun i =>
    (composites[3 * i]?).any (fun first =>
      first < a.toNat || (first == a.toNat && composites.getD (3 * i + 1) 0 < b.toNat))) 10 0

def compose? (a b : Char) : Option Char :=
  (composeSyllable? a b).orElse fun _ =>
    let i := compositeIndex a b
    if composites[3 * i]? == some a.toNat && composites[3 * i + 1]? == some b.toNat then
      (composites[3 * i + 2]?).map Char.ofNat
    else none

/-- Composes the rest of a text behind a starter. `done` is the finished part and `blocked` the
characters behind the starter that did not combine with it, both last first; `lastClass` is the class of
the last of these. -/
def composeFrom (done : List Char) (starter : Char) (blocked : List Char) (lastClass : Nat) :
    List Char → List Char
  | [] => (blocked ++ starter :: done).reverse
  | c :: rest =>
    let k := combiningClass c
    match if blocked.isEmpty || lastClass < k then compose? starter c else none with
    | some composite => composeFrom done composite blocked lastClass rest
    | none =>
      if k = 0 then composeFrom (blocked ++ starter :: done) c [] 0 rest
      else composeFrom done starter (c :: blocked) k rest

/-- Composes a decomposed text; marks in front of the first starter stay. -/
def compose (s : List Char) : List Char :=
  match s.span (combiningClass · ≠ 0) with
  | (marks, []) => marks
  | (marks, c :: rest) => composeFrom marks.reverse c [] 0 rest

/-- The normal form of a list of characters. -/
def normalizeList (s : List Char) : List Char := compose (orderMarks (s.flatMap expand))

def normalize (s : String) : String := .ofList (normalizeList s.toList)

end Retrieval.Text.Compatibility
