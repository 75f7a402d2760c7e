/-!
# Tables over code points

A character property is given as rows of cells. A row is one numeral of twelve cells, a cell is six
hexadecimal digits, and `FFFFFF` fills the last row up.

* `cells rows` : the cells in reading order;
* `partitionPoint bits below` : the number of leading positions where `below` holds, found by halving;
* `CodeSet` : a set of code points, given by the ascending points where membership changes;
* `CodeMap` : images of code points, a cell `800000 + c` opening the entry of `c`.
-/

namespace Retrieval.Text

def rowCells (row : Nat) : List Nat :=
  (List.range 12).map fun i => row / Nat.pow 16 (6 * (11 - i)) % Nat.pow 16 6

def cells (rows : List Nat) : List Nat :=
  (rows.flatMap rowCells).filter (· ≠ 0xFFFFFF)

/-- The first position in `base, …, base + 2 ^ bits - 1` where `below` fails, if `below` is true on an
initial segment and fails at the last of these positions. -/
def partitionPoint (below : Nat → Bool) : (bits : Nat) → (base : Nat) → Nat
  | 0, base => base
  | bits + 1, base =>
    partitionPoint below bits (if below (base + Nat.pow 2 bits - 1) then base + Nat.pow 2 bits else base)

/-! ## Sets -/

/-- A set of code points: the ascending points where membership changes, from outside on. -/
structure CodeSet where
  bounds : Array Nat

namespace CodeSet

def ofRows (rows : List Nat) : CodeSet := ⟨(cells rows).toArray⟩

def crossed (s : CodeSet) (c : Nat) : Nat :=
  partitionPoint (fun i => (s.bounds[i]?).any (· ≤ c)) 12 0

/-- A code point is inside after an odd number of bounds. -/
def contains (s : CodeSet) (c : Char) : Bool := s.crossed c.toNat % 2 == 1

end CodeSet

/-! ## Maps -/

/-- Images of code points, in ascending order of the code points. -/
structure CodeMap where
  entries : Array (Nat × List Char)

namespace CodeMap

/-- Splits a stream of cells into entries; the first component collects the image that is open. -/
def splitEntries : List Nat → List Char × List (Nat × List Char)
  | [] => ([], [])
  | cell :: rest =>
    let (image, entries) := splitEntries rest
    if 0x800000 ≤ cell then ([], (cell - 0x800000, image) :: entries)
    else (Char.ofNat cell :: image, entries)

def ofRows (rows : List Nat) : CodeMap := ⟨(splitEntries (cells rows)).2.toArray⟩

def find? (m : CodeMap) (c : Char) : Option (List Char) :=
  let i := partitionPoint (fun i => (m.entries[i]?).any (·.1 < c.toNat)) 14 0
  match m.entries[i]? with
  | some (key, image) => if key = c.toNat then some image else none
  | none => none

end CodeMap

end Retrieval.Text
