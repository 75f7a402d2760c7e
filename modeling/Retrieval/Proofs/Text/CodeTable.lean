import Mathlib.Algebra.Group.Nat.Defs
import Mathlib.Data.List.TakeWhile
import Retrieval.Text.CodeTable

/-!
# What tables over code points hold

A search by halving ends behind a position that it has seen hold and at one that it has seen fail. So whatever a look-up
finds stands in its table, in whatever order the table is.

* `partitionPoint_spec` : the two positions where a search ends;
* `CodeSet.runs`, `CodeSet.exists_run_of_contains` : a code point of a set is in one of its runs;
* `CodeMap.exists_cells_of_find?`, `CodeMap.find?_eq_none` : the image of a code point stands behind its cell, and a code
  point without a cell has none;
* `CodeMap.entriesAll`, `CodeMap.exists_of_find?` : what holds of all entries of a map, in one reading of its table;
* `CodeMap.not_mem_cells_of_mem_image` : maps whose images are not mapped any further;
* `triples`, `mem_triples_of_getElem?` : tables of three columns.
-/

namespace Retrieval.Text

theorem cells_append (rows more : List Nat) : cells (rows ++ more) = cells rows ++ cells more := by
  rw [cells, List.flatMap_append, List.filter_append]
  rfl

/-! ## Searching -/

theorem partitionPoint_spec (below : Nat → Bool) (bits base : Nat) :
    base ≤ partitionPoint below bits base ∧ partitionPoint below bits base < base + 2 ^ bits ∧
      (base < partitionPoint below bits base → below (partitionPoint below bits base - 1) = true) ∧
      (partitionPoint below bits base + 1 < base + 2 ^ bits → below (partitionPoint below bits base) = false) := by
  induction bits generalizing base with
  | zero =>
    rw [partitionPoint]
    omega
  | succ bits ih =>
    have hpow : (2 : Nat) ^ (bits + 1) = 2 ^ bits + 2 ^ bits := by rw [Nat.pow_succ, Nat.mul_two]
    have hpos : 0 < 2 ^ bits := Nat.two_pow_pos bits
    rw [partitionPoint, Nat.pow_eq]
    split
    · next hbelow =>
      obtain ⟨hfirst, hlast, hbefore, hat⟩ := ih (base + 2 ^ bits)
      refine ⟨by omega, by omega, fun _ => ?_, fun h => hat (by omega)⟩
      -- the search ends in the upper half; where it ends at the start of it, the position in front was seen
      rcases Nat.eq_or_lt_of_le hfirst with hstart | hinside
      · rw [← hstart]
        exact hbelow
      · exact hbefore hinside
    · next hbelow =>
      obtain ⟨hfirst, hlast, hbefore, hat⟩ := ih base
      refine ⟨hfirst, by omega, hbefore, fun _ => ?_⟩
      -- where it ends at the end of the lower half, that position was seen
      by_cases hinside : partitionPoint below bits base + 1 < base + 2 ^ bits
      · exact hat hinside
      · have hend : partitionPoint below bits base = base + 2 ^ bits - 1 := by omega
        rw [hend]
        exact eq_false_of_ne_true hbelow

/-! ## Sets -/

namespace CodeSet

/-- The runs of a table of bounds. One that is not closed goes on to the end of all code points. -/
def runs : List Nat → List (Nat × Nat)
  | lo :: hi :: rest => (lo, hi) :: runs rest
  | [lo] => [(lo, 0x110000)]
  | [] => []

theorem exists_mem_runs {bounds : List Nat} {i lo n : Nat} (hn : n < 0x110000) (hlo : bounds[2 * i]? = some lo)
    (hhi : ∀ hi, bounds[2 * i + 1]? = some hi → n < hi) : ∃ hi, (lo, hi) ∈ runs bounds ∧ n < hi := by
  induction bounds using runs.induct generalizing i with
  | case1 first second rest ih =>
    cases i with
    | zero =>
      cases hlo
      exact ⟨second, List.mem_cons_self, hhi second rfl⟩
    | succ i =>
      obtain ⟨hi, hmem, hlt⟩ := ih hlo hhi
      exact ⟨hi, List.mem_cons_of_mem _ hmem, hlt⟩
  | case2 first =>
    cases i with
    | zero =>
      cases hlo
      exact ⟨0x110000, List.mem_cons_self, hn⟩
    | succ i => cases hlo
  | case3 => cases hlo

theorem toNat_lt (c : Char) : c.toNat < 0x110000 := by
  have hvalid : c.val.toNat < 0xD800 ∨ 0xDFFF < c.val.toNat ∧ c.val.toNat < 0x110000 := c.valid
  change c.val.toNat < 0x110000
  omega

theorem not_surrogate (c : Char) : c.toNat < 0xD800 ∨ 0xDFFF < c.toNat := by
  obtain h | ⟨h, -⟩ := c.valid
  · exact .inl h
  · exact .inr h

theorem exists_run_of_contains {rows : List Nat} {c : Char} (hsize : (cells rows).length < 4095)
    (h : (ofRows rows).contains c = true) :
    ∃ lo hi, (lo, hi) ∈ runs (cells rows) ∧ lo ≤ c.toNat ∧ c.toNat < hi := by
  have hbounds (i : Nat) : (ofRows rows).bounds[i]? = (cells rows)[i]? := List.getElem?_toArray
  rw [contains, beq_iff_eq, crossed] at h
  obtain ⟨-, -, hbefore, hat⟩ :=
    partitionPoint_spec (fun i => ((ofRows rows).bounds[i]?).any (· ≤ c.toNat)) 12 0
  generalize partitionPoint (fun i => ((ofRows rows).bounds[i]?).any (· ≤ c.toNat)) 12 0 = p at h hbefore hat
  obtain ⟨i, rfl⟩ : ∃ i, p = 2 * i + 1 := ⟨p / 2, by omega⟩
  obtain ⟨lo, hlo, hle⟩ := (Option.any_eq_true _ _).1 (hbefore (Nat.succ_pos _))
  rw [hbounds, Nat.add_sub_cancel] at hlo
  have hlt : 2 * i < (cells rows).length := (List.getElem?_eq_some_iff.1 hlo).1
  have hhi (hi : Nat) (hget : (cells rows)[2 * i + 1]? = some hi) : c.toNat < hi := by
    have hnot := (Option.any_eq_false _ _).1 (hat (by omega)) hi ((hbounds _).trans hget)
    simpa using hnot
  obtain ⟨hi, hmem, hcode⟩ := exists_mem_runs (toNat_lt c) hlo hhi
  exact ⟨lo, hi, hmem, of_decide_eq_true hle, hcode⟩

end CodeSet

/-! ## Maps -/

namespace CodeMap

/-- The image that stands at the front of a stream of cells. -/
def frontImage (stream : List Nat) : List Char := (stream.takeWhile (· < 0x800000)).map Char.ofNat

theorem splitEntries_cons (cell : Nat) (rest : List Nat) : splitEntries (cell :: rest) =
    if 0x800000 ≤ cell then ([], (cell - 0x800000, (splitEntries rest).1) :: (splitEntries rest).2)
    else (Char.ofNat cell :: (splitEntries rest).1, (splitEntries rest).2) := rfl

theorem splitEntries_fst (stream : List Nat) : (splitEntries stream).1 = frontImage stream := by
  induction stream with
  | nil => rfl
  | cons cell rest ih =>
    rw [splitEntries_cons, frontImage]
    split
    · next hkey => rw [List.takeWhile_cons_of_neg (by simpa using hkey), List.map_nil]
    · next hkey => rw [List.takeWhile_cons_of_pos (by simpa using hkey), List.map_cons, ih, frontImage]

/-- The image of an entry stands behind the cell that opens it. -/
theorem exists_cells_of_mem_entries {stream : List Nat} {key : Nat} {image : List Char}
    (h : (key, image) ∈ (splitEntries stream).2) :
    ∃ front rest, stream = front ++ (0x800000 + key) :: rest ∧ image = frontImage rest := by
  induction stream with
  | nil => cases h
  | cons cell rest ih =>
    rw [splitEntries_cons] at h
    split at h
    · next hkey =>
      rcases List.mem_cons.1 h with hfirst | hlater
      · rw [Prod.mk.injEq] at hfirst
        refine ⟨[], rest, ?_, hfirst.2.trans (splitEntries_fst rest)⟩
        rw [List.nil_append, hfirst.1, Nat.add_sub_cancel' hkey]
      · obtain ⟨front, tail, rfl, himage⟩ := ih hlater
        exact ⟨cell :: front, tail, rfl, himage⟩
    · obtain ⟨front, tail, rfl, himage⟩ := ih h
      exact ⟨cell :: front, tail, rfl, himage⟩

/-- The image of a code point stands behind the cell that opens its entry. -/
theorem exists_cells_of_find? {rows : List Nat} {c : Char} {image : List Char}
    (h : (ofRows rows).find? c = some image) :
    ∃ front rest, cells rows = front ++ (0x800000 + c.toNat) :: rest ∧ image = frontImage rest := by
  rw [find?] at h
  split at h
  · next key found hget =>
    split at h
    · next hkey =>
      cases h
      rw [ofRows, List.getElem?_toArray] at hget
      exact exists_cells_of_mem_entries (hkey ▸ List.mem_of_getElem? hget)
    · cases h
  · cases h

theorem find?_eq_none {rows : List Nat} {c : Char} (h : 0x800000 + c.toNat ∉ cells rows) :
    (ofRows rows).find? c = none := by
  cases hfind : (ofRows rows).find? c with
  | none => rfl
  | some image =>
    obtain ⟨front, rest, hcells, -⟩ := exists_cells_of_find? hfind
    exact absurd (hcells ▸ List.mem_append_right _ List.mem_cons_self) h

/-! ### Properties of all entries -/

/-- Whether every entry of a stream of cells has a property, given by its code point and what stands behind that. -/
def entriesAll (p : Nat → List Nat → Bool) : List Nat → Bool
  | [] => true
  | cell :: rest => (cell < 0x800000 || p (cell - 0x800000) rest) && entriesAll p rest

theorem entriesAll_cons_key {p : Nat → List Nat → Bool} {key : Nat} {rest : List Nat} :
    entriesAll p ((0x800000 + key) :: rest) = (p key rest && entriesAll p rest) := by
  rw [entriesAll, Nat.add_sub_cancel_left, decide_eq_false (by omega), Bool.false_or]

theorem entriesAll_of_append {p : Nat → List Nat → Bool} {front stream : List Nat}
    (h : entriesAll p (front ++ stream) = true) : entriesAll p stream = true := by
  induction front with
  | nil => exact h
  | cons cell front ih =>
    rw [List.cons_append, entriesAll, Bool.and_eq_true] at h
    exact ih h.2

/-- A table may be read in parts, if what holds of an entry does not depend on where its part ends. -/
theorem entriesAll_append {p : Nat → List Nat → Bool} {stream more : List Nat}
    (hp : ∀ key rest, p key rest = true → p key (rest ++ more) = true) (h : entriesAll p stream = true)
    (hmore : entriesAll p more = true) : entriesAll p (stream ++ more) = true := by
  induction stream with
  | nil => exact hmore
  | cons cell rest ih =>
    rw [entriesAll, Bool.and_eq_true, Bool.or_eq_true] at h
    rw [List.cons_append, entriesAll, Bool.and_eq_true, Bool.or_eq_true]
    exact ⟨h.1.imp_right (hp _ rest), ih h.2⟩

theorem exists_of_find? {p : Nat → List Nat → Bool} {rows : List Nat} {c : Char} {image : List Char}
    (h : entriesAll p (cells rows) = true) (hfind : (ofRows rows).find? c = some image) :
    ∃ rest, image = frontImage rest ∧ p c.toNat rest = true := by
  obtain ⟨front, rest, hcells, himage⟩ := exists_cells_of_find? hfind
  have hentry := entriesAll_of_append (hcells ▸ h)
  rw [entriesAll_cons_key, Bool.and_eq_true] at hentry
  exact ⟨rest, himage, hentry.1⟩

/-! ### Images that have no image -/

/-- The code points with an entry, as the bits of a number. -/
def keyBits : List Nat → Nat
  | [] => 0
  | cell :: rest => if 0x800000 ≤ cell then 1 <<< (cell - 0x800000) ||| keyBits rest else keyBits rest

theorem testBit_keyBits {stream : List Nat} {key : Nat} (h : 0x800000 + key ∈ stream) :
    (keyBits stream).testBit key = true := by
  induction stream with
  | nil => cases h
  | cons cell rest ih =>
    rw [keyBits]
    rcases List.mem_cons.1 h with rfl | hrest
    · rw [if_pos (Nat.le_add_right _ _), Nat.add_sub_cancel_left, Nat.testBit_or, Nat.one_shiftLeft,
        Nat.testBit_two_pow_self, Bool.true_or]
    · split
      · rw [Nat.testBit_or, ih hrest, Bool.or_true]
      · exact ih hrest

/-- Whether no image in a stream of cells is one of the given code points. -/
def imagesAvoid (bits : Nat) (stream : List Nat) : Bool :=
  stream.all fun cell => 0x800000 ≤ cell || !bits.testBit (Char.ofNat cell).toNat

/-- What is an image in a map whose images avoid its code points has no cell itself. -/
theorem not_mem_cells_of_mem_image {rows : List Nat} {c d : Char} {image : List Char}
    (havoid : imagesAvoid (keyBits (cells rows)) (cells rows) = true) (h : (ofRows rows).find? c = some image)
    (hd : d ∈ image) : 0x800000 + d.toNat ∉ cells rows := by
  obtain ⟨front, rest, hcells, rfl⟩ := exists_cells_of_find? h
  obtain ⟨cell, hcell, rfl⟩ := List.mem_map.1 hd
  have hmem : cell ∈ cells rows :=
    hcells ▸ List.mem_append_right _ (List.mem_cons_of_mem _ ((List.takeWhile_sublist _).subset hcell))
  have himage : cell < 0x800000 := by simpa using List.mem_takeWhile_imp hcell
  intro hkey
  have hcheck := List.all_eq_true.1 havoid cell hmem
  rw [testBit_keyBits hkey, Bool.not_true, Bool.or_false, decide_eq_true_iff] at hcheck
  omega

end CodeMap

/-! ## Tables of three columns -/

/-- The lines of a table of three columns. -/
def triples : List Nat → List (Nat × Nat × Nat)
  | a :: b :: c :: rest => (a, b, c) :: triples rest
  | _ => []

theorem mem_triples_of_getElem? {table : List Nat} {i a b c : Nat} (ha : table[3 * i]? = some a)
    (hb : table[3 * i + 1]? = some b) (hc : table[3 * i + 2]? = some c) : (a, b, c) ∈ triples table := by
  induction table using triples.induct generalizing i with
  | case1 first second third rest ih =>
    cases i with
    | zero =>
      cases ha
      cases hb
      cases hc
      exact List.mem_cons_self
    | succ i => exact List.mem_cons_of_mem _ (ih ha hb hc)
  | case2 table hshort =>
    have hlength : 3 * i + 2 < table.length := (List.getElem?_eq_some_iff.1 hc).1
    rcases table with _ | ⟨first, _ | ⟨second, _ | ⟨third, rest⟩⟩⟩
    · rw [List.length_nil] at hlength
      omega
    · rw [List.length_singleton] at hlength
      omega
    · rw [List.length_cons, List.length_singleton] at hlength
      omega
    · exact absurd rfl (hshort first second third rest)

end Retrieval.Text
