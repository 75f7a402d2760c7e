/-!
# Sets of document ids

A set is the list of its ids in ascending order, so that equal sets are equal lists and an answer can be
read off.

* `merge`, `common`, `without` : union, intersection and difference of ascending lists, in one pass;
* `DocSet` : an ascending list of ids, with `∪`, `∩` and `\`.
-/

namespace Retrieval

abbrev DocId := Nat

namespace Ascending

def merge : List DocId → List DocId → List DocId
  | [], bs => bs
  | as, [] => as
  | a :: as, b :: bs =>
    if a < b then a :: merge as (b :: bs)
    else if b < a then b :: merge (a :: as) bs
    else a :: merge as bs
termination_by as bs => as.length + bs.length

def common : List DocId → List DocId → List DocId
  | [], _ => []
  | _, [] => []
  | a :: as, b :: bs =>
    if a < b then common as (b :: bs)
    else if b < a then common (a :: as) bs
    else a :: common as bs
termination_by as bs => as.length + bs.length

def without : List DocId → List DocId → List DocId
  | [], _ => []
  | as, [] => as
  | a :: as, b :: bs =>
    if a < b then a :: without as (b :: bs)
    else if b < a then without (a :: as) bs
    else without as bs
termination_by as bs => as.length + bs.length

/-! ## Members -/

theorem mem_merge {x : DocId} (as bs : List DocId) : x ∈ merge as bs ↔ x ∈ as ∨ x ∈ bs := by
  fun_induction merge as bs <;> grind

theorem mem_common {x : DocId} (as bs : List DocId) (ha : as.Pairwise (· < ·))
    (hb : bs.Pairwise (· < ·)) : x ∈ common as bs ↔ x ∈ as ∧ x ∈ bs := by
  fun_induction common as bs <;> grind [List.pairwise_cons]

theorem mem_without {x : DocId} (as bs : List DocId) (ha : as.Pairwise (· < ·))
    (hb : bs.Pairwise (· < ·)) : x ∈ without as bs ↔ x ∈ as ∧ x ∉ bs := by
  fun_induction without as bs <;> grind [List.pairwise_cons]

/-! ## Order -/

theorem merge_pairwise (as bs : List DocId) (ha : as.Pairwise (· < ·)) (hb : bs.Pairwise (· < ·)) :
    (merge as bs).Pairwise (· < ·) := by
  fun_induction merge as bs <;> grind [List.pairwise_cons, mem_merge]

theorem common_pairwise (as bs : List DocId) (ha : as.Pairwise (· < ·)) (hb : bs.Pairwise (· < ·)) :
    (common as bs).Pairwise (· < ·) := by
  fun_induction common as bs <;> grind [List.pairwise_cons, mem_common]

theorem without_pairwise (as bs : List DocId) (ha : as.Pairwise (· < ·)) (hb : bs.Pairwise (· < ·)) :
    (without as bs).Pairwise (· < ·) := by
  fun_induction without as bs <;> grind [List.pairwise_cons, mem_without]

end Ascending

/-! ## The type -/

/-- A finite set of document ids. -/
structure DocSet where
  ids : List DocId
  ascending : ids.Pairwise (· < ·) := by simp
deriving DecidableEq

namespace DocSet

instance : EmptyCollection DocSet := ⟨{ ids := [] }⟩

instance : Inhabited DocSet := ⟨∅⟩

instance : Membership DocId DocSet := ⟨fun s x => x ∈ s.ids⟩

instance : Union DocSet :=
  ⟨fun a b => ⟨Ascending.merge a.ids b.ids, Ascending.merge_pairwise _ _ a.ascending b.ascending⟩⟩

instance : Inter DocSet :=
  ⟨fun a b => ⟨Ascending.common a.ids b.ids, Ascending.common_pairwise _ _ a.ascending b.ascending⟩⟩

instance : SDiff DocSet :=
  ⟨fun a b => ⟨Ascending.without a.ids b.ids, Ascending.without_pairwise _ _ a.ascending b.ascending⟩⟩

def insert (x : DocId) (s : DocSet) : DocSet :=
  ⟨Ascending.merge [x] s.ids, Ascending.merge_pairwise _ _ (List.pairwise_singleton _ _) s.ascending⟩

def ofList (ids : List DocId) : DocSet := ids.foldr insert ∅

def below (n : Nat) : DocSet := ⟨List.range n, List.pairwise_lt_range⟩

def size (s : DocSet) : Nat := s.ids.length

def isEmpty (s : DocSet) : Bool := s.ids.isEmpty

theorem mem_iff {x : DocId} {s : DocSet} : x ∈ s ↔ x ∈ s.ids := Iff.rfl

@[ext] theorem ext {a b : DocSet} (h : ∀ x, x ∈ a ↔ x ∈ b) : a = b := by
  obtain ⟨as, ha⟩ := a
  obtain ⟨bs, hb⟩ := b
  congr 1
  refine List.Perm.eq_of_pairwise (fun x y _ _ hxy hyx => (Nat.lt_asymm hxy hyx).elim) ha hb ?_
  exact (List.perm_ext_iff_of_nodup (ha.imp Nat.ne_of_lt) (hb.imp Nat.ne_of_lt)).2 fun x => h x

@[simp] theorem not_mem_empty {x : DocId} : x ∉ (∅ : DocSet) := List.not_mem_nil

@[simp] theorem mem_union {x : DocId} {a b : DocSet} : x ∈ a ∪ b ↔ x ∈ a ∨ x ∈ b :=
  Ascending.mem_merge _ _

@[simp] theorem mem_inter {x : DocId} {a b : DocSet} : x ∈ a ∩ b ↔ x ∈ a ∧ x ∈ b :=
  Ascending.mem_common _ _ a.ascending b.ascending

@[simp] theorem mem_sdiff {x : DocId} {a b : DocSet} : x ∈ a \ b ↔ x ∈ a ∧ x ∉ b :=
  Ascending.mem_without _ _ a.ascending b.ascending

@[simp] theorem mem_insert {x y : DocId} {s : DocSet} : x ∈ s.insert y ↔ x = y ∨ x ∈ s := by
  simp [insert, mem_iff, Ascending.mem_merge]

@[simp] theorem mem_ofList {x : DocId} (ids : List DocId) : x ∈ ofList ids ↔ x ∈ ids := by
  induction ids with
  | nil => simp [ofList]
  | cons y ids ih =>
    rw [show ofList (y :: ids) = insert y (ofList ids) from rfl, mem_insert, ih, List.mem_cons]

@[simp] theorem mem_below {x n : Nat} : x ∈ below n ↔ x < n := List.mem_range

end DocSet

end Retrieval
