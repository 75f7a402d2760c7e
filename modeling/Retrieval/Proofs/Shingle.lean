import Mathlib.Data.List.Sort
import Mathlib.Data.String.Basic
import Retrieval.Proofs.Ordered
import Retrieval.Shingle

/-!
# Sketches

* `mem_windows_iff` : the windows of a list;
* `sketchOrder_trans`, `sketchOrder_total`, `sketchOrder_antisymm` : hashed shingles are in a linear order;
* `sketchOrdered_eq` : shingles in this order are the ordered shingles of any list that has the same;
* `Before` : the strict order of shingles, by hash and then word by word;
* `distinct` : the shingles of a list, each of them once, in this order;
* `sketch_congr` : a sketch depends on the set of shingles only;
* `exists_sketch`, `supershingles_eq` : a sketch fills whole groups, and each of them has its hash.
-/

namespace Retrieval

/-! ## Windows -/

section Windows
variable {α : Type} {n : Nat} {items w : List α}

theorem windows_eq (n : Nat) (items : List α) :
    windows n items = (List.range (items.length + 1 - n)).map fun i => (items.drop i).take n := by
  unfold windows
  apply List.map_congr_left
  intro i _
  rw [Array.toList_extract, List.toList_toArray, List.extract_eq_take_drop, Nat.add_sub_cancel_left]

theorem mem_windows_iff : w ∈ windows n items ↔ w.length = n ∧ w <:+: items := by
  rw [windows_eq, List.mem_map]
  constructor
  · rintro ⟨i, hi, rfl⟩
    rw [List.mem_range] at hi
    refine ⟨?_, ?_⟩
    · rw [List.length_take, List.length_drop]
      omega
    · exact (List.take_prefix n _).isInfix.trans (List.drop_suffix i items).isInfix
  · rintro ⟨rfl, x, y, rfl⟩
    refine ⟨x.length, ?_, ?_⟩
    · rw [List.mem_range, List.length_append, List.length_append]
      omega
    · rw [List.append_assoc, List.drop_left, List.take_left]

end Windows

/-! ## The order of hashed shingles -/

theorem sketchOrder_iff {a b : UInt64 × Shingle} :
    sketchOrder a b ↔ a.1 < b.1 ∨ a.1 = b.1 ∧ (compare a.2 b.2).isLE := by
  simp [sketchOrder]

theorem sketchOrder_trans (a b c : UInt64 × Shingle) (hab : sketchOrder a b) (hbc : sketchOrder b c) :
    sketchOrder a c := by
  rw [sketchOrder_iff] at hab hbc ⊢
  rcases hab with hab | ⟨hab, hle⟩
  · rcases hbc with hbc | ⟨hbc, -⟩
    · exact Or.inl (UInt64.lt_trans hab hbc)
    · exact Or.inl (hbc ▸ hab)
  · rcases hbc with hbc | ⟨hbc, hle'⟩
    · exact Or.inl (hab ▸ hbc)
    · exact Or.inr ⟨hab.trans hbc, Std.TransCmp.isLE_trans hle hle'⟩

theorem sketchOrder_total (a b : UInt64 × Shingle) : (sketchOrder a b || sketchOrder b a) = true := by
  rw [Bool.or_eq_true, sketchOrder_iff, sketchOrder_iff]
  by_cases h : a.1 = b.1
  · have hswap : compare a.2 b.2 = (compare b.2 a.2).swap := Std.OrientedCmp.eq_swap
    cases hcmp : compare b.2 a.2 with
    | lt => exact Or.inr (Or.inr ⟨h.symm, rfl⟩)
    | eq => exact Or.inr (Or.inr ⟨h.symm, rfl⟩)
    | gt => exact Or.inl (Or.inr ⟨h, by rw [hswap, hcmp]; rfl⟩)
  · exact (UInt64.lt_or_lt_of_ne h).imp Or.inl Or.inl

theorem sketchOrder_antisymm {a b : UInt64 × Shingle} (hab : sketchOrder a b) (hba : sketchOrder b a) : a = b := by
  rw [sketchOrder_iff] at hab hba
  rcases hab with hab | ⟨heq, hle⟩
  · rcases hba with hba | ⟨heq, -⟩
    · exact absurd hba (UInt64.lt_asymm hab)
    · exact absurd (heq ▸ hab) (UInt64.lt_irrefl _)
  · rcases hba with hba | ⟨-, hle'⟩
    · exact absurd (heq ▸ hba) (UInt64.lt_irrefl _)
    · exact Prod.ext heq (Std.LawfulEqCmp.eq_of_compare (Std.OrientedCmp.isLE_antisymm hle hle'))

def hashed (s : Shingle) : UInt64 × Shingle := (groupHash s, s)

/-- The shingles of a list in the order of their hashes. -/
def sketchOrdered (list : List Shingle) : List Shingle := ((list.map hashed).mergeSort sketchOrder).map (·.2)

/-- **There is one list of the given shingles in the order of their hashes.** -/
theorem sketchOrdered_eq {list sorted : List Shingle} (hperm : sorted.Perm list)
    (hsorted : sorted.Pairwise fun a b => sketchOrder (hashed a) (hashed b)) : sketchOrdered list = sorted := by
  have hsort : (list.map hashed).mergeSort sketchOrder = sorted.map hashed := by
    refine List.Perm.eq_of_pairwise (fun a b _ _ hab hba => sketchOrder_antisymm hab hba)
      (List.pairwise_mergeSort sketchOrder_trans sketchOrder_total _) (List.pairwise_map.2 hsorted) ?_
    exact (List.mergeSort_perm _ _).trans (hperm.symm.map hashed)
  rw [sketchOrdered, hsort, List.map_map]
  exact List.map_id sorted

theorem pairwise_sketchOrdered (list : List Shingle) :
    (sketchOrdered list).Pairwise fun a b => sketchOrder (hashed a) (hashed b) := by
  have hsort := List.pairwise_mergeSort sketchOrder_trans sketchOrder_total (list.map hashed)
  have hhashed : ∀ p ∈ (list.map hashed).mergeSort sketchOrder, p = hashed p.2 := by
    intro p hp
    rw [(List.mergeSort_perm _ _).mem_iff] at hp
    obtain ⟨s, -, rfl⟩ := List.mem_map.1 hp
    rfl
  rw [sketchOrdered, List.pairwise_map]
  refine hsort.imp_of_mem fun {a b} ha hb hab => ?_
  rwa [← hhashed a ha, ← hhashed b hb]

theorem mem_sketchOrdered {list : List Shingle} {s : Shingle} : s ∈ sketchOrdered list ↔ s ∈ list := by
  have hperm : (sketchOrdered list).Perm list := by
    have hmap := (List.mergeSort_perm (list.map hashed) sketchOrder).map (·.2)
    rw [List.map_map] at hmap
    exact hmap.trans (.of_eq (List.map_id list))
  exact hperm.mem_iff

/-! ## Distinct shingles -/

section Distinct
variable {list other : List Shingle} {s t : Shingle}

/-- A shingle comes before another by a smaller hash or, where the hashes are equal, by its words. -/
def Before (s t : Shingle) : Prop := groupHash s < groupHash t ∨ groupHash s = groupHash t ∧ s < t

instance (s t : Shingle) : Decidable (Before s t) := inferInstanceAs (Decidable (_ ∨ _))

theorem compare_eq_lt_iff (s t : Shingle) : compare s t = .lt ↔ s < t := by
  induction s generalizing t with
  | nil => cases t <;> simp
  | cons v s ih =>
    cases t with
    | nil => simp
    | cons w t =>
      rw [List.compare_cons_cons, List.cons_lt_cons_iff, Ordering.then_eq_lt, compare_lt_iff_lt, compare_eq_iff_eq, ih]

theorem before_iff : Before s t ↔ sketchOrder (hashed s) (hashed t) ∧ s ≠ t := by
  rw [sketchOrder_iff]
  have hwords : s < t ↔ (compare s t).isLE ∧ s ≠ t := by
    have heq : compare s t = .eq ↔ s = t := Std.LawfulEqCmp.compare_eq_iff_eq
    rw [← compare_eq_lt_iff, ne_eq, ← heq]
    cases compare s t <;> simp
  unfold Before hashed
  rw [hwords]
  constructor
  · rintro (hlt | ⟨heq, hle, hne⟩)
    · refine ⟨.inl hlt, ?_⟩
      rintro rfl
      exact UInt64.lt_irrefl _ hlt
    · exact ⟨.inr ⟨heq, hle⟩, hne⟩
  · rintro ⟨hlt | ⟨heq, hle⟩, hne⟩
    · exact .inl hlt
    · exact .inr ⟨heq, hle, hne⟩

theorem Before.asymm (hst : Before s t) (hts : Before t s) : False := by
  rw [before_iff] at hst hts
  exact hst.2 (congrArg Prod.snd (sketchOrder_antisymm hst.1 hts.1))

instance : Std.Irrefl Before := ⟨fun _ h => h.asymm h⟩

instance : Std.Antisymm Before := ⟨fun _ _ hst hts => (hst.asymm hts).elim⟩

/-- The shingles of a list in order, each of them once. -/
def distinct (list : List Shingle) : List Shingle := (sketchOrdered list).eraseReps

theorem mem_distinct : s ∈ distinct list ↔ s ∈ list := by
  rw [distinct, mem_eraseReps, mem_sketchOrdered]

theorem pairwise_distinct (list : List Shingle) : (distinct list).Pairwise Before := by
  have hantisymm (s t : Shingle) (hst : sketchOrder (hashed s) (hashed t)) (hts : sketchOrder (hashed t) (hashed s)) :
      s = t := congrArg Prod.snd (sketchOrder_antisymm hst hts)
  apply (pairwise_eraseReps hantisymm (pairwise_sketchOrdered list)).imp
  exact before_iff.2

/-- **Lists with the same shingles have the same distinct shingles, in the same order.** -/
theorem distinct_congr (h : ∀ s, s ∈ list ↔ s ∈ other) : distinct list = distinct other := by
  apply (pairwise_distinct list).eq_of_mem_iff (pairwise_distinct other)
  intro s
  rw [mem_distinct, mem_distinct, h]

end Distinct

/-! ## Sizes -/

theorem sketch_eq {k : Nat} (hk : k ≠ 0) (list : List Shingle) (limit : Nat) :
    sketch list k limit =
      .ok ((sketchOrdered list).eraseReps.take (min (sketchOrdered list).eraseReps.length limit / k * k)) := by
  rw [sketch, if_neg hk]
  rfl

theorem sketch_congr {list other : List Shingle} (h : ∀ s, s ∈ list ↔ s ∈ other) (k limit : Nat) :
    sketch list k limit = sketch other k limit := by
  by_cases hk : k = 0
  · rw [sketch, sketch, if_pos hk, if_pos hk]
  · have hdistinct : (sketchOrdered list).eraseReps = (sketchOrdered other).eraseReps := distinct_congr h
    rw [sketch_eq hk, sketch_eq hk, hdistinct]

theorem exists_sketch {k : Nat} (hk : k ≠ 0) (list : List Shingle) (limit : Nat) :
    ∃ sample, sketch list k limit = .ok sample ∧ sample.length % k = 0 := by
  refine ⟨_, sketch_eq hk list limit, ?_⟩
  rw [List.length_take, Nat.min_eq_left]
  · exact Nat.mul_mod_left _ _
  · exact Nat.le_trans (Nat.div_mul_le_self _ _) (Nat.min_le_left _ _)

theorem supershingles_eq {α : Type} {k : Nat} (hk : k ≠ 0) {sample : List α} (h : sample.length % k = 0)
    (hash : List α → UInt64) : supershingles sample hash k =
      .ok ((List.range (sample.length / k)).map fun i => hash ((sample.drop (i * k)).take k)) := by
  rw [supershingles, if_neg hk, if_neg (not_not_intro h)]

end Retrieval
