import Mathlib.Data.Finset.Card
import Std.Data.TreeMap
import Std.Data.TreeSet

/-!
# Look-ups by equality

Where only equal keys compare as equal, a look-up after a change asks whether the keys are equal, and a map has as many
entries as it has keys:

* `mem_insert_iff`, `mem_erase_iff` : members of a set;
* `mem_map_insert_iff`, `getElem?_insert_ite`, `getD_insert_ite`, `getElem?_alter_ite`, `getD_alter_ite` : entries of a
  map;
* `card_toFinset_keys` : how many there are.
-/

namespace Retrieval

variable {α β : Type} {cmp : α → α → Ordering} [Std.LawfulEqCmp cmp]

theorem ite_compare_eq [DecidableEq α] {γ : Type} (k a : α) (x y : γ) :
    (if cmp k a = .eq then x else y) = if a = k then x else y := by
  simp only [Std.LawfulEqCmp.compare_eq_iff_eq, @eq_comm α k a]

variable [Std.TransCmp cmp]

theorem mem_insert_iff {s : Std.TreeSet α cmp} {k a : α} : a ∈ s.insert k ↔ a ∈ s ∨ a = k := by
  rw [Std.TreeSet.mem_insert, Std.LawfulEqCmp.compare_eq_iff_eq, or_comm, eq_comm]

theorem mem_erase_iff {s : Std.TreeSet α cmp} {k a : α} : a ∈ s.erase k ↔ a ∈ s ∧ a ≠ k := by
  rw [Std.TreeSet.mem_erase, ne_eq, Std.LawfulEqCmp.compare_eq_iff_eq, and_comm, ne_eq, eq_comm]

theorem mem_map_insert_iff {m : Std.TreeMap α β cmp} {k a : α} {v : β} : a ∈ m.insert k v ↔ a ∈ m ∨ a = k := by
  rw [Std.TreeMap.mem_insert, Std.LawfulEqCmp.compare_eq_iff_eq, or_comm, eq_comm]

variable [DecidableEq α]

theorem getElem?_insert_ite (m : Std.TreeMap α β cmp) (k a : α) (v : β) :
    (m.insert k v)[a]? = if a = k then some v else m[a]? := by
  rw [Std.TreeMap.getElem?_insert, ite_compare_eq]

theorem getD_insert_ite (m : Std.TreeMap α β cmp) (k a : α) (v d : β) :
    (m.insert k v).getD a d = if a = k then v else m.getD a d := by
  rw [Std.TreeMap.getD_insert, ite_compare_eq]

theorem getElem?_alter_ite (m : Std.TreeMap α β cmp) (k a : α) (f : Option β → Option β) :
    (m.alter k f)[a]? = if a = k then f m[a]? else m[a]? := by
  rw [Std.TreeMap.getElem?_alter, ite_compare_eq]
  by_cases h : a = k
  · rw [if_pos h, if_pos h, h]
  · rw [if_neg h, if_neg h]

theorem getD_alter_ite (m : Std.TreeMap α β cmp) (k a : α) (f : Option β → Option β) (d : β) :
    (m.alter k f).getD a d = if a = k then (f m[a]?).getD d else m.getD a d := by
  rw [Std.TreeMap.getD_alter, ite_compare_eq]
  by_cases h : a = k
  · rw [if_pos h, if_pos h, h]
  · rw [if_neg h, if_neg h]

omit [Std.LawfulEqCmp cmp] in
theorem card_toFinset_keys (m : Std.TreeMap α β cmp) : m.keys.toFinset.card = m.size := by
  rw [List.toFinset_card_of_nodup Std.TreeMap.nodup_keys, Std.TreeMap.length_keys]

end Retrieval
