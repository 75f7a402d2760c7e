import Mathlib.Data.List.TakeWhile
import Retrieval.Text.Blank
import Retrieval.Text.Split

/-!
# Pieces and cores of texts

* `split_eq_splitOn` : the pieces of a text are those of its list of characters;
* `IsCore` : a text without the blanks at its ends, told by what stands around it;
* `isCore_iff` : trimming gives the core of a text, and there is no other.
-/

namespace Retrieval.Text

/-! ## Pieces -/

theorem split_eq_splitOn (sep : Char) (s : List Char) : split sep s = s.splitOn sep := by
  induction s with
  | nil => rw [split, List.splitOn_nil]
  | cons c rest ih =>
    rw [split, List.splitOn_cons_eq_if_modifyHead, ih]
    by_cases h : c = sep
    · rw [if_pos h, if_pos (beq_iff_eq.2 h)]
    · rw [if_neg h, if_neg (by simpa using h)]
      cases hpieces : rest.splitOn sep with
      | nil => exact absurd hpieces (List.splitOn_ne_nil sep rest)
      | cons piece pieces => rfl

/-! ## Cores -/

/-- Blanks stand in front of the core of a text and behind it, and none at its own ends. -/
def IsCore (s core : List Char) : Prop :=
  ∃ left right, s = left ++ core ++ right ∧ (∀ c ∈ left ++ right, isBlank c = true) ∧
    (∀ c ∈ core.head?, isBlank c = false) ∧ ∀ c ∈ core.getLast?, isBlank c = false

theorem dropWhile_isBlank_append {left rest : List Char} (hleft : ∀ c ∈ left, isBlank c = true)
    (hrest : ∀ c ∈ rest.head?, isBlank c = false) : (left ++ rest).dropWhile isBlank = rest := by
  rw [List.dropWhile_append_of_pos hleft]
  cases rest with
  | nil => rfl
  | cons c rest => exact List.dropWhile_cons_of_neg (by simp [hrest c rfl])

theorem head?_dropWhile_isBlank {s : List Char} {c : Char} (h : c ∈ (s.dropWhile isBlank).head?) :
    isBlank c = false := by
  have hhead := List.head?_dropWhile_not isBlank s
  rwa [Option.mem_def.1 h] at hhead

theorem isCore_trim (s : String) : IsCore s.toList (trim s).toList := by
  rw [trim, String.toList_ofList]
  generalize hrest : s.toList.dropWhile isBlank = rest
  have hsplit : rest = (rest.reverse.dropWhile isBlank).reverse ++ (rest.reverse.takeWhile isBlank).reverse := by
    rw [← List.reverse_append, List.takeWhile_append_dropWhile, List.reverse_reverse]
  refine ⟨s.toList.takeWhile isBlank, (rest.reverse.takeWhile isBlank).reverse, ?_, ?_, ?_, ?_⟩
  · rw [List.append_assoc, ← hsplit, ← hrest, List.takeWhile_append_dropWhile]
  · intro c hc
    rw [List.mem_append, List.mem_reverse] at hc
    exact hc.elim List.mem_takeWhile_imp List.mem_takeWhile_imp
  · -- a core that is not empty begins where the leading blanks end
    intro c hc
    have hhead : c ∈ (s.toList.dropWhile isBlank).head? := by
      rw [hrest, hsplit, List.head?_append, Option.mem_def.1 hc]
      rfl
    exact head?_dropWhile_isBlank hhead
  · intro c hc
    rw [List.getLast?_reverse] at hc
    exact head?_dropWhile_isBlank hc

theorem IsCore.trim_eq {s core : String} (h : IsCore s.toList core.toList) : trim s = core := by
  obtain ⟨left, right, hs, hblank, hhead, hlast⟩ := h
  have hleft : ∀ c ∈ left, isBlank c = true := fun c hc => hblank c (List.mem_append_left _ hc)
  have hright : ∀ c ∈ right.reverse, isBlank c = true := fun c hc =>
    hblank c (List.mem_append_right _ (List.mem_reverse.1 hc))
  have hback : ((core.toList ++ right).reverse.dropWhile isBlank).reverse = core.toList := by
    rw [List.reverse_append, dropWhile_isBlank_append hright, List.reverse_reverse]
    rwa [List.head?_reverse]
  -- a core that is empty leaves blanks only, so that nothing is left when the trailing ones are looked for
  have hfront : (left ++ (core.toList ++ right)).dropWhile isBlank =
      if core.toList = [] then [] else core.toList ++ right := by
    split
    · next hnil => rw [hnil, List.nil_append, List.dropWhile_eq_nil_iff.2 hblank]
    · next hne =>
      obtain ⟨c, rest, hcore⟩ := List.exists_cons_of_ne_nil hne
      rw [hcore] at hhead ⊢
      exact dropWhile_isBlank_append hleft hhead
  rw [trim, hs, List.append_assoc, hfront]
  split
  · next hnil =>
    rw [← String.ofList_toList (s := core), hnil]
    rfl
  · rw [hback, String.ofList_toList]

/-- **Trimming gives the core of a text.** -/
theorem isCore_iff {s core : String} : IsCore s.toList core.toList ↔ trim s = core := by
  constructor
  · exact IsCore.trim_eq
  · rintro rfl
    exact isCore_trim s

end Retrieval.Text
