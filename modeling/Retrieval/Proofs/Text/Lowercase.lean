import Retrieval.Proofs.Text.CodeTable
import Retrieval.Text.Lowercase

/-!
# Lower case

Only a capital sigma depends on what is around it, and it looks no further than to the next character that is neither
ignored nor cased. What has been brought into lower case stays as it is.

* `Uncased`, `lowerList_append_uncased` : a text falls apart at such a character;
* `lowerings`, `exists_of_mem_lowerList` : what may become of a character;
* `Lowered`, `lowered_of_mem_lowerList` : the characters of a lower-case form;
* `lowerList_lowerList` : lower case is reached in one step.
-/

namespace Retrieval.Text

/-! ## What stands around a sigma -/

/-- A character that the search for a cased neighbour stops at, without having found one. -/
structure Uncased (b : Char) : Prop where
  not_ignorable : caseIgnorable.contains b = false
  not_cased : cased.contains b = false

/-- The search for a cased neighbour does not look behind an uncased character. -/
theorem casedAhead_append {b : Char} (hb : Uncased b) (x y : List Char) :
    casedAhead (x ++ b :: y) = casedAhead x := by
  induction x with
  | nil =>
    rw [List.nil_append, casedAhead, casedAhead, List.dropWhile_cons_of_neg (by simp [hb.not_ignorable]),
      List.dropWhile_nil]
    exact hb.not_cased
  | cons c x ih =>
    rw [casedAhead, casedAhead] at ih
    rw [List.cons_append, casedAhead, casedAhead, List.dropWhile_cons, List.dropWhile_cons]
    split
    · exact ih
    · rfl

/-- What becomes of a character between a reversed text and a text. -/
def lowerBetween (before : List Char) (c : Char) (after : List Char) : List Char :=
  if c = 'Σ' then [if endsWord before after then 'ς' else 'σ'] else lowerChar c

theorem lowerFrom_eq_append (before done s : List Char) :
    lowerFrom before done s = done.reverse ++ lowerFrom before [] s := by
  induction s generalizing before done with
  | nil => simp [lowerFrom]
  | cons c s ih =>
    rw [lowerFrom, lowerFrom, ih, ih (c :: before) (_ ++ [])]
    simp

theorem lowerFrom_cons (before : List Char) (c : Char) (s : List Char) :
    lowerFrom before [] (c :: s) = lowerBetween before c s ++ lowerFrom (c :: before) [] s := by
  rw [lowerFrom, lowerFrom_eq_append, List.append_nil, List.reverse_reverse]
  rfl

theorem lowerFrom_before_uncased {b : Char} (hb : Uncased b) (before more s : List Char) :
    lowerFrom (before ++ b :: more) [] s = lowerFrom before [] s := by
  induction s generalizing before with
  | nil => rfl
  | cons c s ih =>
    have hrest := ih (c :: before)
    rw [List.cons_append] at hrest
    rw [lowerFrom_cons, lowerFrom_cons, hrest, lowerBetween, lowerBetween, endsWord, endsWord, casedAhead_append hb]

theorem lowerFrom_after_uncased {b : Char} (hb : Uncased b) (before x y : List Char) :
    lowerFrom before [] (x ++ b :: y) =
      lowerFrom before [] x ++ lowerFrom (x.reverse ++ before) [] (b :: y) := by
  induction x generalizing before with
  | nil => rfl
  | cons c x ih =>
    rw [List.cons_append, lowerFrom_cons, lowerFrom_cons, ih, lowerBetween, lowerBetween, endsWord, endsWord,
      casedAhead_append hb, List.reverse_cons, List.append_assoc, List.append_assoc]
    rfl

/-- **A text falls apart at an uncased character.** -/
theorem lowerList_append_uncased {b : Char} (hb : Uncased b) (hsigma : b ≠ 'Σ') (x y : List Char) :
    lowerList (x ++ b :: y) = lowerList x ++ lowerChar b ++ lowerList y := by
  rw [lowerList, lowerFrom_after_uncased hb, lowerFrom_cons, lowerBetween, if_neg hsigma,
    ← List.nil_append (b :: (x.reverse ++ [])), lowerFrom_before_uncased hb, List.append_assoc]
  rfl

/-! ## What has no lower-case form of its own -/

/-- A character that is its own lower-case form. -/
structure Lowered (c : Char) : Prop where
  not_sigma : c ≠ 'Σ'
  lowerChar_eq : lowerChar c = [c]

def lowerings (c : Char) : List Char := if c = 'Σ' then ['σ', 'ς'] else lowerChar c

/-- A character without an entry in the table; a capital sigma has one. -/
theorem lowered_of_not_mem_cells {c : Char} (h : 0x800000 + c.toNat ∉ cells lowerRows) : Lowered c := by
  have hsigma : 0x800000 + 'Σ'.toNat ∈ cells lowerRows := by decide +kernel
  refine ⟨?_, ?_⟩
  · rintro rfl
    exact h hsigma
  · rw [lowerChar, lowerForms, CodeMap.find?_eq_none h]
    rfl

theorem lowered_of_mem_lowerings {c d : Char} (hd : d ∈ lowerings c) : Lowered d := by
  rw [lowerings] at hd
  split at hd
  · have hsmall : 0x800000 + 'σ'.toNat ∉ cells lowerRows := by decide +kernel
    have hfinal : 0x800000 + 'ς'.toNat ∉ cells lowerRows := by decide +kernel
    rw [List.mem_cons, List.mem_singleton] at hd
    rcases hd with rfl | rfl
    · exact lowered_of_not_mem_cells hsmall
    · exact lowered_of_not_mem_cells hfinal
  · next hsigma =>
    rw [lowerChar] at hd
    cases hfind : lowerForms.find? c with
    | none =>
      rw [hfind] at hd
      rw [List.mem_singleton.1 hd]
      exact ⟨hsigma, by rw [lowerChar, hfind]; rfl⟩
    | some image =>
      rw [hfind] at hd
      exact lowered_of_not_mem_cells (CodeMap.not_mem_cells_of_mem_image (by decide +kernel) hfind hd)

theorem exists_of_mem_lowerFrom {before s : List Char} {d : Char} (hd : d ∈ lowerFrom before [] s) :
    ∃ c ∈ s, d ∈ lowerings c := by
  induction s generalizing before with
  | nil => cases hd
  | cons c s ih =>
    rw [lowerFrom_cons] at hd
    rcases List.mem_append.1 hd with hfirst | hrest
    · refine ⟨c, List.mem_cons_self, ?_⟩
      rw [lowerBetween] at hfirst
      rw [lowerings]
      split at hfirst
      · next hsigma =>
        rw [if_pos hsigma]
        split at hfirst <;> simp_all
      · next hsigma => rwa [if_neg hsigma]
    · obtain ⟨e, he, hde⟩ := ih hrest
      exact ⟨e, List.mem_cons_of_mem _ he, hde⟩

theorem exists_of_mem_lowerList {s : List Char} {d : Char} (hd : d ∈ lowerList s) : ∃ c ∈ s, d ∈ lowerings c :=
  exists_of_mem_lowerFrom hd

theorem lowered_of_mem_lowerList {s : List Char} {d : Char} (hd : d ∈ lowerList s) : Lowered d := by
  obtain ⟨c, -, hc⟩ := exists_of_mem_lowerList hd
  exact lowered_of_mem_lowerings hc

theorem lowerFrom_of_lowered {s : List Char} (hs : ∀ c ∈ s, Lowered c) (before : List Char) :
    lowerFrom before [] s = s := by
  induction s generalizing before with
  | nil => rfl
  | cons c s ih =>
    obtain ⟨hc, hrest⟩ := List.forall_mem_cons.1 hs
    rw [lowerFrom_cons, lowerBetween, if_neg hc.not_sigma, hc.lowerChar_eq, ih hrest]
    rfl

theorem lowerList_of_lowered {s : List Char} (hs : ∀ c ∈ s, Lowered c) : lowerList s = s :=
  lowerFrom_of_lowered hs []

/-- **Lower case is reached in one step.** -/
theorem lowerList_lowerList (s : List Char) : lowerList (lowerList s) = lowerList s :=
  lowerList_of_lowered fun _ hd => lowered_of_mem_lowerList hd

end Retrieval.Text
