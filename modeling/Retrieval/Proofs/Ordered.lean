import Mathlib.Data.List.Sort

/-!
# Lists in order

* `behind_take` : what is left out of the front of a list comes behind it;
* `eq_take_of_behind` : what stands in order before all that is left out is the front;
* `mem_eraseReps`, `pairwise_eraseReps` : an ordered list without its repetitions has each member once.
-/

namespace Retrieval

/-! ## The front -/

section Front
variable {α : Type} {R : α → α → Prop}

theorem behind_take {all : List α} (hall : all.Pairwise R) (n : Nat) :
    ∀ a ∈ all, a ∉ all.take n → ∀ b ∈ all.take n, R b a := by
  intro a ha hout b hb
  rw [← List.take_append_drop n all] at hall ha
  have hdrop := (List.mem_append.1 ha).resolve_left hout
  exact (List.pairwise_append.1 hall).2.2 b hb a hdrop

theorem eq_take_of_behind [Std.Irrefl R] [Std.Antisymm R] {all front : List α} (hall : all.Pairwise R)
    (hfront : front.Pairwise R) (hsubset : ∀ a ∈ front, a ∈ all)
    (hbehind : ∀ a ∈ all, a ∉ front → ∀ b ∈ front, R b a) : front = all.take front.length := by
  classical
  -- what is left out, in its order, completes the list
  have hsplit : front ++ all.filter (· ∉ front) = all := by
    apply List.Pairwise.eq_of_mem_iff _ hall
    · intro a
      rw [List.mem_append, List.mem_filter, decide_eq_true_iff]
      constructor
      · rintro (h | h)
        · exact hsubset a h
        · exact h.1
      · intro h
        by_cases hin : a ∈ front
        · exact .inl hin
        · exact .inr ⟨h, hin⟩
    · rw [List.pairwise_append]
      refine ⟨hfront, hall.filter _, fun b hb a ha => ?_⟩
      rw [List.mem_filter, decide_eq_true_iff] at ha
      exact hbehind a ha.1 ha.2 b hb
  rw [← hsplit, List.take_left]

end Front

/-! ## Repetitions -/

section Repetitions
variable {α : Type} [BEq α] [LawfulBEq α]

theorem eraseReps_cons_cons (a b : α) (l : List α) :
    (a :: b :: l).eraseReps = if a == b then (b :: l).eraseReps else a :: (b :: l).eraseReps := by
  have hloop (a : α) (l done : List α) :
      List.eraseRepsBy.loop (· == ·) a l done = done.reverse ++ (a :: l).eraseReps := by
    induction l generalizing a done with
    | nil => exact List.reverse_cons
    | cons b l ih =>
      rw [List.eraseReps, List.eraseRepsBy, List.eraseRepsBy.loop, List.eraseRepsBy.loop]
      cases a == b with
      | true => simp only [ih, List.reverse_nil, List.nil_append]
      | false => simp only [ih, List.reverse_cons, List.reverse_nil, List.nil_append, List.append_assoc]
  rw [List.eraseReps, List.eraseRepsBy, List.eraseRepsBy.loop]
  cases h : a == b with
  | true =>
    rw [eq_of_beq h]
    exact hloop b l []
  | false => exact hloop b l [a]

theorem mem_eraseReps {x : α} {l : List α} : x ∈ l.eraseReps ↔ x ∈ l := by
  induction l with
  | nil => exact Iff.rfl
  | cons a l ih =>
    cases l with
    | nil => exact Iff.rfl
    | cons b l =>
      rw [eraseReps_cons_cons]
      split
      · next h =>
        rw [ih, eq_of_beq h]
        simp
      · rw [List.mem_cons, List.mem_cons, ih]

theorem pairwise_eraseReps {le : α → α → Prop} (hantisymm : ∀ a b, le a b → le b a → a = b) {l : List α}
    (h : l.Pairwise le) : l.eraseReps.Pairwise fun a b => le a b ∧ a ≠ b := by
  induction l with
  | nil => exact List.Pairwise.nil
  | cons a l ih =>
    cases l with
    | nil => exact List.pairwise_singleton _ a
    | cons b l =>
      obtain ⟨ha, hrest⟩ := List.pairwise_cons.1 h
      rw [eraseReps_cons_cons]
      split
      · exact ih hrest
      · next hne =>
        refine List.pairwise_cons.2 ⟨fun x hx => ?_, ih hrest⟩
        have hmem : x ∈ b :: l := mem_eraseReps.1 hx
        refine ⟨ha x hmem, ?_⟩
        -- what stands between two equal members is equal to them
        intro hax
        have hba : le b a ∨ b = a := by
          rcases List.mem_cons.1 hmem with hxb | hx'
          · exact Or.inr (hax.trans hxb).symm
          · exact Or.inl (hax ▸ (List.pairwise_cons.1 hrest).1 x hx')
        have hab : a = b := hba.elim (hantisymm a b (ha b List.mem_cons_self)) Eq.symm
        exact hne (beq_iff_eq.2 hab)

end Repetitions

end Retrieval
