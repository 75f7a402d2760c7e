import Mathlib.Data.List.TakeDrop
import Retrieval.Proofs.Text.CodeTable
import Retrieval.Text.Compatibility

/-!
# Where normal forms fall apart

Marks do not move over a character of class zero, and what does not combine with what is in front of it begins a part
that is composed on its own.

* `orderMarks_append`, `compose_append` : the parts around such a character;
* `Inert`, `normalizeList_append_inert` : a text falls apart at a character that combines with nothing;
* `Settled`, `normalizeList_of_settled` : a text of characters that are composed on their own, and begin a part each, is
  in normal form;
* `exists_run_of_combiningClass`, `mem_triples_of_compose?` : which characters are marks, or combine, by the tables.
-/

namespace Retrieval.Text.Compatibility

/-! ## The order of marks -/

theorem insertMark_of_class_zero {b : Char} (hb : combiningClass b = 0) (s : List Char) :
    insertMark b s = b :: s := by
  cases s with
  | nil => rfl
  | cons d rest =>
    rw [insertMark, hb, if_neg]
    simp

/-- A mark does not move over a character of class zero. -/
theorem insertMark_append {b : Char} (hb : combiningClass b = 0) (c : Char) (x y : List Char) :
    insertMark c (x ++ b :: y) = insertMark c x ++ b :: y := by
  induction x with
  | nil =>
    rw [List.nil_append, insertMark, insertMark, hb, if_neg (by simp)]
    rfl
  | cons d x ih =>
    rw [List.cons_append, insertMark, insertMark]
    split
    · rw [ih, List.cons_append]
    · rfl

theorem orderMarks_cons (c : Char) (s : List Char) : orderMarks (c :: s) = insertMark c (orderMarks s) := rfl

theorem orderMarks_of_class_zero {b : Char} (hb : combiningClass b = 0) (s : List Char) :
    orderMarks (b :: s) = b :: orderMarks s := by
  rw [orderMarks_cons, insertMark_of_class_zero hb]

/-- **Marks are ordered on either side of a character of class zero.** -/
theorem orderMarks_append {b : Char} (hb : combiningClass b = 0) (x y : List Char) :
    orderMarks (x ++ b :: y) = orderMarks x ++ orderMarks (b :: y) := by
  rw [orderMarks_of_class_zero hb]
  induction x with
  | nil => exact orderMarks_of_class_zero hb y
  | cons c x ih => rw [List.cons_append, orderMarks_cons, ih, insertMark_append hb, orderMarks_cons]

/-! ## Composition -/

theorem composeFrom_eq_append (done : List Char) (starter : Char) (blocked : List Char) (lastClass : Nat)
    (s : List Char) :
    composeFrom done starter blocked lastClass s = done.reverse ++ composeFrom [] starter blocked lastClass s := by
  induction s generalizing done starter blocked lastClass with
  | nil => simp [composeFrom]
  | cons c s ih =>
    rw [composeFrom, composeFrom]
    split
    · exact ih done _ blocked lastClass
    · split
      · rw [ih (blocked ++ starter :: done), ih (blocked ++ [starter])]
        simp
      · exact ih done starter (c :: blocked) _

/-- A character that begins a part: it is no mark and combines with nothing in front of it. -/
structure Begins (b : Char) : Prop where
  class_zero : combiningClass b = 0
  not_second : ∀ a, compose? a b = none

/-- What is in front of a character that begins a part is done. -/
theorem composeFrom_cons {b : Char} (hb : Begins b) (done : List Char) (starter : Char) (blocked : List Char)
    (lastClass : Nat) (s : List Char) : composeFrom done starter blocked lastClass (b :: s) =
      composeFrom (blocked ++ starter :: done) b [] 0 s := by
  rw [composeFrom, hb.not_second, hb.class_zero]
  simp

theorem composeFrom_append {b : Char} (hb : Begins b) (done : List Char) (starter : Char) (blocked : List Char)
    (lastClass : Nat) (x y : List Char) : composeFrom done starter blocked lastClass (x ++ b :: y) =
      composeFrom done starter blocked lastClass x ++ composeFrom [] b [] 0 y := by
  induction x generalizing done starter blocked lastClass with
  | nil =>
    rw [List.nil_append, composeFrom_cons hb, composeFrom_eq_append]
    rfl
  | cons c x ih =>
    rw [List.cons_append, composeFrom, composeFrom]
    split
    · exact ih ..
    · split
      · exact ih ..
      · exact ih ..

@[simp] theorem compose_nil : compose [] = [] := by
  rw [compose, List.span_eq_takeWhile_dropWhile]
  rfl

theorem compose_cons_mark {c : Char} (hc : combiningClass c ≠ 0) (s : List Char) :
    compose (c :: s) = c :: compose s := by
  rw [compose, compose, List.span_eq_takeWhile_dropWhile, List.span_eq_takeWhile_dropWhile,
    List.takeWhile_cons_of_pos (by simpa using hc), List.dropWhile_cons_of_pos (by simpa using hc)]
  cases s.dropWhile (combiningClass · ≠ 0) with
  | nil => rfl
  | cons d rest =>
    dsimp only
    rw [composeFrom_eq_append, composeFrom_eq_append (s.takeWhile _).reverse]
    simp

theorem compose_cons_starter {c : Char} (hc : combiningClass c = 0) (s : List Char) :
    compose (c :: s) = composeFrom [] c [] 0 s := by
  rw [compose, List.span_eq_takeWhile_dropWhile, List.takeWhile_cons_of_neg (by simpa using hc),
    List.dropWhile_cons_of_neg (by simpa using hc)]
  rfl

/-- **What is on either side of the beginning of a part is composed on its own.** -/
theorem compose_append {b : Char} (hb : Begins b) (x y : List Char) :
    compose (x ++ b :: y) = compose x ++ compose (b :: y) := by
  induction x with
  | nil => rw [compose_nil, List.nil_append, List.nil_append]
  | cons c x ih =>
    rw [List.cons_append]
    by_cases hc : combiningClass c = 0
    · rw [compose_cons_starter hc, compose_cons_starter hc, composeFrom_append hb,
        compose_cons_starter hb.class_zero]
    · rw [compose_cons_mark hc, compose_cons_mark hc, ih, List.cons_append]

/-! ## Characters that combine with nothing -/

/-- A character that is no mark and combines with nothing on either side. -/
structure Inert (b : Char) : Prop extends Begins b where
  not_first : ∀ c, compose? b c = none

/-- The marks behind an inert character are as if they had nothing in front of them. -/
theorem composeFrom_inert {b : Char} (hb : Inert b) (blocked : List Char) (lastClass : Nat) (s : List Char) :
    composeFrom [] b blocked lastClass s = (blocked ++ [b]).reverse ++ compose s := by
  induction s generalizing blocked lastClass with
  | nil => simp [composeFrom]
  | cons c s ih =>
    rw [composeFrom, hb.not_first]
    simp only [ite_self]
    split
    · next hc => rw [compose_cons_starter hc, composeFrom_eq_append]
    · next hc =>
      rw [ih, compose_cons_mark hc]
      simp

theorem compose_cons_inert {b : Char} (hb : Inert b) (s : List Char) : compose (b :: s) = b :: compose s := by
  rw [compose_cons_starter hb.class_zero, composeFrom_inert hb]
  rfl

/-- **A text falls apart at a character that stands for an inert one.** -/
theorem normalizeList_append_inert {c b : Char} (hc : expand c = [b]) (hb : Inert b) (x y : List Char) :
    normalizeList (x ++ c :: y) = normalizeList x ++ b :: normalizeList y := by
  rw [normalizeList, List.flatMap_append, List.flatMap_cons, hc, List.singleton_append,
    orderMarks_append hb.class_zero, orderMarks_of_class_zero hb.class_zero, compose_append hb.toBegins,
    compose_cons_inert hb]
  rfl

/-! ## Texts in normal form -/

/-- The expansion of a character begins a part, has its marks in order and is composed to the character again. -/
structure ComposedOf (c first : Char) (others : List Char) : Prop where
  expand_eq : expand c = first :: others
  begins : Begins first
  ordered : orderMarks others = others
  composed : others.foldlM compose? first = some c

/-- A character that is composed on its own, and begins a part. -/
def Settled (c : Char) : Prop := ∃ first others, ComposedOf c first others

theorem Begins.settled {c : Char} (hc : Begins c) (hexpand : expand c = [c]) : Settled c :=
  ⟨c, [], hexpand, hc, rfl, rfl⟩

theorem composeFrom_of_composed {first c : Char} {others : List Char}
    (h : others.foldlM compose? first = some c) (done s : List Char) :
    composeFrom done first [] 0 (others ++ s) = composeFrom done c [] 0 s := by
  induction others generalizing first with
  | nil =>
    cases h
    rfl
  | cons d others ih =>
    rw [List.foldlM_cons] at h
    obtain ⟨next, hnext, hrest⟩ := Option.bind_eq_some_iff.1 h
    rw [List.cons_append, composeFrom, List.isEmpty_nil, Bool.true_or, if_pos rfl, hnext]
    exact ih hrest

/-- Marks in order stay in place in front of a character of class zero, or the end. -/
theorem orderMarks_append_of_settled {others s : List Char} (hothers : orderMarks others = others)
    (hs : ∀ b ∈ s.head?, combiningClass b = 0) : orderMarks (others ++ s) = others ++ orderMarks s := by
  cases s with
  | nil => rw [List.append_nil, hothers]; exact (List.append_nil _).symm
  | cons b s => rw [orderMarks_append (hs b rfl), hothers]

variable {s : List Char}

theorem class_zero_of_mem_head? (hs : ∀ c ∈ s, Settled c) :
    ∀ b ∈ (s.flatMap expand).head?, combiningClass b = 0 := by
  cases s with
  | nil => intro b hb; cases hb
  | cons c s =>
    obtain ⟨first, others, hc⟩ := hs c List.mem_cons_self
    intro b hb
    rw [List.flatMap_cons, hc.expand_eq] at hb
    cases hb
    exact hc.begins.class_zero

theorem orderMarks_of_settled (hs : ∀ c ∈ s, Settled c) :
    orderMarks (s.flatMap expand) = s.flatMap expand := by
  induction s with
  | nil => rfl
  | cons c s ih =>
    have hrest : ∀ d ∈ s, Settled d := fun d hd => hs d (List.mem_cons_of_mem _ hd)
    obtain ⟨first, others, hc⟩ := hs c List.mem_cons_self
    rw [List.flatMap_cons, hc.expand_eq, List.cons_append, orderMarks_of_class_zero hc.begins.class_zero,
      orderMarks_append_of_settled hc.ordered (class_zero_of_mem_head? hrest), ih hrest]

theorem composeFrom_of_settled (hs : ∀ c ∈ s, Settled c) (done : List Char) (starter : Char) :
    composeFrom done starter [] 0 (s.flatMap expand) = done.reverse ++ starter :: s := by
  induction s generalizing done starter with
  | nil => simp [composeFrom]
  | cons c s ih =>
    have hrest : ∀ d ∈ s, Settled d := fun d hd => hs d (List.mem_cons_of_mem _ hd)
    obtain ⟨first, others, hc⟩ := hs c List.mem_cons_self
    rw [List.flatMap_cons, hc.expand_eq, List.cons_append, composeFrom_cons hc.begins, List.nil_append,
      composeFrom_of_composed hc.composed, ih hrest, List.reverse_cons, List.append_assoc]
    rfl

/-- **A text of settled characters is in normal form.** -/
theorem normalizeList_of_settled (hs : ∀ c ∈ s, Settled c) : normalizeList s = s := by
  rw [normalizeList, orderMarks_of_settled hs]
  cases s with
  | nil => rfl
  | cons c s =>
    obtain ⟨first, others, hc⟩ := hs c List.mem_cons_self
    rw [List.flatMap_cons, hc.expand_eq, List.cons_append, compose_cons_starter hc.begins.class_zero,
      composeFrom_of_composed hc.composed, composeFrom_of_settled fun d hd => hs d (List.mem_cons_of_mem _ hd)]
    rfl

/-! ## The tables -/

theorem exists_run_of_combiningClass {c : Char} (hsize : (cells combiningRows).length < 3069)
    (h : combiningClass c ≠ 0) :
    ∃ lo hi k, (lo, hi, k) ∈ triples (cells combiningRows) ∧ lo ≤ c.toNat ∧ c.toNat ≤ hi := by
  have hcells (i : Nat) : combiningRuns[i]? = (cells combiningRows)[i]? := List.getElem?_toArray
  rw [combiningClass] at h
  obtain ⟨-, -, -, hat⟩ := partitionPoint_spec (fun i => (combiningRuns[3 * i + 1]?).any (· < c.toNat)) 10 0
  generalize partitionPoint (fun i => (combiningRuns[3 * i + 1]?).any (· < c.toNat)) 10 0 = i at h hat
  split at h
  · next hfirst =>
    obtain ⟨lo, hlo, hle⟩ := (Option.any_eq_true _ _).1 hfirst
    rw [Array.getD_eq_getD_getElem?, hcells] at h
    have hclass : (cells combiningRows)[3 * i + 2]? ≠ none := fun hnone => h (by rw [hnone]; rfl)
    obtain ⟨k, hk⟩ := Option.ne_none_iff_exists'.1 hclass
    have hlength : 3 * i + 2 < (cells combiningRows).length := (List.getElem?_eq_some_iff.1 hk).1
    have hhi : (cells combiningRows)[3 * i + 1]? = some (cells combiningRows)[3 * i + 1] :=
      List.getElem?_eq_getElem (by omega)
    have hlast : c.toNat ≤ (cells combiningRows)[3 * i + 1] := by
      have hnot := (Option.any_eq_false _ _).1 (hat (by omega)) _ ((hcells _).trans hhi)
      simpa using hnot
    exact ⟨lo, _, k, mem_triples_of_getElem? ((hcells _).symm.trans hlo) hhi hk, of_decide_eq_true hle, hlast⟩
  · exact absurd rfl h

/-- What two characters combine to is a syllable, or stands with them in the table of composites. -/
theorem mem_triples_of_compose? {a b c : Char} (h : compose? a b = some c) :
    composeSyllable? a b = some c ∨
      ∃ n, (a.toNat, b.toNat, n) ∈ triples (cells compositeRows) ∧ c = Char.ofNat n := by
  have hcells (i : Nat) : composites[i]? = (cells compositeRows)[i]? := List.getElem?_toArray
  rw [compose?] at h
  cases hsyllable : composeSyllable? a b with
  | some d =>
    rw [hsyllable] at h
    exact .inl h
  | none =>
    rw [hsyllable, Option.orElse_none] at h
    generalize compositeIndex a b = i at h
    simp only [Option.ite_none_right_eq_some] at h
    obtain ⟨hpair, h⟩ := h
    rw [Bool.and_eq_true, beq_iff_eq, beq_iff_eq, hcells, hcells] at hpair
    obtain ⟨n, hn, hc⟩ := Option.map_eq_some_iff.1 h
    exact .inr ⟨n, mem_triples_of_getElem? hpair.1 hpair.2 ((hcells _).symm.trans hn), hc.symm⟩

end Retrieval.Text.Compatibility
