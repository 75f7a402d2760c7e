import Mathlib.Data.List.Forall2

/-!
# One step for each item

Steps that may fail are taken for the items of a list, in order, until one of them fails:

* `map_eq_ok_iff`, `map_eq_error_iff`, `bind_eq_ok_iff` : a step with something made of what it gives;
* `mapM_eq_ok_iff` : all of them succeed;
* `mapM_eq_error_iff` : the first one that fails tells why;
* `flatten_mapM_filter` : items for which there is nothing to be had may be left out.
-/

namespace Retrieval

variable {α β ε : Type} {f : α → Except ε β} {list : List α}

theorem map_eq_ok_iff {γ : Type} {g : β → γ} {x : Except ε β} {c : γ} : x.map g = .ok c ↔ ∃ b, x = .ok b ∧ g b = c := by
  cases x <;> simp [Except.map]

theorem bind_eq_ok_iff {γ : Type} {g : β → Except ε γ} {x : Except ε β} {c : γ} :
    x >>= g = .ok c ↔ ∃ b, x = .ok b ∧ g b = .ok c := by
  cases x <;> simp [bind, Except.bind]

theorem map_eq_error_iff {γ : Type} {g : β → γ} {x : Except ε β} {e : ε} : x.map g = .error e ↔ x = .error e := by
  cases x <;> simp [Except.map]

theorem mapM_congr {g : α → Except ε β} (h : ∀ a ∈ list, f a = g a) : list.mapM f = list.mapM g := by
  induction list with
  | nil => rfl
  | cons a rest ih =>
    rw [List.forall_mem_cons] at h
    rw [List.mapM_cons, List.mapM_cons, h.1, ih h.2]

theorem mapM_eq_ok_iff {results : List β} :
    list.mapM f = .ok results ↔ List.Forall₂ (fun a b => f a = .ok b) list results := by
  induction list generalizing results with
  | nil =>
    rw [List.mapM_nil, List.forall₂_nil_left_iff]
    exact ⟨fun h => (Except.ok.inj h).symm, fun h => h ▸ rfl⟩
  | cons a rest ih =>
    rw [List.mapM_cons, List.forall₂_cons_left_iff]
    constructor
    · intro h
      cases hfirst : f a with
      | error e =>
        rw [hfirst] at h
        cases h
      | ok b =>
        cases hrest : rest.mapM f with
        | error e =>
          rw [hfirst, hrest] at h
          cases h
        | ok others =>
          rw [hfirst, hrest] at h
          cases h
          exact ⟨b, others, rfl, ih.1 hrest, rfl⟩
    · rintro ⟨b, others, hfirst, hrest, rfl⟩
      rw [hfirst, ih.2 hrest]
      rfl

theorem mapM_eq_error_iff {e : ε} : list.mapM f = .error e ↔
    ∃ before a after, list = before ++ a :: after ∧ (∀ b ∈ before, ∃ result, f b = .ok result) ∧ f a = .error e := by
  induction list with
  | nil =>
    rw [List.mapM_nil]
    constructor
    · intro h
      cases h
    · rintro ⟨before, a, after, h, -⟩
      simp at h
  | cons first rest ih =>
    rw [List.mapM_cons]
    constructor
    · intro h
      cases hfirst : f first with
      | error e' =>
        rw [hfirst] at h
        cases h
        exact ⟨[], first, rest, rfl, by simp, hfirst⟩
      | ok b =>
        cases hrest : rest.mapM f with
        | ok others =>
          rw [hfirst, hrest] at h
          cases h
        | error e' =>
          rw [hfirst, hrest] at h
          cases h
          obtain ⟨before, a, after, rfl, hbefore, ha⟩ := ih.1 hrest
          exact ⟨first :: before, a, after, rfl, List.forall_mem_cons.2 ⟨⟨b, hfirst⟩, hbefore⟩, ha⟩
    · rintro ⟨before, a, after, hsplit, hbefore, ha⟩
      cases before with
      | nil =>
        cases hsplit
        rw [ha]
        rfl
      | cons b before =>
        cases hsplit
        obtain ⟨⟨result, hresult⟩, hbefore⟩ := List.forall_mem_cons.1 hbefore
        rw [hresult, ih.2 ⟨before, a, after, rfl, hbefore, ha⟩]
        rfl

theorem flatten_mapM_cons (f : α → Except ε (List β)) (a : α) (rest : List α) :
    ((a :: rest).mapM f).map List.flatten =
      (f a).bind fun first => ((rest.mapM f).map List.flatten).map (first ++ ·) := by
  rw [List.mapM_cons]
  cases f a with
  | error e => rfl
  | ok first => cases rest.mapM f <;> rfl

theorem flatten_mapM_filter {f : α → Except ε (List β)} (p : α → Bool)
    (hnone : ∀ a ∈ list, p a = false → f a = .ok []) :
    ((list.filter p).mapM f).map List.flatten = (list.mapM f).map List.flatten := by
  induction list with
  | nil => rfl
  | cons a rest ih =>
    rw [List.forall_mem_cons] at hnone
    rw [flatten_mapM_cons, ← ih hnone.2]
    cases hp : p a with
    | true => rw [List.filter_cons_of_pos hp, flatten_mapM_cons]
    | false =>
      rw [List.filter_cons_of_neg (by simp [hp]), hnone.1 hp]
      cases (rest.filter p).mapM f <;> rfl

end Retrieval
