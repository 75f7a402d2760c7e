import Retrieval.Proofs.Index.Bounds

/-!
# Stale champion lists

A corpus leaves the champion lists as they are and marks them stale; a rebuild replaces all of them. So they are always
those of the last rebuild, and as long as they are not stale they are the ones that a rebuild would give now.

* `Store.freshChampions` : the champion lists that a store would compute now;
* `Index.OnlyCorpora` : updates among which there is no rebuild;
* `Index.onlyCorpora_or_exists_rebuild` : every history has a last rebuild, or none;
* `Index.champions_corpora`, `Index.championsStale_corpora` : what corpora do to champion lists;
* `Index.champions_are_of_last_rebuild` : what champion lists and the mark say about a history.
-/

namespace Retrieval

/-! ## Fresh lists -/

/-- The place of the weight of a posting among all weights, in a list of `df` postings. -/
def Store.score (s : Store) (df frequency : Nat) : Int := Weight.rank (s.combine df frequency)

/-- The champion lists that a store would compute now. -/
def Store.freshChampions (s : Store) (r : Nat) : Champions := .ofPostings s.score r s.postings

theorem Store.getElem?_freshChampions (s : Store) (r : Nat) (term : String) :
    (s.freshChampions r)[term]? = s.postings[term]?.map fun list => Champions.top (s.score list.length) r list :=
  Champions.getElem?_ofPostings s.score r s.postings term

theorem Store.contains_freshChampions (s : Store) (r : Nat) (term : String) :
    (s.freshChampions r)[term]?.isSome = s.contains term := by
  rw [getElem?_freshChampions, Option.isSome_map, contains, Std.TreeMap.contains_eq_isSome_getElem?]

namespace Index

/-! ## The last rebuild -/

/-- Updates among which there is no rebuild of the champion lists. -/
def OnlyCorpora (updates : List Update) : Prop := ∀ u ∈ updates, ∃ documents, u = .corpus documents

theorem OnlyCorpora.append_corpus {updates : List Update} (h : OnlyCorpora updates)
    (documents : List (String × String)) : OnlyCorpora (updates ++ [.corpus documents]) := by
  intro u hu
  rcases List.mem_append.1 hu with hu | hu
  · exact h u hu
  · exact ⟨documents, List.mem_singleton.1 hu⟩

/-- A history without a rebuild consists of corpora, and any other one ends with a last rebuild and corpora after it. -/
theorem onlyCorpora_or_exists_rebuild (updates : List Update) :
    OnlyCorpora updates ∨ ∃ before r since, updates = before ++ .champions r :: since ∧ OnlyCorpora since := by
  induction updates using List.reverseRecOn with
  | nil => exact .inl fun u hu => absurd hu List.not_mem_nil
  | append_singleton updates u ih =>
    cases u with
    | champions r => exact .inr ⟨updates, r, [], rfl, fun u hu => absurd hu List.not_mem_nil⟩
    | corpus documents =>
      rcases ih with h | ⟨before, r, since, rfl, h⟩
      · exact .inl (h.append_corpus documents)
      · refine .inr ⟨before, r, since ++ [.corpus documents], ?_, h.append_corpus documents⟩
        rw [List.append_assoc, List.cons_append]

/-! ## Corpora -/

theorem champions_corpora (index : Index) {since : List Update} (h : OnlyCorpora since) :
    (since.foldl update index).store.champions = index.store.champions := by
  induction since generalizing index with
  | nil => rfl
  | cons u since ih =>
    obtain ⟨documents, rfl⟩ := h u List.mem_cons_self
    rw [List.foldl_cons, ih _ fun u hu => h u (List.mem_cons_of_mem _ hu)]
    rfl

/-- After corpora the mark stands if there was one, or if it stood before. -/
theorem championsStale_corpora (index : Index) {since : List Update} (h : OnlyCorpora since) :
    (since.foldl update index).store.championsStale = true ↔
      index.store.championsStale = true ∨ ∃ documents, .corpus documents ∈ since := by
  induction since generalizing index with
  | nil => simp
  | cons u since ih =>
    obtain ⟨documents, rfl⟩ := h u List.mem_cons_self
    rw [List.foldl_cons, ih _ fun u hu => h u (List.mem_cons_of_mem _ hu)]
    constructor
    · intro _
      exact .inr ⟨documents, List.mem_cons_self⟩
    · intro _
      exact .inl rfl

/-! ## Histories -/

theorem history_append_cons (t : Tokenizer) (w : Weighting) (before since : List Update) (u : Update) :
    history t w (before ++ u :: since) = since.foldl update ((history t w before).update u) := by
  rw [history, List.foldl_append, List.foldl_cons, history]

/-- **Champion lists are those of the last rebuild, and the mark says whether a corpus came after it.**
* Without a rebuild there are no lists, and the mark stands once there was a corpus.
* Otherwise the lists are those that the last rebuild computed from the postings of that moment, and the mark stands
  once there was a corpus since.
* Where it does not stand, precisely the terms that occur have a list, and each is chosen from the present postings by
  the present scores, for the number of champions that the last rebuild was asked for. -/
theorem champions_are_of_last_rebuild (t : Tokenizer) (w : Weighting) (updates : List Update) :
    let store := (history t w updates).store
    (OnlyCorpora updates ∧ store.champions = ∅ ∧
      (store.championsStale = true ↔ ∃ documents, .corpus documents ∈ updates)) ∨
    ∃ before r since, updates = before ++ .champions r :: since ∧ OnlyCorpora since ∧
      store.champions = (history t w before).store.freshChampions r ∧
      (store.championsStale = true ↔ ∃ documents, .corpus documents ∈ since) ∧
      (store.championsStale = false →
        (∀ term, (store.championsOf? term).isSome = store.contains term) ∧
        ∀ (term : String) list, store.postings[term]? = some list →
          store.championsOf? term = some (Champions.top (store.score list.length) r list)) := by
  intro store
  rcases onlyCorpora_or_exists_rebuild updates with h | ⟨before, r, since, rfl, h⟩
  · refine .inl ⟨h, champions_corpora (new t w) h, ?_⟩
    exact (championsStale_corpora (new t w) h).trans (or_iff_right Bool.false_ne_true)
  · have hstore : store = (since.foldl update ((history t w before).updateChampions r)).store :=
      congrArg Index.store (history_append_cons t w before since (.champions r))
    have hstale : store.championsStale = true ↔ ∃ documents, .corpus documents ∈ since := by
      rw [hstore, championsStale_corpora _ h]
      exact or_iff_right Bool.false_ne_true
    have hchampions : store.champions = (history t w before).store.freshChampions r := by
      rw [hstore, champions_corpora _ h]
      rfl
    refine .inr ⟨before, r, since, rfl, h, hchampions, hstale, fun hfresh => ?_⟩
    -- nothing came after the rebuild, so the postings of that moment are the present ones
    have hnil : since = [] := by
      rw [List.eq_nil_iff_forall_not_mem]
      intro u hu
      obtain ⟨documents, rfl⟩ := h u hu
      rw [hstale.2 ⟨documents, hu⟩] at hfresh
      exact Bool.noConfusion hfresh
    have hnow : store.champions = store.freshChampions r := by
      rw [hstore, hnil]
      rfl
    constructor
    · intro term
      rw [Store.championsOf?, hnow, Store.contains_freshChampions]
    · intro term list hlist
      rw [Store.championsOf?, hnow, Store.getElem?_freshChampions, hlist, Option.map_some]

end Index

end Retrieval
