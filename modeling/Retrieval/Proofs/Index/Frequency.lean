import Mathlib.Data.Set.Card
import Retrieval.Proofs.Index.History

/-!
# Frequencies of an index

The postings of an index are the occurrences of terms in the texts of the latest corpus, whatever was indexed before.

* `Lists` : a list of postings in the order of the documents, each with the number that a count gives for it;
* `Lists.ext`, `Lists.frequencyIn?_eq` : a count has one list, and a look-up finds the count there;
* `Store.Counts` : the list that a store has for a term, if any, is that of a count;
* `Store.Counts.weight_eq` : what a count weighs;
* `occurrences` : how often a term occurs in a text that may be missing;
* `Index.Reflects.counts` : postings count the occurrences in the texts of a corpus;
* `Index.history_counts_latest` : frequencies, lists and the number of terms after every history.
-/

namespace Retrieval

/-! ## Lists of postings -/

/-- The documents ascend, and they are those whose count is positive, each with its count. -/
structure Lists (list : List Posting) (count : DocId → Nat) : Prop where
  ascending : list.Pairwise fun p q => p.doc < q.doc
  mem_iff : ∀ p, p ∈ list ↔ 1 ≤ p.frequency ∧ p.frequency = count p.doc

namespace Lists

variable {list list' : List Posting} {count count' : DocId → Nat}

theorem mem_docs_iff (h : Lists list count) {doc : DocId} : doc ∈ list.map (·.doc) ↔ 0 < count doc := by
  rw [List.mem_map]
  constructor
  · rintro ⟨p, hp, rfl⟩
    obtain ⟨hpos, hcount⟩ := (h.mem_iff p).1 hp
    exact hcount ▸ hpos
  · intro hpos
    exact ⟨⟨doc, count doc⟩, (h.mem_iff _).2 ⟨hpos, rfl⟩, rfl⟩

theorem eq_nil_iff (h : Lists list count) : list = [] ↔ ∀ doc, count doc = 0 := by
  rw [← List.map_eq_nil_iff (f := (·.doc)), List.eq_nil_iff_forall_not_mem]
  refine forall_congr' fun doc => ?_
  rw [h.mem_docs_iff, Nat.pos_iff_ne_zero, not_not]

/-- **A count has one list.** -/
theorem ext (h : Lists list count) (h' : Lists list' count') (hcount : ∀ doc, count doc = count' doc) :
    list = list' := by
  have : Std.Irrefl fun p q : Posting => p.doc < q.doc := ⟨fun p => Nat.lt_irrefl p.doc⟩
  have : Std.Antisymm fun p q : Posting => p.doc < q.doc := ⟨fun p q hpq hqp => (Nat.lt_asymm hpq hqp).elim⟩
  refine h.ascending.eq_of_mem_iff h'.ascending fun p => ?_
  rw [h.mem_iff, h'.mem_iff, hcount]

/-- Looking a document up finds its posting, because no other posting has the document. -/
theorem frequencyIn?_of_mem (h : Lists list count) {p : Posting} (hp : p ∈ list) :
    frequencyIn? list p.doc = some p.frequency := by
  cases hfind : list.find? (·.doc = p.doc) with
  | none =>
    have hne : ¬ p.doc = p.doc := by simpa using List.find?_eq_none.1 hfind p hp
    exact absurd rfl hne
  | some q =>
    have hdoc : q.doc = p.doc := by simpa using List.find?_some hfind
    obtain ⟨-, hq⟩ := (h.mem_iff q).1 (List.mem_of_find?_eq_some hfind)
    obtain ⟨-, hp⟩ := (h.mem_iff p).1 hp
    rw [frequencyIn?, hfind, Option.map_some, hq, hdoc, hp]

theorem frequencyIn?_eq (h : Lists list count) (doc : DocId) :
    frequencyIn? list doc = if count doc = 0 then none else some (count doc) := by
  by_cases hzero : count doc = 0
  · rw [if_pos hzero, frequencyIn?, Option.map_eq_none_iff]
    apply List.find?_eq_none.2
    intro p hp
    have hpos : 0 < count p.doc := h.mem_docs_iff.1 (List.mem_map_of_mem hp)
    have hdoc : p.doc ≠ doc := by
      rintro rfl
      omega
    simpa using hdoc
  · have hmem : ⟨doc, count doc⟩ ∈ list := (h.mem_iff _).2 ⟨Nat.pos_of_ne_zero hzero, rfl⟩
    rw [if_neg hzero, h.frequencyIn?_of_mem hmem]

theorem getD_frequencyIn? (h : Lists list count) (doc : DocId) : (frequencyIn? list doc).getD 0 = count doc := by
  rw [h.frequencyIn?_eq]
  by_cases hzero : count doc = 0
  · simp [hzero]
  · simp [hzero]

end Lists

/-- The list of a term is that of a count, and there is none just if the count is zero everywhere. -/
structure Store.Counts (s : Store) (term : String) (count : DocId → Nat) : Prop where
  lists : Lists (s.postingsOf term) count
  eq_none_iff : s.postings[term]? = none ↔ ∀ doc, count doc = 0

namespace Store.Counts

variable {s s' : Store} {term : String} {count count' : DocId → Nat}

theorem isSome_iff (h : s.Counts term count) : s.postings[term]?.isSome ↔ ∃ doc, 0 < count doc := by
  rw [Option.isSome_iff_ne_none, ne_eq, h.eq_none_iff, not_forall]
  exact exists_congr fun doc => Nat.pos_iff_ne_zero.symm

theorem ascending_docsWith (h : s.Counts term count) : (s.docsWith term).Pairwise (· < ·) :=
  List.pairwise_map.2 h.lists.ascending

theorem nodup_docsWith (h : s.Counts term count) : (s.docsWith term).Nodup :=
  h.ascending_docsWith.imp fun hlt => Nat.ne_of_lt hlt

theorem lists_of_eq_some (h : s.Counts term count) {list : List Posting} (hlist : s.postings[term]? = some list) :
    Lists list count := by
  have hlists := h.lists
  rwa [postingsOf, Std.TreeMap.getD_eq_getD_getElem?, hlist, Option.getD_some] at hlists

theorem ne_nil_of_eq_some (h : s.Counts term count) {list : List Posting} (hlist : s.postings[term]? = some list) :
    list ≠ [] := by
  rintro rfl
  have hnone := h.eq_none_iff.2 ((h.lists_of_eq_some hlist).eq_nil_iff.1 rfl)
  rw [hlist] at hnone
  cases hnone

theorem weight_eq (h : s.Counts term count) (doc : DocId) :
    s.weight term doc = if count doc = 0 then 0.0 else s.combine (s.documentFrequency term) (count doc) := by
  unfold weight
  simp only [h.lists.frequencyIn?_eq]
  by_cases hzero : count doc = 0
  · rw [if_pos hzero, if_pos hzero]
  · rw [if_neg hzero, if_neg hzero]
    rfl

theorem getElem?_congr (h : s.Counts term count) (h' : s'.Counts term count') (hcount : ∀ doc, count doc = count' doc) :
    s.postings[term]? = s'.postings[term]? := by
  have hnone : s.postings[term]? = none ↔ s'.postings[term]? = none := by
    rw [h.eq_none_iff, h'.eq_none_iff]
    exact forall_congr' fun doc => by rw [hcount]
  cases hlist : s.postings[term]? with
  | none => exact (hnone.1 hlist).symm
  | some list =>
    cases hlist' : s'.postings[term]? with
    | none =>
      rw [hnone.2 hlist'] at hlist
      cases hlist
    | some list' => rw [(h.lists_of_eq_some hlist).ext (h'.lists_of_eq_some hlist') hcount]

end Store.Counts

/-- The terms with postings are as many as there are keys. -/
theorem Store.encard_terms (s : Store) : {term : String | s.postings[term]?.isSome}.encard = s.termCount := by
  have hterms : {term : String | s.postings[term]?.isSome} = (s.postings.keys.toFinset : Set String) := by
    ext term
    rw [List.coe_toFinset, Set.mem_ofPred_eq, Set.mem_ofPred_eq, Std.TreeMap.mem_keys,
      Std.TreeMap.mem_iff_isSome_getElem?]
  rw [hterms, Set.encard_coe_eq_coe_finsetCard, card_toFinset_keys, termCount]

/-! ## The postings of a corpus -/

/-- How often a term occurs in the text of a document, which may have none. -/
def occurrences (t : Tokenizer) (text? : Option String) (term : String) : Nat :=
  match text? with
  | none => 0
  | some text => (t.tokenize text).count term

theorem Postings.posting?_eq_some {term : String} {doc : DocId} {terms : List String} {p : Posting} :
    posting? term (doc, termCounts terms) = some p ↔
      p.doc = doc ∧ 1 ≤ p.frequency ∧ p.frequency = terms.count term := by
  obtain ⟨id, n⟩ := p
  rw [posting?, getElem?_termCounts]
  split
  · next hzero =>
    simp only [Option.map_none, reduceCtorEq, false_iff]
    rintro ⟨-, hpos, hcount⟩
    omega
  · next hpos =>
    simp only [Option.map_some, Option.some.injEq, Posting.mk.injEq]
    constructor
    · rintro ⟨rfl, rfl⟩
      exact ⟨rfl, Nat.pos_of_ne_zero hpos, rfl⟩
    · rintro ⟨rfl, -, rfl⟩
      exact ⟨rfl, rfl⟩

namespace Index

theorem Counted.lists {t : Tokenizer} {v : Vocabulary} {corpus : List (String × String)}
    {documents : Std.TreeMap DocId TermCounts} (h : Counted t v corpus documents) (term : String) :
    Lists (documents.toList.filterMap (Postings.posting? term))
      fun doc => occurrences t (textOf? v corpus doc) term where
  ascending := by
    refine List.Pairwise.filterMap _ ?_ Std.TreeMap.ordered_keys_toList
    intro d e hde p hp q hq
    obtain ⟨-, -, rfl⟩ := Option.map_eq_some_iff.1 hp
    obtain ⟨-, -, rfl⟩ := Option.map_eq_some_iff.1 hq
    exact Nat.compare_eq_lt.1 hde
  mem_iff p := by
    rw [List.mem_filterMap]
    constructor
    · rintro ⟨⟨doc, counts⟩, hmem, hp⟩
      rw [Std.TreeMap.mem_toList_iff_getElem?_eq_some, h doc] at hmem
      obtain ⟨text, htext, rfl⟩ := Option.map_eq_some_iff.1 hmem
      obtain ⟨rfl, hpos, hcount⟩ := Postings.posting?_eq_some.1 hp
      rw [htext]
      exact ⟨hpos, hcount⟩
    · rintro ⟨hpos, hcount⟩
      cases htext : textOf? v corpus p.doc with
      | none =>
        rw [htext, occurrences] at hcount
        omega
      | some text =>
        rw [htext] at hcount
        refine ⟨(p.doc, termCounts (t.tokenize text)), ?_, Postings.posting?_eq_some.2 ⟨rfl, hpos, hcount⟩⟩
        rw [Std.TreeMap.mem_toList_iff_getElem?_eq_some, h p.doc, htext, Option.map_some]

/-- **The postings of an index count the occurrences of terms in the texts of its corpus.** -/
theorem Reflects.counts {index : Index} {corpus : List (String × String)} (h : index.Reflects corpus)
    (term : String) : index.store.Counts term fun doc =>
      occurrences index.tokenizer (textOf? index.vocabulary corpus doc) term := by
  obtain ⟨documents, hpostings, hcounted⟩ := h
  have hlists := hcounted.lists term
  refine ⟨?_, ?_⟩
  · rw [Store.postingsOf, hpostings, Postings.getD_ofDocuments]
    exact hlists
  · rw [hpostings, Postings.getElem?_ofDocuments, ← hlists.eq_nil_iff]
    simp

theorem counts_history (t : Tokenizer) (w : Weighting) (updates : List Update) (term : String) :
    (history t w updates).store.Counts term fun doc =>
      occurrences t (textOf? (history t w updates).vocabulary (latest updates) doc) term := by
  have h := (reflects_history t w updates).counts term
  rwa [tokenizer_history] at h

/-- **The build is exact over every history.** With `count term doc` for the occurrences of a term in the last text
that the latest corpus gives for the address of a document:
* the frequency of a term in a document is this count;
* a term has a list of postings just if it occurs in some document, and the list is that of its counts;
* the number of terms is the number of those that occur;
* two histories whose latest corpora give the documents the same texts have the same postings. -/
theorem history_counts_latest (t : Tokenizer) (w : Weighting) (updates : List Update) :
    let index := history t w updates
    let count (term : String) (doc : DocId) :=
      occurrences t (textOf? index.vocabulary (latest updates) doc) term
    (∀ term doc, index.store.frequency term doc = count term doc) ∧
    (∀ term : String, index.store.postings[term]?.isSome ↔ ∃ doc, 0 < count term doc) ∧
    (∀ (term : String) list, index.store.postings[term]? = some list → Lists list (count term)) ∧
    {term | ∃ doc, 0 < count term doc}.encard = index.store.termCount ∧
    (∀ v others, (∀ doc, textOf? (history t v others).vocabulary (latest others) doc =
        textOf? index.vocabulary (latest updates) doc) →
      ∀ term : String, (history t v others).store.postings[term]? = index.store.postings[term]?) := by
  intro index count
  have hcounts (term : String) : index.store.Counts term (count term) := counts_history t w updates term
  refine ⟨?_, fun term => (hcounts term).isSome_iff, fun term list h => (hcounts term).lists_of_eq_some h, ?_, ?_⟩
  · intro term doc
    exact (hcounts term).lists.getD_frequencyIn? doc
  · have hterms : {term | ∃ doc, 0 < count term doc} = {term : String | index.store.postings[term]?.isSome} :=
      Set.ext fun term => (hcounts term).isSome_iff.symm
    rw [hterms, Store.encard_terms]
  · intro v others htexts term
    refine (counts_history t v others term).getElem?_congr (hcounts term) fun doc => ?_
    rw [htexts doc]

end Index

end Retrieval
