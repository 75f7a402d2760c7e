import Mathlib.Algebra.Order.Field.Basic
import Mathlib.Algebra.Order.Field.Rat
import Retrieval.Proofs.Index.Order
import Retrieval.Proofs.Index.Quotient

/-!
# Ids and counts in range

Whatever is indexed and whenever champion lists are rebuilt, an index names no document without an address, and the
rarity of a term is the logarithm of a quotient of positive counts that is one at least.

* `Index.Bounded` : the invariant; ids are below the size of the vocabulary, which is the number of documents;
* `Index.Bounded.indexCorpus`, `Index.Bounded.updateChampions` : a step keeps it, champion lists of earlier corpora
  included;
* `Index.bounded_history` : every history keeps it;
* `Index.documentFrequency_le` : a term is in no more documents than there are;
* `Weight.IsLog` : what is asked of a logarithm;
* `Index.ids_and_counts_in_range` : ids, counts and rarities after every history.
-/

namespace Retrieval

/-! ## Champions -/

theorem Champions.mem_of_mem_top {Score : Type} [Ord Score] {score : Nat → Score} {r : Nat} {list : List Posting}
    {doc : DocId} (h : doc ∈ top score r list) : ∃ p ∈ list, p.doc = doc := by
  obtain ⟨⟨id, s⟩, hscored, rfl⟩ := List.mem_map.1 h
  have hmem := List.mem_mergeSort.1 (List.mem_of_mem_take hscored)
  obtain ⟨p, hp, heq⟩ := List.mem_map.1 hmem
  exact ⟨p, hp, congrArg Prod.fst heq⟩

theorem Champions.getElem?_ofPostings {Score : Type} [Ord Score] (score : Nat → Nat → Score) (r : Nat) (p : Postings)
    (term : String) : (ofPostings score r p)[term]? = p[term]?.map fun list => top (score list.length) r list :=
  Std.TreeMap.getElem?_map

theorem Store.championsOf?_rankChampions {α Score : Type} [Add α] [Mul α] [Div α] [Scale α] [Ord Score] (s : Store)
    (rank : α → Score) (r : Nat) (term : String) : (s.rankChampions rank r).championsOf? term =
      s.postings[term]?.map fun list => Champions.top (fun n => rank (s.combine list.length n)) r list :=
  Champions.getElem?_ofPostings _ r s.postings term

namespace Index

theorem size_le_gather (index : Index) (corpus : List (String × String)) :
    index.vocabulary.size ≤ (index.gather corpus).1.size := by
  rw [vocabulary_gather]
  exact (index.vocabulary.prefix_addAll _).length_le

/-! ## The invariant -/

/-- All ids that an index names are in use, and it counts the documents that are. -/
structure Bounded (index : Index) : Prop where
  documentCount_eq : index.store.documentCount = index.vocabulary.size
  postings : ∀ (term : String) list, index.store.postings[term]? = some list →
    ∀ p ∈ list, p.doc < index.vocabulary.size
  lengths : ∀ doc ∈ index.store.lengths, doc < index.vocabulary.size
  champions : ∀ (term : String) list, index.store.champions[term]? = some list →
    ∀ doc ∈ list, doc < index.vocabulary.size

theorem bounded_new (t : Tokenizer) (w : Weighting) : (new t w).Bounded where
  documentCount_eq := rfl
  postings term list h := by simp [new] at h
  lengths doc h := by simp [new] at h
  champions term list h := by simp [new] at h

/-- A document that was counted has an address. -/
theorem lt_size_of_mem_gather {index : Index} {corpus : List (String × String)} {doc : DocId}
    (h : doc ∈ (index.gather corpus).2) : doc < (index.gather corpus).1.size := by
  rw [Std.TreeMap.mem_iff_isSome_getElem?, counted_gather index corpus doc, Option.isSome_map] at h
  obtain ⟨text, htext⟩ := Option.isSome_iff_exists.1 h
  obtain ⟨url, hurl, -⟩ := Option.bind_eq_some_iff.1 htext
  exact Vocabulary.isSome_url?_iff.1 (by rw [hurl]; rfl)

namespace Bounded

variable {index : Index}

/-- Champion lists stay as they are while the vocabulary grows. -/
theorem indexCorpus (h : index.Bounded) (corpus : List (String × String)) : (index.indexCorpus corpus).Bounded where
  documentCount_eq := rfl
  postings term list hlist p hp := by
    have hmem : p.doc ∈ (index.indexCorpus corpus).store.docsWith term := by
      rw [Store.docsWith, Store.postingsOf, Std.TreeMap.getD_eq_getD_getElem?, hlist]
      exact List.mem_map_of_mem hp
    exact (reflects_indexCorpus index corpus).lt_size_of_mem_docsWith hmem
  lengths doc hdoc := lt_size_of_mem_gather (Std.TreeMap.mem_map.1 hdoc)
  champions term list hlist doc hdoc :=
    Nat.lt_of_lt_of_le (h.champions term list hlist doc hdoc) (size_le_gather index corpus)

/-- New champions are documents with postings. -/
theorem updateChampions (h : index.Bounded) (r : Nat) : (index.updateChampions r).Bounded where
  documentCount_eq := h.documentCount_eq
  postings := h.postings
  lengths := h.lengths
  champions term list hlist doc hdoc := by
    have hmap := index.store.championsOf?_rankChampions Weight.rank r term
    obtain ⟨postings, hpostings, rfl⟩ := Option.map_eq_some_iff.1 (hmap.symm.trans hlist)
    obtain ⟨p, hp, rfl⟩ := Champions.mem_of_mem_top hdoc
    exact h.postings term postings hpostings p hp

end Bounded

/-- **Every history keeps ids and counts in range.** -/
theorem bounded_history (t : Tokenizer) (w : Weighting) (updates : List Update) : (history t w updates).Bounded := by
  induction updates using List.reverseRecOn with
  | nil => exact bounded_new t w
  | append_singleton updates u ih =>
    rw [history_append]
    cases u with
    | corpus documents => exact ih.indexCorpus documents
    | champions r => exact ih.updateChampions r

/-! ## Rarity -/

/-- No term is in more documents than there are, because its list names none of them twice. -/
theorem documentFrequency_le (t : Tokenizer) (w : Weighting) (updates : List Update) (term : String) :
    (history t w updates).store.documentFrequency term ≤ (history t w updates).vocabulary.size := by
  have hcounts := counts_history t w updates term
  have hsubset : ((history t w updates).store.docsWith term).toFinset ⊆
      Finset.range (history t w updates).vocabulary.size := by
    intro doc hdoc
    rw [Finset.mem_range]
    exact (reflects_history t w updates).lt_size_of_mem_docsWith (List.mem_toFinset.1 hdoc)
  have hcard := Finset.card_le_card hsubset
  rwa [← hcounts.documentFrequency_eq, Finset.card_range] at hcard

theorem one_le_documentFrequency {t : Tokenizer} {w : Weighting} {updates : List Update} {term : String}
    (h : (history t w updates).store.contains term = true) :
    1 ≤ (history t w updates).store.documentFrequency term := by
  rw [Store.contains, Std.TreeMap.contains_eq_isSome_getElem?] at h
  obtain ⟨list, hlist⟩ := Option.isSome_iff_exists.1 h
  have hne := (counts_history t w updates term).ne_nil_of_eq_some hlist
  rw [Store.documentFrequency, Store.postingsOf, Std.TreeMap.getD_eq_getD_getElem?, hlist]
  exact List.length_pos_of_ne_nil hne

end Index

/-- What rarities need of a logarithm: from one on it is finite and not negative. -/
def Weight.IsLog (log10 : Float → Float) : Prop :=
  ∀ x : Float, 1 ≤ x → x.isFinite = true → 0 ≤ log10 x ∧ (log10 x).isFinite = true

/-- The rarity of a term, given a logarithm. -/
def Store.rarity (log10 : Float → Float) (s : Store) (term : String) : Except ScoringError Float :=
  match s.documentFrequency term with
  | 0 => .error (.unseenTerm term)
  | df => .ok (log10 (s.documentCount.toFloat / df.toFloat))

theorem Store.rarity_eq_ok {s : Store} {term : String} (h : 1 ≤ s.documentFrequency term) (log10 : Float → Float) :
    s.rarity log10 term = .ok (log10 (s.documentCount.toFloat / (s.documentFrequency term).toFloat)) := by
  unfold rarity
  split
  · next hzero => omega
  · rfl

namespace Index

/-- **Ids and counts are in range after every history.**
* The number of documents that rarity refers to is that of the documents in use.
* Every document on a list of postings, among the lengths, or on a champion list is in use and has an address, whatever
  was indexed since the champion lists were built; no list of postings is empty.
* A term that occurs is in one document at least and in no more than there are, so that the quotient of the two counts
  is one at least. As long as counts are exact as floating-point numbers, and ids of 32 bits leave no room for others, so
  is what the rarity takes the logarithm of, and the rarity is a finite number that is not negative. -/
theorem ids_and_counts_in_range (t : Tokenizer) (w : Weighting) (updates : List Update) :
    let index := history t w updates
    let n := index.store.documentCount
    let used (doc : DocId) := doc < index.vocabulary.size ∧ ∃ url, index.vocabulary.url? doc = some url
    n = index.vocabulary.size ∧
    (∀ (term : String) list, index.store.postings[term]? = some list → list ≠ [] ∧ ∀ p ∈ list, used p.doc) ∧
    (∀ doc ∈ index.store.lengths, used doc) ∧
    (∀ term list, index.store.championsOf? term = some list → ∀ doc ∈ list, used doc) ∧
    ∀ term, index.store.contains term = true →
      let df := index.store.documentFrequency term
      1 ≤ df ∧ df ≤ n ∧ (1 : ℚ) ≤ n / df ∧
      (n < 2 ^ 53 → 1 ≤ n.toFloat / df.toFloat ∧ (n.toFloat / df.toFloat).isFinite = true) ∧
      index.store.idf term = index.store.rarity Float.log10 term ∧
      (n < 2 ^ 53 → ∀ log10, Weight.IsLog log10 →
        ∃ rarity, index.store.rarity log10 term = .ok rarity ∧ 0 ≤ rarity ∧ rarity.isFinite = true) := by
  intro index n used
  have hbounded : index.Bounded := bounded_history t w updates
  have hused (doc : DocId) (h : doc < index.vocabulary.size) : used doc :=
    ⟨h, Option.isSome_iff_exists.1 (Vocabulary.isSome_url?_iff.2 h)⟩
  refine ⟨hbounded.documentCount_eq, ?_, ?_, ?_, ?_⟩
  · intro term list hlist
    refine ⟨(counts_history t w updates term).ne_nil_of_eq_some hlist, fun p hp => ?_⟩
    exact hused _ (hbounded.postings term list hlist p hp)
  · intro doc hdoc
    exact hused doc (hbounded.lengths doc hdoc)
  · intro term list hlist doc hdoc
    exact hused doc (hbounded.champions term list hlist doc hdoc)
  · intro term hterm df
    have hpos : 1 ≤ df := one_le_documentFrequency hterm
    have hle : df ≤ n := by
      change df ≤ index.store.documentCount
      rw [hbounded.documentCount_eq]
      exact documentFrequency_le t w updates term
    have hquotient (hn : n < 2 ^ 53) := Binary64.toFloat_div hpos hle hn
    refine ⟨hpos, hle, ?_, hquotient, rfl, ?_⟩
    · have hcast : (0 : ℚ) < df := by exact_mod_cast hpos
      rw [one_le_div hcast]
      exact_mod_cast hle
    · intro hn log10 hlog
      obtain ⟨hone, hfinite⟩ := hquotient hn
      exact ⟨_, Store.rarity_eq_ok hpos log10, hlog _ hone hfinite⟩

/-- Two documents of which one is left after champions were chosen. -/
def exampleShrunk : List Update := [.corpus [("u", "a"), ("v", "b")], .champions 2, .corpus [("u", "a")]]

/-- A logarithm that knows only whether a value is above one. -/
def exampleLog (x : Float) : Float := if x ≤ 1 then 0 else 1

theorem isLog_exampleLog : Weight.IsLog exampleLog := by
  intro x _ _
  unfold exampleLog
  split
  · exact ⟨by decide, by decide⟩
  · exact ⟨by decide, by decide⟩

/-- The stale champion list names a document that the last corpus does not have, and the rarity counts it. -/
theorem ids_and_counts_in_range_shrunk :
    let index := history {} .sum exampleShrunk
    (index.store.championsOf? "b" = some [1] ∧ ∀ doc ∈ [1], doc < index.vocabulary.size) ∧
    index.store.contains "a" = true ∧ index.store.documentCount < 2 ^ 53 ∧ Weight.IsLog exampleLog ∧
    ∃ rarity, index.store.rarity exampleLog "a" = .ok rarity ∧ 0 ≤ rarity ∧ rarity.isFinite = true := by
  intro index
  have hlist : index.store.championsOf? "b" = some [1] := by decide +kernel
  have hterm : index.store.contains "a" = true := by decide +kernel
  have hcount : index.store.documentCount < 2 ^ 53 := by decide +kernel
  obtain ⟨-, -, -, hchampions, hrarity⟩ := ids_and_counts_in_range {} .sum exampleShrunk
  obtain ⟨-, -, -, -, -, hvalue⟩ := hrarity "a" hterm
  exact ⟨⟨hlist, fun doc hdoc => (hchampions "b" _ hlist doc hdoc).1⟩, hterm, hcount, isLog_exampleLog,
    hvalue hcount exampleLog isLog_exampleLog⟩

end Index

end Retrieval
