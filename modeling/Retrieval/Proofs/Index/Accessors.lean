import Retrieval.Proofs.Index.Bounds
import Retrieval.Proofs.Index.Dampening
import Retrieval.Proofs.Tokenizer.Segmentation
import Retrieval.Query.Evaluation

/-!
# What a store answers about a term

A store answers from one list of postings, but not always in the same way: it looks at whether there is a list, at how
long it is, at all of it, or at the one posting of a document, which may be searched for by halving. The answers agree,
because the lists of every history ascend and none of them is empty.

* `FindsPlaces` : what is asked of a search among ascending ids;
* `bisect`, `findsPlaces_bisect` : searching by halving, which is one;
* `Store.posting?` : the posting of a document as a search finds it;
* `Lists.search_eq` : what a search finds in the list of a count;
* `Store.Counts.ids_docSet` : the documents of a term as a set;
* `Index.accessors_agree` : the answers after every history.
-/

namespace Retrieval

/-! ## Searching -/

/-- What is asked of a search where ids ascend: it answers a place at which the id stands, unless there is none. -/
structure FindsPlaces (search : List DocId → DocId → Option Nat) : Prop where
  found : ∀ {ids doc i}, ids.Pairwise (· < ·) → search ids doc = some i → ids[i]? = some doc
  missing : ∀ {ids doc}, ids.Pairwise (· < ·) → search ids doc = none → doc ∉ ids

/-- The place of an id that stands at one of the `size` places from `base` on. They are halved until one is left. -/
def bisectFrom (ids : List DocId) (doc : DocId) (base size : Nat) : Nat :=
  if size ≤ 1 then base
  else if doc < ids.getD (base + size / 2) 0 then bisectFrom ids doc base (size - size / 2)
  else bisectFrom ids doc (base + size / 2) (size - size / 2)
termination_by size

/-- The place of an id, if it stands where halving ends. -/
def bisect (ids : List DocId) (doc : DocId) : Option Nat :=
  if ids[bisectFrom ids doc 0 ids.length]? = some doc then some (bisectFrom ids doc 0 ids.length) else none

theorem getElem_lt_getElem_iff {ids : List DocId} (h : ids.Pairwise (· < ·)) {i j : Nat} (hi : i < ids.length)
    (hj : j < ids.length) : ids[i] < ids[j] ↔ i < j := by
  constructor
  · intro hlt
    by_contra hle
    rcases Nat.eq_or_lt_of_le (Nat.le_of_not_lt hle) with rfl | hback
    · exact Nat.lt_irrefl _ hlt
    · exact Nat.lt_asymm hlt (List.pairwise_iff_getElem.1 h j i hj hi hback)
  · exact List.pairwise_iff_getElem.1 h i j hi hj

/-- Halving keeps the place of the id among those that are left. -/
theorem bisectFrom_eq {ids : List DocId} (h : ids.Pairwise (· < ·)) {doc : DocId} {i : Nat} (hi : ids[i]? = some doc)
    (base size : Nat) (hbase : base ≤ i) (hsize : i < base + size) (hend : base + size ≤ ids.length) :
    bisectFrom ids doc base size = i := by
  obtain ⟨hlt, rfl⟩ := List.getElem?_eq_some_iff.1 hi
  fun_induction bisectFrom ids ids[i] base size with
  | case1 base size hone => omega
  | case2 base size hmore hbefore ih =>
    have hmiddle : base + size / 2 < ids.length := by omega
    rw [← List.getElem_eq_getD (h := hmiddle), getElem_lt_getElem_iff h] at hbefore
    exact ih (by omega) (by omega) (by omega)
  | case3 base size hmore hbehind ih =>
    have hmiddle : base + size / 2 < ids.length := by omega
    rw [← List.getElem_eq_getD (h := hmiddle), getElem_lt_getElem_iff h] at hbehind
    exact ih (by omega) (by omega) (by omega)

/-- **Halving finds an id among ascending ones.** -/
theorem findsPlaces_bisect : FindsPlaces bisect where
  found {ids doc i} _ hfound := by
    unfold bisect at hfound
    split at hfound
    · next hplace => rwa [← Option.some.inj hfound]
    · cases hfound
  missing {ids doc} h hmissing hdoc := by
    obtain ⟨i, hi⟩ := List.mem_iff_getElem?.1 hdoc
    have hlt := (List.getElem?_eq_some_iff.1 hi).1
    rw [bisect, bisectFrom_eq h hi 0 ids.length (Nat.zero_le i) (by omega) (by omega), if_pos hi] at hmissing
    cases hmissing

/-! ## Postings that a search finds -/

/-- The posting of a document on a list, as a search finds it. -/
def searchPosting? (search : List DocId → DocId → Option Nat) (list : List Posting) (doc : DocId) : Option Posting :=
  (search (list.map (·.doc)) doc).bind fun i => list[i]?

/-- **A search finds the posting that a count gives to a document**, and it finds none where the count is zero. -/
theorem Lists.searchPosting?_eq {search : List DocId → DocId → Option Nat} (hsearch : FindsPlaces search)
    {list : List Posting} {count : DocId → Nat} (h : Lists list count) (doc : DocId) :
    searchPosting? search list doc = if count doc = 0 then none else some ⟨doc, count doc⟩ := by
  have hascending : (list.map (·.doc)).Pairwise (· < ·) := List.pairwise_map.2 h.ascending
  rw [searchPosting?]
  cases hplace : search (list.map (·.doc)) doc with
  | none =>
    have hmissing := hsearch.missing hascending hplace
    rw [h.mem_docs_iff, Nat.pos_iff_ne_zero, not_not] at hmissing
    rw [if_pos hmissing, Option.bind_none]
  | some i =>
    have hfound := hsearch.found hascending hplace
    rw [List.getElem?_map, Option.map_eq_some_iff] at hfound
    obtain ⟨p, hp, rfl⟩ := hfound
    obtain ⟨hpos, hcount⟩ := (h.mem_iff p).1 (List.mem_of_getElem? hp)
    rw [Option.bind_some, hp, if_neg (by omega), ← hcount]

/-! ## Documents of a term -/

theorem DocSet.ids_ofList {ids : List DocId} (h : ids.Pairwise (· < ·)) : (DocSet.ofList ids).ids = ids := by
  have hset : DocSet.ofList ids = ⟨ids, h⟩ := DocSet.ext fun doc => DocSet.mem_ofList ids
  rw [hset]

theorem DocSet.ne_empty_iff {a : DocSet} : a ≠ ∅ ↔ 0 < a.size := by
  rw [DocSet.size, List.length_pos_iff, ne_eq, ne_eq, not_iff_not]
  constructor
  · rintro rfl
    rfl
  · intro hnil
    obtain ⟨ids, hascending⟩ := a
    cases hnil
    rfl

namespace Store

def posting? (search : List DocId → DocId → Option Nat) (s : Store) (term : String) (doc : DocId) : Option Posting :=
  s.postings[term]?.bind fun list => searchPosting? search list doc

namespace Counts

variable {s : Store} {term : String} {count : DocId → Nat} (h : s.Counts term count)
include h

theorem ids_docSet : (s.docSet term).ids = s.docsWith term :=
  DocSet.ids_ofList h.ascending_docsWith

theorem mem_docSet_iff {doc : DocId} : doc ∈ s.docSet term ↔ 0 < count doc := by
  rw [DocSet.mem_iff, h.ids_docSet, docsWith, h.lists.mem_docs_iff]

theorem size_docSet : (s.docSet term).size = s.documentFrequency term := by
  rw [DocSet.size, h.ids_docSet, docsWith, List.length_map, documentFrequency]

theorem frequency_eq (doc : DocId) : s.frequency term doc = count doc := h.lists.getD_frequencyIn? doc

theorem isSome_iff_documentFrequency : s.postings[term]?.isSome ↔ 0 < s.documentFrequency term := by
  rw [documentFrequency, postingsOf, Std.TreeMap.getD_eq_getD_getElem?]
  cases hlist : s.postings[term]? with
  | none => simp
  | some list => simpa using List.length_pos_of_ne_nil (h.ne_nil_of_eq_some hlist)

theorem posting?_eq {search : List DocId → DocId → Option Nat} (hsearch : FindsPlaces search) (doc : DocId) :
    s.posting? search term doc = if count doc = 0 then none else some ⟨doc, count doc⟩ := by
  rw [posting?]
  cases hlist : s.postings[term]? with
  | none => rw [if_pos (h.eq_none_iff.1 hlist doc), Option.bind_none]
  | some list => rw [Option.bind_some, (h.lists_of_eq_some hlist).searchPosting?_eq hsearch]

end Counts

theorem idf_eq_ok_iff {s : Store} {term : String} {rarity : Float} : s.idf term = .ok rarity ↔
    0 < s.documentFrequency term ∧ Weight.idf s.documentCount (s.documentFrequency term) = rarity := by
  unfold idf
  split
  · next hzero => simp [hzero]
  · next hdf => simp [Nat.pos_of_ne_zero hdf]

end Store

namespace Index

/-- **The answers about a term agree after every history.**
* A term occurs, is in some document, has a rarity, has postings and has a set of documents that is not empty, or none of
  these.
* The number of documents with a term is the size of their set.
* The frequency of a term is positive in the documents of this set and in no others. It is that of the one posting of the
  document, and every search by id finds this posting, and nothing if there is none; so frequencies and weights may be
  answered by a search.
* The weight of a term is made of its frequency and its rarity, and it is zero where the frequency is.
* The dampened frequency is zero just where the frequency is, and one more than a logarithm everywhere else. -/
theorem accessors_agree {search : List DocId → DocId → Option Nat} (hsearch : FindsPlaces search)
    {log10 : Float → Float} (hlog : Weight.NonnegFromOne log10) (t : Tokenizer) (w : Weighting) (updates : List Update)
    (term : String) :
    let s := (history t w updates).store
    [s.contains term = true, 0 < s.documentFrequency term, ∃ rarity, s.idf term = .ok rarity,
      s.postings[term]?.isSome = true, s.docSet term ≠ ∅].TFAE ∧
    s.documentFrequency term = (s.docSet term).size ∧
    ∀ doc,
      let n := s.frequency term doc
      (0 < n ↔ doc ∈ s.docSet term) ∧
      (∀ p, p ∈ s.postingsOf term ∧ p.doc = doc ↔ 0 < n ∧ p = ⟨doc, n⟩) ∧
      s.posting? search term doc = (if n = 0 then none else some ⟨doc, n⟩) ∧
      n = (s.posting? search term doc).elim 0 (·.frequency) ∧
      s.weight term doc =
        (s.posting? search term doc).elim 0.0 (fun p => s.combine (s.documentFrequency term) p.frequency) ∧
      (0 < n → ∃ rarity, s.idf term = .ok rarity ∧ s.weight term doc = w.combine n rarity) ∧
      (n = 0 → s.weight term doc = 0.0) ∧
      s.logFrequency term doc = Weight.dampened Float.log10 n ∧
      (Weight.dampened log10 n = 0.0 ↔ n = 0) ∧
      (n ≠ 0 → Weight.dampened log10 n = 1.0 + log10 n.toFloat ∧ 1 ≤ Weight.dampened log10 n) := by
  intro s
  have hcounts := counts_history t w updates term
  refine ⟨?_, hcounts.size_docSet.symm, fun doc => ?_⟩
  · tfae_have 1 ↔ 4 := by rw [Store.contains, Std.TreeMap.contains_eq_isSome_getElem?]
    tfae_have 4 ↔ 2 := hcounts.isSome_iff_documentFrequency
    tfae_have 3 ↔ 2 := by simp [Store.idf_eq_ok_iff]
    tfae_have 5 ↔ 2 := by rw [DocSet.ne_empty_iff, hcounts.size_docSet]
    tfae_finish
  · intro n
    have hn : n = _ := hcounts.frequency_eq doc
    have hweight := hcounts.weight_eq doc
    have hposting (p : Posting) : p ∈ s.postingsOf term ∧ p.doc = doc ↔ 0 < n ∧ p = ⟨doc, n⟩ := by
      rw [hcounts.lists.mem_iff, hn]
      constructor
      · rintro ⟨⟨hpos, hcount⟩, rfl⟩
        exact ⟨hcount ▸ hpos, by rw [← hcount]⟩
      · rintro ⟨hpos, rfl⟩
        exact ⟨⟨hpos, rfl⟩, rfl⟩
    have hfound := hcounts.posting?_eq hsearch doc
    rw [← hn] at hweight hfound
    refine ⟨?_, hposting, hfound, ?_, ?_, fun hpos => ?_, fun hzero => ?_, rfl, Weight.dampened_eq_zero_iff hlog,
      fun hne => ?_⟩
    · rw [hcounts.mem_docSet_iff, hn]
    · rw [hfound]
      split
      · next hzero => exact hzero
      · rfl
    · rw [hfound, hweight]
      split <;> rfl
    · have hmem := ((hposting ⟨doc, n⟩).2 ⟨hpos, rfl⟩).1
      refine ⟨_, Store.idf_eq_ok_iff.2 ⟨List.length_pos_of_mem hmem, rfl⟩, ?_⟩
      rw [hweight, if_neg hpos.ne', Store.combine, weighting_history]
    · rw [hweight, if_pos hzero]
    · exact ⟨if_neg hne, Weight.one_le_dampened hlog hne⟩

/-- Two documents, of which the second one alone has a term. -/
def exampleSecond : List Update := [.corpus [("u", ""), ("v", "a")], .champions 1]

theorem nonnegFromOne_exampleLog : Weight.NonnegFromOne exampleLog := by
  intro x _
  unfold exampleLog
  split
  · decide
  · decide

/-- Halving finds the posting of the second document, and none of the first. -/
theorem accessors_agree_second :
    let s := (history {} .sum exampleSecond).store
    (FindsPlaces bisect ∧ Weight.NonnegFromOne exampleLog) ∧
    s.posting? bisect "a" 0 = none ∧ s.weight "a" 0 = 0.0 ∧ 1 ∈ s.docSet "a" ∧ s.posting? bisect "a" 1 = some ⟨1, 1⟩ ∧
    (∃ rarity, s.idf "a" = .ok rarity ∧ s.weight "a" 1 = Weighting.sum.combine 1 rarity) ∧
    1 ≤ Weight.dampened exampleLog 1 := by
  intro s
  have hcounts := counts_history {} .sum exampleSecond "a"
  have hfirst : s.frequency "a" 0 = 0 := by
    have htext : textOf? (history {} .sum exampleSecond).vocabulary (latest exampleSecond) 0 = some "" := by decide
    rw [hcounts.frequency_eq, htext, occurrences, Tokenizer.tokenize_eq_flatMap_words]
    rfl
  have hsecond : s.frequency "a" 1 = 1 := by
    have htext : textOf? (history {} .sum exampleSecond).vocabulary (latest exampleSecond) 1 = some "a" := by decide
    rw [hcounts.frequency_eq, htext, occurrences, Tokenizer.tokenize_letter]
    rfl
  obtain ⟨-, -, hdoc⟩ := accessors_agree findsPlaces_bisect nonnegFromOne_exampleLog {} .sum exampleSecond "a"
  obtain ⟨-, -, hnone, -, -, -, hzero, -⟩ := hdoc 0
  obtain ⟨hmem, -, hsome, -, -, hweight, -, -, -, hdampened⟩ := hdoc 1
  rw [hfirst] at hnone hzero
  rw [hsecond] at hmem hsome hweight hdampened
  exact ⟨⟨findsPlaces_bisect, nonnegFromOne_exampleLog⟩, hnone, hzero rfl, hmem.1 (by decide), hsome,
    hweight (by decide), (hdampened (by decide)).2⟩

end Index

end Retrieval
