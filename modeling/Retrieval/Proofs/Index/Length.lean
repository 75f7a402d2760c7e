import Mathlib.Data.Finset.Sort
import Mathlib.Data.String.Basic
import Retrieval.Proofs.Index.Frequency
import Retrieval.Proofs.Index.Sighting
import Retrieval.Proofs.Tokenizer.Segmentation

/-!
# Lengths of documents

The length of a document is cached by the build. It is the norm of the weights that the store answers for the distinct
terms of the document, so that it can be computed again at any time.

* `Index.bag`, `Index.distinctTerms` : the terms of a text, with and without their numbers;
* `Index.bag_eq_of_perm_words` : permuted words make the same bag;
* `Store.lengthOf_eq_norm` : the length of counted terms is the norm of their weights;
* `Index.Measures` : the cached lengths are those of the texts that a corpus gives for the documents in use;
* `Index.measures_history` : they are those of the latest corpus, whatever came before it;
* `Index.length_eq_of_bags` : the order of terms within a text does not matter to them;
* `Index.lengths_of_latest_corpus` : lengths after every history.
-/

namespace Retrieval

/-! ## Terms of a text -/

namespace Index

/-- The terms of a text, each as often as it occurs. -/
def bag (t : Tokenizer) (text : String) : Multiset String := t.tokenize text

def distinctTerms (terms : Multiset String) : List String := terms.toFinset.sort (· ≤ ·)

theorem mem_distinctTerms {terms : Multiset String} {term : String} : term ∈ distinctTerms terms ↔ term ∈ terms := by
  rw [distinctTerms, Finset.mem_sort, Multiset.mem_toFinset]

theorem bag_eq_of_perm_words (t : Tokenizer) {text text' : String} (h : (Text.words text).Perm (Text.words text')) :
    bag t text = bag t text' := by
  unfold bag
  rw [Multiset.coe_eq_coe, t.tokenize_eq_flatMap_words text, t.tokenize_eq_flatMap_words text']
  exact h.flatMap_right t.tokenize

theorem occurrences_eq_count (t : Tokenizer) (text? : Option String) (term : String) :
    occurrences t text? term = ((text?.map (bag t)).getD 0).count term := by
  cases text? with
  | none => rfl
  | some text => exact (Multiset.coe_count term _).symm

end Index

theorem keys_termCounts (terms : List String) : (termCounts terms).keys = Index.distinctTerms terms := by
  have hlt {a b : String} (h : compare a b = .lt) : a < b := compare_lt_iff_lt.1 h
  have hascending : (termCounts terms).keys.Pairwise (· < ·) := Std.TreeMap.ordered_keys.imp hlt
  have hmem : (termCounts terms).keys.toFinset = (terms : Multiset String).toFinset := by
    ext term
    rw [List.mem_toFinset, Multiset.mem_toFinset, Multiset.mem_coe, Std.TreeMap.mem_keys,
      Std.TreeMap.mem_iff_isSome_getElem?, termCounts_isSome_iff]
  have hnodup : (termCounts terms).keys.Nodup := hascending.imp ne_of_lt
  rw [Index.distinctTerms, ← hmem]
  exact ((List.toFinset_sort (· ≤ ·) hnodup).2 (hascending.imp le_of_lt)).symm

theorem toList_termCounts (terms : List String) :
    (termCounts terms).toList = (Index.distinctTerms terms).map fun term => (term, terms.count term) := by
  rw [← keys_termCounts, ← Std.TreeMap.map_fst_toList_eq_keys, List.map_map]
  refine (List.map_id _).symm.trans (List.map_congr_left fun entry hentry => ?_)
  obtain ⟨term, n⟩ := entry
  rw [Std.TreeMap.mem_toList_iff_getElem?_eq_some, getElem?_termCounts] at hentry
  split at hentry
  · cases hentry
  · rw [← Option.some.inj hentry]
    rfl

/-! ## Weights -/

namespace Store

variable {s : Store}

theorem Counts.documentFrequency_ne_zero {term : String} {count : DocId → Nat} (h : s.Counts term count) {doc : DocId}
    (hpos : 0 < count doc) : s.documentFrequency term ≠ 0 := by
  unfold documentFrequency
  intro hzero
  have hnil := List.length_eq_zero_iff.1 hzero
  have := h.lists.eq_nil_iff.1 hnil doc
  omega

/-- The rarity of a term as lengths use it: zero for a term that does not occur. -/
theorem getD_rarities (s : Store) (term : String) (h : s.documentFrequency term ≠ 0) :
    s.rarities.getD term 0.0 = Weight.idf s.documentCount (s.documentFrequency term) := by
  rw [rarities, Std.TreeMap.getD_map]
  unfold documentFrequency postingsOf at h ⊢
  rw [Std.TreeMap.getD_eq_getD_getElem?] at h ⊢
  cases hlist : s.postings[term]? with
  | none => simp [hlist] at h
  | some list => rfl

/-- The weight of a term depends on its list, on the number of documents and on the weighting. -/
theorem weight_congr {s s' : Store} {term : String} (hpostings : s.postings[term]? = s'.postings[term]?)
    (hcount : s.documentCount = s'.documentCount) (hweighting : s.weighting = s'.weighting) (doc : DocId) :
    s.weight term doc = s'.weight term doc := by
  unfold weight combine postingsOf
  rw [Std.TreeMap.getD_eq_getD_getElem?, Std.TreeMap.getD_eq_getD_getElem?, hpostings, hcount, hweighting]

/-- **The length of counted terms is the norm of the weights that the store answers for them**, in a document where
they occur as often. -/
theorem lengthOf_eq_norm {terms : List String} {doc : DocId} {count : String → DocId → Nat}
    (hcounts : ∀ term, s.Counts term (count term)) (hdoc : ∀ term, count term doc = terms.count term) :
    lengthOf s.weighting s.rarities (termCounts terms) =
      Weight.norm ((Index.distinctTerms terms).map (s.weight · doc)) := by
  unfold lengthOf
  rw [toList_termCounts, List.map_map]
  refine congrArg Weight.norm (List.map_congr_left fun term hterm => ?_)
  have hpos : 0 < count term doc := by
    rw [hdoc]
    exact List.count_pos_iff.2 (Index.mem_distinctTerms.1 hterm)
  have hfrequency := (hcounts term).documentFrequency_ne_zero hpos
  rw [(hcounts term).weight_eq, if_neg (Nat.ne_of_gt hpos), hdoc]
  show s.weighting.combine (terms.count term) (s.rarities.getD term 0.0) = _
  rw [s.getD_rarities term hfrequency]
  rfl

end Store

/-! ## Lengths of a corpus -/

namespace Index

/-- The cached length of a document is the norm of the present weights of its terms, in the text that a corpus gives
for it. Nothing is cached for a document without a text. -/
def Measures (index : Index) (corpus : List (String × String)) : Prop :=
  ∀ doc, index.store.length doc =
    match textOf? index.vocabulary corpus doc with
    | none => .error (.missingLength doc)
    | some text => .ok (Weight.norm ((distinctTerms (bag index.tokenizer text)).map (index.store.weight · doc)))

theorem Measures.length_eq {index : Index} {corpus : List (String × String)} (h : index.Measures corpus) {doc : DocId}
    {url text : String} (hurl : index.vocabulary.url? doc = some url) (htext : lastText? corpus url = some text) :
    index.store.length doc =
      .ok (Weight.norm ((distinctTerms (bag index.tokenizer text)).map (index.store.weight · doc))) := by
  rw [h doc, textOf?_of_url hurl, htext]

theorem measures_indexCorpus (index : Index) (corpus : List (String × String)) :
    (index.indexCorpus corpus).Measures corpus := by
  intro doc
  have hlength : (index.indexCorpus corpus).store.lengths[doc]? =
      ((index.gather corpus).2[doc]?).map
        (Store.lengthOf (index.indexCorpus corpus).store.weighting (index.indexCorpus corpus).store.rarities) :=
    Std.TreeMap.getElem?_map
  rw [counted_gather index corpus doc] at hlength
  change _ = ((textOf? (index.indexCorpus corpus).vocabulary corpus doc).map _).map _ at hlength
  unfold Store.length
  rw [hlength]
  cases htext : textOf? (index.indexCorpus corpus).vocabulary corpus doc with
  | none => rfl
  | some text =>
    have hcounts := (reflects_indexCorpus index corpus).counts
    refine congrArg Except.ok (Store.lengthOf_eq_norm hcounts fun term => ?_)
    rw [htext]
    rfl

theorem measures_history (t : Tokenizer) (w : Weighting) (updates : List Update) :
    (history t w updates).Measures (latest updates) := by
  induction updates using List.reverseRecOn with
  | nil =>
    intro doc
    rfl
  | append_singleton updates u ih =>
    rw [history_append]
    cases u with
    | corpus documents =>
      rw [latest_append_corpus]
      exact measures_indexCorpus _ documents
    | champions r =>
      rw [latest_append_champions]
      exact ih

/-! ## Texts of the same terms -/

/-- What a corpus says of terms: its addresses, each with the bag of the terms of its text. -/
def bags (t : Tokenizer) (corpus : List (String × String)) : List (String × Multiset String) :=
  corpus.map fun document => (document.1, bag t document.2)

theorem map_bag_lastText? (t : Tokenizer) (corpus : List (String × String)) (url : String) :
    (lastText? corpus url).map (bag t) = (bags t corpus).reverse.lookup url := by
  unfold lastText? bags
  rw [← List.map_reverse]
  induction corpus.reverse with
  | nil => rfl
  | cons document rest ih =>
    rw [List.map_cons, List.lookup_cons, List.lookup_cons]
    split
    · rfl
    · exact ih

section Bags
variable {index : Index} {corpus corpus' : List (String × String)}
  (h : bags index.tokenizer corpus = bags index.tokenizer corpus')
include h

theorem vocabulary_eq_of_bags : (index.indexCorpus corpus).vocabulary = (index.indexCorpus corpus').vocabulary := by
  have hurls : corpus.map Prod.fst = corpus'.map Prod.fst := by
    have := congrArg (List.map Prod.fst) h
    rwa [bags, bags, List.map_map, List.map_map] at this
  show (index.gather corpus).1 = (index.gather corpus').1
  rw [vocabulary_gather, vocabulary_gather, hurls]

theorem map_bag_textOf?_eq (v : Vocabulary) (doc : DocId) :
    (textOf? v corpus doc).map (bag index.tokenizer) = (textOf? v corpus' doc).map (bag index.tokenizer) := by
  unfold textOf?
  rw [Option.map_bind, Option.map_bind]
  refine Option.bind_congr fun url _ => ?_
  rw [Function.comp_apply, Function.comp_apply, map_bag_lastText?, map_bag_lastText?, h]

theorem postings_eq_of_bags (term : String) :
    (index.indexCorpus corpus).store.postings[term]? = (index.indexCorpus corpus').store.postings[term]? := by
  refine ((reflects_indexCorpus index corpus).counts term).getElem?_congr
    ((reflects_indexCorpus index corpus').counts term) fun doc => ?_
  rw [occurrences_eq_count, occurrences_eq_count, vocabulary_eq_of_bags h]
  exact congrArg (fun bag? => (bag?.getD 0).count term) (map_bag_textOf?_eq h _ doc)

theorem weight_eq_of_bags (term : String) (doc : DocId) :
    (index.indexCorpus corpus).store.weight term doc = (index.indexCorpus corpus').store.weight term doc :=
  Store.weight_congr (postings_eq_of_bags h term) (congrArg Vocabulary.size (vocabulary_eq_of_bags h)) rfl doc

/-- **The order of the terms within the texts does not matter to lengths.** -/
theorem length_eq_of_bags (doc : DocId) :
    (index.indexCorpus corpus).store.length doc = (index.indexCorpus corpus').store.length doc := by
  have hbag := map_bag_textOf?_eq h (index.indexCorpus corpus').vocabulary doc
  rw [measures_indexCorpus index corpus doc, measures_indexCorpus index corpus' doc, vocabulary_eq_of_bags h]
  cases htext : textOf? (index.indexCorpus corpus').vocabulary corpus doc with
  | none =>
    rw [htext, Option.map_none, eq_comm, Option.map_eq_none_iff] at hbag
    rw [hbag]
  | some text =>
    rw [htext, Option.map_some, eq_comm, Option.map_eq_some_iff] at hbag
    obtain ⟨text', htext', hbag⟩ := hbag
    rw [htext']
    refine congrArg (fun weights => Except.ok (Weight.norm weights)) ?_
    show (distinctTerms (bag index.tokenizer text)).map _ = (distinctTerms (bag index.tokenizer text')).map _
    rw [hbag]
    exact List.map_congr_left fun term _ => weight_eq_of_bags h term doc

end Bags

/-! ## All histories -/

theorem weight_history (t : Tokenizer) (w : Weighting) (updates : List Update) {term : String} {doc : DocId}
    (hpos : occurrences t (textOf? (history t w updates).vocabulary (latest updates) doc) term ≠ 0) :
    (history t w updates).store.weight term doc =
      w.combine (occurrences t (textOf? (history t w updates).vocabulary (latest updates) doc) term)
        (Weight.idf (history t w updates).vocabulary.size ((history t w updates).store.documentFrequency term)) := by
  rw [(counts_history t w updates term).weight_eq, if_neg hpos, Store.combine, weighting_history, documentCount_history]

/-- **Lengths are cached for exactly the latest corpus, and they agree with the present weights.** After every history:
* a document has a length just if the latest corpus lists its address, and asking for any other is an error;
* the length is the square root of the sum of the squared weights of the distinct terms of the last text for that
  address, which are added up in ascending order;
* these weights have the number of all documents and the document frequencies of the finished build.
Corpora that list the same addresses in the same order, with texts of the same terms, each as often, lead from one
index to the same lengths. -/
theorem lengths_of_latest_corpus :
    (∀ t w updates doc,
      let index := history t w updates
      let listed := ∃ url ∈ (latest updates).map Prod.fst, index.vocabulary.url? doc = some url
      ((∃ length, index.store.length doc = .ok length) ↔ listed) ∧
      (¬ listed → index.store.length doc = .error (.missingLength doc)) ∧
      ∀ url text, index.vocabulary.url? doc = some url → lastText? (latest updates) url = some text →
        let weights := (distinctTerms (bag t text)).map (index.store.weight · doc)
        index.store.length doc = .ok (weights.foldl (fun sum weight => sum + weight * weight) (-0.0)).sqrt ∧
        ∀ term ∈ bag t text,
          let frequency := ((bag t text).count term).toFloat
          let rarity := (index.vocabulary.size.toFloat / (index.store.documentFrequency term).toFloat).log10
          index.store.weight term doc =
            match w with
            | .product => frequency * rarity
            | .sum => frequency + rarity) ∧
    ∀ (index : Index) corpus corpus', bags index.tokenizer corpus = bags index.tokenizer corpus' →
      ∀ doc, (index.indexCorpus corpus).store.length doc = (index.indexCorpus corpus').store.length doc := by
  refine ⟨fun t w updates doc => ?_, fun index corpus corpus' h doc => length_eq_of_bags h doc⟩
  intro index listed
  have hlisted : listed ↔ (textOf? index.vocabulary (latest updates) doc).isSome := isSome_textOf?_iff.symm
  have hmeasures := measures_history t w updates
  refine ⟨?_, fun hnot => ?_, fun url text hurl htext => ⟨?_, fun term hterm => ?_⟩⟩
  · rw [hlisted, hmeasures doc]
    cases textOf? index.vocabulary (latest updates) doc with
    | none => simp
    | some text => simp
  · rw [hlisted, Option.not_isSome_iff_eq_none] at hnot
    rw [hmeasures doc, hnot]
  · rw [hmeasures.length_eq hurl htext, tokenizer_history]
    rfl
  · have hcount : occurrences t (textOf? index.vocabulary (latest updates) doc) term = (bag t text).count term := by
      rw [occurrences_eq_count, textOf?_of_url hurl, htext]
      rfl
    intro frequency rarity
    have hne : occurrences t (textOf? index.vocabulary (latest updates) doc) term ≠ 0 := by
      rw [hcount]
      exact Multiset.count_ne_zero.2 hterm
    rw [weight_history t w updates hne, hcount]
    cases w <;> rfl

def exampleTerms : List (String × String) := [("u", "a a b"), ("v", "b")]

theorem tokenize_exampleTerms :
    ({} : Tokenizer).tokenize "a a b" = ["a", "a", "b"] ∧ ({} : Tokenizer).tokenize "b" = ["b"] := by
  have hwords : Text.words "a a b" = ["a", "a", "b"] := by decide
  have hascii : ∀ c ∈ "b".toList, c.toNat < 128 := by simp
  have hletter : ({} : Tokenizer).tokenize "b" = ["b"] := by
    rw [Tokenizer.tokenize_plain, Tokenizer.normalForm_of_ascii hascii]
    decide +kernel
  refine ⟨?_, hletter⟩
  rw [Tokenizer.tokenize_eq_flatMap_words, hwords, List.flatMap_cons, List.flatMap_cons, List.flatMap_singleton,
    Tokenizer.tokenize_letter, hletter]
  rfl

theorem documentFrequency_singleton (t : Tokenizer) (w : Weighting) (corpus : List (String × String)) (term : String) :
    (history t w [.corpus corpus]).store.documentFrequency term =
      ((Postings.ofDocuments ((new t w).gather corpus).2).getD term []).length := rfl

theorem documentFrequency_exampleTerms :
    let s := (history {} .product [.corpus exampleTerms]).store
    s.documentFrequency "a" = 1 ∧ s.documentFrequency "b" = 2 := by
  obtain ⟨hfirst, hsecond⟩ := tokenize_exampleTerms
  have hgather : (new {} .product).gather exampleTerms = ((((∅ : Vocabulary).add "u").1.add "v").1,
      ((∅ : Std.TreeMap DocId TermCounts).insert 0 (termCounts ["a", "a", "b"])).insert 1 (termCounts ["b"])) := by
    rw [← hfirst, ← hsecond]
    rfl
  intro s
  rw [documentFrequency_singleton, documentFrequency_singleton, hgather]
  decide +kernel

/-- The length of a document with two terms, and lengths of reordered texts. -/
theorem lengths_of_latest_corpus_reordered :
    let rare := (2 : Nat).toFloat * ((2 : Nat).toFloat / (1 : Nat).toFloat).log10
    let common := (1 : Nat).toFloat * ((2 : Nat).toFloat / (2 : Nat).toFloat).log10
    (history {} .product [.corpus exampleTerms]).store.length 0 = .ok (-0.0 + rare * rare + common * common).sqrt ∧
    let index := history {} .product [.corpus [("w", "c"), ("u", "a")], .champions 1]
    let corpus := [("u", "b a b"), ("v", "b c"), ("u", "c b b")]
    let reordered := [("u", "b b a"), ("v", "c b"), ("u", "b c b")]
    bags index.tokenizer corpus = bags index.tokenizer reordered ∧
      ∀ doc, (index.indexCorpus corpus).store.length doc = (index.indexCorpus reordered).store.length doc := by
  intro rare common
  constructor
  · obtain ⟨-, -, hlength⟩ := lengths_of_latest_corpus.1 {} .product [.corpus exampleTerms] 0
    obtain ⟨hlength, hweight⟩ := hlength "u" "a a b" rfl rfl
    obtain ⟨hrare, hcommon⟩ := documentFrequency_exampleTerms
    have hbag : bag {} "a a b" = ["a", "a", "b"] := congrArg Multiset.ofList tokenize_exampleTerms.1
    have hterms : distinctTerms (bag {} "a a b") = ["a", "b"] := by
      have hset : (["a", "a", "b"] : Multiset String).toFinset = ["a", "b"].toFinset := by decide
      have hdistinct : ["a", "b"].Nodup := by decide
      rw [hbag, distinctTerms, hset]
      exact (List.toFinset_sort (· ≤ ·) hdistinct).2 (by decide)
    have hcount : (bag {} "a a b").count "a" = 2 ∧ (bag {} "a a b").count "b" = 1 := by
      rw [hbag]
      decide
    have ha := hweight "a" (Multiset.count_ne_zero.1 (by omega))
    have hb := hweight "b" (Multiset.count_ne_zero.1 (by omega))
    rw [hcount.1, hrare] at ha
    rw [hcount.2, hcommon] at hb
    rw [hlength, hterms, List.map_cons, List.map_cons, List.map_nil, ha, hb]
    rfl
  · intro index corpus reordered
    have hbags : bags index.tokenizer corpus = bags index.tokenizer reordered := by
      simp only [bags, corpus, reordered, List.map_cons, List.map_nil]
      rw [bag_eq_of_perm_words _ (by decide +kernel : (Text.words "b a b").Perm (Text.words "b b a")),
        bag_eq_of_perm_words _ (by decide +kernel : (Text.words "b c").Perm (Text.words "c b")),
        bag_eq_of_perm_words _ (by decide +kernel : (Text.words "c b b").Perm (Text.words "b c b"))]
    exact ⟨hbags, lengths_of_latest_corpus.2 index corpus reordered hbags⟩

end Index

end Retrieval
