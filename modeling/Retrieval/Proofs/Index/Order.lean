import Retrieval.Proofs.Index.Length
import Retrieval.Proofs.Query.Scan

/-!
# Corpora in any order

The ids of an index depend on the order of its corpus. What it knows of an address does not, as long as the corpus gives
the address the same text.

* `Vocabulary.Knows`, `Vocabulary.addresses` : the addresses in use, and those of a set of documents;
* `Vocabulary.card_eq_of_urls` : documents with the same addresses are as many;
* `Index.ofCorpus` : the index of a corpus that is built anew;
* `Index.Reflects.mem_addresses_iff`, `Index.Reflects.frequency_eq` : matches and frequencies, said by address;
* `Index.Alike` : indexes that answer alike but for the ids;
* `Index.alike_of_texts` : corpora with the same texts make them;
* `Index.alike_of_perm` : so do a corpus without repeated addresses and its permutations.
-/

namespace Retrieval

/-! ## Addresses -/

namespace Vocabulary

/-- The address is that of a document in use. -/
def Knows (v : Vocabulary) (url : String) : Prop := ∃ doc, v.url? doc = some url

def addresses (v : Vocabulary) (docs : DocSet) : Set String := {url | ∃ doc ∈ docs, v.url? doc = some url}

theorem knows_iff {v : Vocabulary} {url : String} : v.Knows url ↔ url ∈ v.urls.toList := by
  rw [← isSome_id?_iff, Option.isSome_iff_exists]
  exact exists_congr fun doc => id?_eq_some_iff.symm

theorem injOn_url? {v : Vocabulary} {docs : Finset DocId} (h : ∀ doc ∈ docs, doc < v.size) :
    Set.InjOn v.url? docs := by
  intro i hi j _ hij
  obtain ⟨url, hurl⟩ := Option.isSome_iff_exists.1 (isSome_url?_iff.2 (h i hi))
  exact url?_injective hurl (hij ▸ hurl)

/-- **Documents with the same addresses are as many.** -/
theorem card_eq_of_urls {v v' : Vocabulary} {docs docs' : Finset DocId} (h : ∀ doc ∈ docs, doc < v.size)
    (h' : ∀ doc ∈ docs', doc < v'.size)
    (hurls : ∀ url, (∃ doc ∈ docs, v.url? doc = some url) ↔ ∃ doc ∈ docs', v'.url? doc = some url) :
    docs.card = docs'.card := by
  have himage : docs.image v.url? = docs'.image v'.url? := by
    ext url?
    rw [Finset.mem_image, Finset.mem_image]
    cases url? with
    | some url => exact hurls url
    | none =>
      have hsome {w : Vocabulary} {doc : DocId} (hdoc : doc < w.size) : w.url? doc ≠ none :=
        Option.isSome_iff_ne_none.1 (isSome_url?_iff.2 hdoc)
      exact ⟨fun ⟨doc, hdoc, hnone⟩ => absurd hnone (hsome (h doc hdoc)),
        fun ⟨doc, hdoc, hnone⟩ => absurd hnone (hsome (h' doc hdoc))⟩
  rw [← Finset.card_image_of_injOn (injOn_url? h), himage, Finset.card_image_of_injOn (injOn_url? h')]

end Vocabulary

/-! ## Document frequency -/

namespace Store

/-- A term is in as many documents as there are on its list, which names none of them twice. -/
theorem Counts.documentFrequency_eq {s : Store} {term : String} {count : DocId → Nat} (h : s.Counts term count) :
    s.documentFrequency term = (s.docsWith term).toFinset.card := by
  rw [List.toFinset_card_of_nodup h.nodup_docsWith, docsWith, List.length_map, documentFrequency]

end Store

namespace Index

open Query Query.Grammar

/-! ## What an index knows of an address -/

/-- The matches of a derivation are the addresses at whose text it is true. -/
theorem Reflects.mem_addresses_iff {index : Index} {corpus : List (String × String)} (h : index.Reflects corpus)
    (e : Expr) (url : String) :
    url ∈ index.vocabulary.addresses (e.read index.reading) ↔
      index.vocabulary.Knows url ∧ e.read (truth index.tokenizer (lastText? corpus url)) = true := by
  constructor
  · rintro ⟨doc, hdoc, hurl⟩
    have htrue := ((h.mem_read_iff e doc).1 hdoc).2
    rw [textOf?_of_url hurl] at htrue
    exact ⟨⟨doc, hurl⟩, htrue⟩
  · rintro ⟨⟨doc, hurl⟩, htrue⟩
    refine ⟨doc, (h.mem_read_iff e doc).2 ⟨?_, ?_⟩, hurl⟩
    · exact Vocabulary.isSome_url?_iff.1 (by rw [hurl]; rfl)
    · rw [textOf?_of_url hurl]
      exact htrue

/-- The documents of a term are those of the addresses whose text has it. -/
theorem Reflects.exists_docsWith_iff {index : Index} {corpus : List (String × String)} (h : index.Reflects corpus)
    (term url : String) :
    (∃ doc ∈ index.store.docsWith term, index.vocabulary.url? doc = some url) ↔
      index.vocabulary.Knows url ∧ ∃ text, lastText? corpus url = some text ∧ term ∈ index.tokenizer.tokenize text := by
  constructor
  · rintro ⟨doc, hdoc, hurl⟩
    have htext := h.mem_docsWith_iff.1 hdoc
    rw [textOf?_of_url hurl] at htext
    exact ⟨⟨doc, hurl⟩, htext⟩
  · rintro ⟨⟨doc, hurl⟩, htext⟩
    refine ⟨doc, h.mem_docsWith_iff.2 ?_, hurl⟩
    rw [textOf?_of_url hurl]
    exact htext

theorem Reflects.lt_size_of_mem_docsWith {index : Index} {corpus : List (String × String)} (h : index.Reflects corpus)
    {term : String} {doc : DocId} (hdoc : doc ∈ index.store.docsWith term) : doc < index.vocabulary.size := by
  obtain ⟨text, htext, -⟩ := h.mem_docsWith_iff.1 hdoc
  obtain ⟨url, hurl, -⟩ := Option.bind_eq_some_iff.1 htext
  exact Vocabulary.isSome_url?_iff.1 (by rw [hurl]; rfl)

theorem Reflects.frequency_eq {index : Index} {corpus : List (String × String)} (h : index.Reflects corpus)
    {doc : DocId} {url : String} (hurl : index.vocabulary.url? doc = some url) (term : String) :
    index.store.frequency term doc = occurrences index.tokenizer (lastText? corpus url) term := by
  rw [← textOf?_of_url hurl]
  exact (h.counts term).lists.getD_frequencyIn? doc

/-! ## Indexes of one corpus -/

def ofCorpus (t : Tokenizer) (w : Weighting) (corpus : List (String × String)) : Index :=
  (new t w).indexCorpus corpus

theorem knows_gather {index : Index} {corpus : List (String × String)} {url : String} :
    (index.gather corpus).1.Knows url ↔ index.vocabulary.Knows url ∨ (lastText? corpus url).isSome := by
  rw [Vocabulary.knows_iff, Vocabulary.knows_iff, isSome_lastText?_iff, vocabulary_gather,
    Vocabulary.mem_toList_addAll]

section OfCorpus
variable (t : Tokenizer) (w : Weighting) {corpus : List (String × String)}

theorem reflects_ofCorpus : (ofCorpus t w corpus).Reflects corpus := reflects_indexCorpus _ _

theorem measures_ofCorpus : (ofCorpus t w corpus).Measures corpus := measures_indexCorpus _ _

theorem knows_ofCorpus {url : String} :
    (ofCorpus t w corpus).vocabulary.Knows url ↔ (lastText? corpus url).isSome := by
  have h : (ofCorpus t w corpus).vocabulary.Knows url ↔ _ := knows_gather
  rw [h]
  exact or_iff_right fun hold => List.not_mem_nil (Vocabulary.knows_iff.1 hold)

end OfCorpus

/-! ## Two indexes -/

/-- Two indexes answer alike but for the ids of documents. -/
structure Alike (index index' : Index) : Prop where
  /-- A query fails for the same reason, or its matches have the same addresses. -/
  evaluate_eq : ∀ query, (index.evaluate query).map index.vocabulary.addresses =
    (index'.evaluate query).map index'.vocabulary.addresses
  documentCount_eq : index.store.documentCount = index'.store.documentCount
  documentFrequency_eq : ∀ term, index.store.documentFrequency term = index'.store.documentFrequency term
  idf_eq : ∀ term, index.store.idf term = index'.store.idf term
  knows_iff : ∀ url, index.vocabulary.Knows url ↔ index'.vocabulary.Knows url
  frequency_eq : ∀ {url doc doc'}, index.vocabulary.url? doc = some url → index'.vocabulary.url? doc' = some url →
    ∀ term, index.store.frequency term doc = index'.store.frequency term doc'
  /-- The length of a known address is cached, and it is the same number. -/
  length_eq : ∀ {url doc doc'}, index.vocabulary.url? doc = some url → index'.vocabulary.url? doc' = some url →
    ∃ length, index.store.length doc = .ok length ∧ index'.store.length doc' = .ok length

section TwoCorpora
variable {t : Tokenizer} {w : Weighting} {corpus corpus' : List (String × String)}
  (h : ∀ url, lastText? corpus url = lastText? corpus' url)
include h

theorem knows_iff_of_texts (url : String) :
    (ofCorpus t w corpus).vocabulary.Knows url ↔ (ofCorpus t w corpus').vocabulary.Knows url := by
  rw [knows_ofCorpus, knows_ofCorpus, h]

/-- Rarity refers to all documents in use. -/
theorem documentCount_eq_of_texts :
    (ofCorpus t w corpus).store.documentCount = (ofCorpus t w corpus').store.documentCount := by
  change (ofCorpus t w corpus).vocabulary.size = (ofCorpus t w corpus').vocabulary.size
  have hused (c : List (String × String)) : ∀ doc ∈ Finset.range (ofCorpus t w c).vocabulary.size,
      doc < (ofCorpus t w c).vocabulary.size := fun doc => Finset.mem_range.1
  have hknows (c : List (String × String)) (url : String) :
      (∃ doc ∈ Finset.range (ofCorpus t w c).vocabulary.size, (ofCorpus t w c).vocabulary.url? doc = some url) ↔
        (ofCorpus t w c).vocabulary.Knows url := by
    refine exists_congr fun doc => and_iff_right_of_imp fun hurl => ?_
    exact Finset.mem_range.2 (Vocabulary.isSome_url?_iff.1 (by rw [hurl]; rfl))
  have hcard := Vocabulary.card_eq_of_urls (hused corpus) (hused corpus') fun url => by
    rw [hknows, hknows, knows_iff_of_texts h]
  rwa [Finset.card_range, Finset.card_range] at hcard

theorem documentFrequency_eq_of_texts (term : String) :
    (ofCorpus t w corpus).store.documentFrequency term = (ofCorpus t w corpus').store.documentFrequency term := by
  rw [((reflects_ofCorpus t w).counts term).documentFrequency_eq,
    ((reflects_ofCorpus t w).counts term).documentFrequency_eq]
  refine Vocabulary.card_eq_of_urls
    (fun doc hdoc => (reflects_ofCorpus t w).lt_size_of_mem_docsWith (List.mem_toFinset.1 hdoc))
    (fun doc hdoc => (reflects_ofCorpus t w).lt_size_of_mem_docsWith (List.mem_toFinset.1 hdoc)) fun url => ?_
  simp only [List.mem_toFinset, (reflects_ofCorpus t w).exists_docsWith_iff, knows_iff_of_texts h, h]
  rfl

theorem evaluate_eq_of_texts (query : String) :
    ((ofCorpus t w corpus).evaluate query).map (ofCorpus t w corpus).vocabulary.addresses =
      ((ofCorpus t w corpus').evaluate query).map (ofCorpus t w corpus').vocabulary.addresses := by
  cases hparse : Formula.parse query with
  | error e =>
    have hevaluate (index : Index) : index.evaluate query = .error e := by
      rw [evaluate, hparse]
      rfl
    rw [hevaluate, hevaluate]
    rfl
  | ok f =>
    obtain ⟨e, htokens, hdepth, -⟩ := Formula.ofTokens_eq_ok_iff.1 hparse
    have hevaluate (index : Index) : index.evaluate query = .ok (e.read index.reading) :=
      evaluate_eq_ok_iff_exists.2 ⟨e, htokens, hdepth, rfl⟩
    rw [hevaluate, hevaluate]
    refine congrArg Except.ok (Set.ext fun url => ?_)
    rw [(reflects_ofCorpus t w).mem_addresses_iff, (reflects_ofCorpus t w).mem_addresses_iff,
      knows_iff_of_texts h, h]
    rfl

theorem length_eq_of_texts {url : String} {doc doc' : DocId}
    (hurl : (ofCorpus t w corpus).vocabulary.url? doc = some url)
    (hurl' : (ofCorpus t w corpus').vocabulary.url? doc' = some url) :
    ∃ length, (ofCorpus t w corpus).store.length doc = .ok length ∧
      (ofCorpus t w corpus').store.length doc' = .ok length := by
  obtain ⟨text, htext⟩ := Option.isSome_iff_exists.1 ((knows_ofCorpus t w).1 ⟨doc, hurl⟩)
  have htext' : lastText? corpus' url = some text := (h url).symm.trans htext
  refine ⟨_, (measures_ofCorpus t w).length_eq hurl htext, ?_⟩
  rw [(measures_ofCorpus t w).length_eq hurl' htext']
  -- both lengths are norms over the terms of one text, so that only the weights could differ
  refine congrArg (fun weights => Except.ok (Weight.norm weights)) (List.map_congr_left fun term _ => ?_)
  rw [((reflects_ofCorpus t w).counts term).weight_eq, ((reflects_ofCorpus t w).counts term).weight_eq]
  unfold Store.combine
  rw [documentFrequency_eq_of_texts h, documentCount_eq_of_texts h]
  rw [textOf?_of_url hurl, textOf?_of_url hurl', htext, htext']
  rfl

/-- **Corpora that give every address the same text make indexes that answer alike.** -/
theorem alike_of_texts : Alike (ofCorpus t w corpus) (ofCorpus t w corpus') where
  evaluate_eq := evaluate_eq_of_texts h
  documentCount_eq := documentCount_eq_of_texts h
  documentFrequency_eq := documentFrequency_eq_of_texts h
  idf_eq term := by
    rw [Store.idf, Store.idf, documentFrequency_eq_of_texts h, documentCount_eq_of_texts h]
  knows_iff := knows_iff_of_texts h
  frequency_eq hurl hurl' term := by
    rw [(reflects_ofCorpus t w).frequency_eq hurl, (reflects_ofCorpus t w).frequency_eq hurl', h]
    rfl
  length_eq := length_eq_of_texts h

end TwoCorpora

/-! ## Permutations -/

/-- Where no address is repeated, every text is the last one of its address. -/
theorem lastText?_eq_some_iff {corpus : List (String × String)} (h : (corpus.map Prod.fst).Nodup) {url text : String} :
    lastText? corpus url = some text ↔ (url, text) ∈ corpus := by
  induction corpus using List.reverseRecOn with
  | nil => simp [lastText?]
  | append_singleton corpus document ih =>
    obtain ⟨u, s⟩ := document
    rw [List.map_append, List.nodup_append] at h
    obtain ⟨hnodup, -, hnew⟩ := h
    rw [lastText?_append, List.mem_append, List.mem_singleton, Prod.mk.injEq]
    split
    · next heq =>
      subst heq
      have hold : (url, text) ∉ corpus := fun hmem => hnew url (List.mem_map_of_mem hmem) url (by simp) rfl
      simp [hold, eq_comm]
    · next hne => simp [hne, ih hnodup]

/-- **The order of a corpus does not matter to search.** Where no address is repeated, the indexes of a corpus and of a
permutation of it answer alike: queries fail for the same reason or match the same addresses, terms have the same
document frequency and rarity, and every address has the same frequencies and the very same length. -/
theorem alike_of_perm (t : Tokenizer) (w : Weighting) {corpus corpus' : List (String × String)}
    (hdistinct : (corpus.map Prod.fst).Nodup) (hperm : corpus.Perm corpus') :
    Alike (ofCorpus t w corpus) (ofCorpus t w corpus') := by
  refine alike_of_texts fun url => Option.ext fun text => ?_
  have hdistinct' : (corpus'.map Prod.fst).Nodup := (hperm.map Prod.fst).nodup_iff.1 hdistinct
  rw [lastText?_eq_some_iff hdistinct, lastText?_eq_some_iff hdistinct', hperm.mem_iff]

/-- A corpus of three addresses. -/
def exampleCorpus : List (String × String) := [("u", "b a b"), ("v", "b c"), ("w", "")]

/-- The same corpus with its last address in front. -/
def exampleRotated : List (String × String) := [("w", ""), ("u", "b a b"), ("v", "b c")]

theorem alike_of_perm_rotated :
    (exampleCorpus.map Prod.fst).Nodup ∧ exampleCorpus.Perm exampleRotated ∧
    (ofCorpus {} .sum exampleCorpus).vocabulary.id? "w" = some 2 ∧
    (ofCorpus {} .sum exampleRotated).vocabulary.id? "w" = some 0 ∧
    Alike (ofCorpus {} .sum exampleCorpus) (ofCorpus {} .sum exampleRotated) := by
  have hdistinct : (exampleCorpus.map Prod.fst).Nodup := by decide
  have hperm : exampleCorpus.Perm exampleRotated := by decide
  exact ⟨hdistinct, hperm, by decide +kernel, by decide +kernel, alike_of_perm {} .sum hdistinct hperm⟩

end Index

end Retrieval
