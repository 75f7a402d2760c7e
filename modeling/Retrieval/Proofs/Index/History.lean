import Mathlib.Data.List.Induction
import Retrieval.Index
import Retrieval.Proofs.Index.Postings
import Retrieval.Proofs.Index.Vocabulary

/-!
# Histories of an index

* `Index.Update`, `Index.history` : an index after corpora and champion lists in any order;
* `Index.latest` : the corpus that was indexed last;
* `Index.lastText?`, `Index.textOf?` : the last text that a corpus gives for an address, or for a document;
* `Index.Reflects` : the postings are those of the texts that a corpus gives for the documents in use;
* `Index.reflects_history` : an index reflects the latest corpus, whatever came before it.
-/

namespace Retrieval

/-! ## Updates -/

/-- What may happen to an index. -/
inductive Index.Update where
  | corpus (documents : List (String × String))
  | champions (r : Nat)
deriving Repr, DecidableEq

/-- The corpus of an update that has one. -/
def Index.Update.corpus? : Index.Update → Option (List (String × String))
  | .corpus documents => some documents
  | .champions _ => none

namespace Index

def update (index : Index) : Update → Index
  | .corpus documents => index.indexCorpus documents
  | .champions r => index.updateChampions r

def history (t : Tokenizer) (w : Weighting) (updates : List Update) : Index :=
  updates.foldl update (new t w)

/-- The corpus that was indexed last; nothing if there was none. -/
def latest (updates : List Update) : List (String × String) :=
  (updates.reverse.findSome? Update.corpus?).getD []

theorem history_append (t : Tokenizer) (w : Weighting) (updates : List Update) (u : Update) :
    history t w (updates ++ [u]) = (history t w updates).update u := by
  rw [history, List.foldl_append]
  rfl

theorem latest_append_corpus (updates : List Update) (documents : List (String × String)) :
    latest (updates ++ [.corpus documents]) = documents := by
  rw [latest, List.reverse_append]
  rfl

theorem latest_append_champions (updates : List Update) (r : Nat) :
    latest (updates ++ [.champions r]) = latest updates := by
  rw [latest, List.reverse_append]
  rfl

/-! ## Texts -/

/-- The last text that a corpus gives for an address. -/
def lastText? (corpus : List (String × String)) (url : String) : Option String := corpus.reverse.lookup url

/-- The last text that a corpus gives for the address of a document. -/
def textOf? (v : Vocabulary) (corpus : List (String × String)) (doc : DocId) : Option String :=
  (v.url? doc).bind (lastText? corpus)

theorem lastText?_append (corpus : List (String × String)) (url text u : String) :
    lastText? (corpus ++ [(url, text)]) u = if u = url then some text else lastText? corpus u := by
  rw [lastText?, List.reverse_append, List.reverse_singleton, List.singleton_append, List.lookup_cons]
  split
  · next h => rw [if_pos (by simpa using h)]
  · next h => rw [if_neg (by simpa using h), lastText?]

theorem isSome_lastText?_iff {corpus : List (String × String)} {url : String} :
    (lastText? corpus url).isSome ↔ url ∈ corpus.map Prod.fst := by
  rw [lastText?, List.lookup_isSome_iff, List.mem_map]
  simp only [List.mem_reverse, beq_iff_eq, eq_comm (a := url)]

theorem textOf?_of_url {v : Vocabulary} {corpus : List (String × String)} {doc : DocId} {url : String}
    (h : v.url? doc = some url) : textOf? v corpus doc = lastText? corpus url := by
  rw [textOf?, h, Option.bind_some]

theorem isSome_textOf?_iff {v : Vocabulary} {corpus : List (String × String)} {doc : DocId} :
    (textOf? v corpus doc).isSome ↔ ∃ url ∈ corpus.map Prod.fst, v.url? doc = some url := by
  constructor
  · intro h
    obtain ⟨text, htext⟩ := Option.isSome_iff_exists.1 h
    obtain ⟨url, hurl, hlast⟩ := Option.bind_eq_some_iff.1 htext
    exact ⟨url, isSome_lastText?_iff.1 (by rw [hlast]; rfl), hurl⟩
  · rintro ⟨url, hmem, hurl⟩
    rw [textOf?_of_url hurl]
    exact isSome_lastText?_iff.2 hmem

/-- Taking in a document changes the text of its address and of no other. -/
theorem textOf?_add (v : Vocabulary) (corpus : List (String × String)) (url text : String) (doc : DocId) :
    textOf? (v.add url).1 (corpus ++ [(url, text)]) doc =
      if doc = (v.add url).2 then some text else textOf? v corpus doc := by
  rw [textOf?]
  split
  · next h => rw [h, v.url?_add_self url, Option.bind_some, lastText?_append, if_pos rfl]
  · next h =>
    rw [Vocabulary.url?_add_of_ne h, textOf?]
    refine Option.bind_congr fun u hu => ?_
    rw [lastText?_append, if_neg]
    rintro rfl
    -- an address that is known already has the id of the document
    exact h (Vocabulary.url?_injective ((Vocabulary.url?_add_of_ne h).trans hu) (v.url?_add_self u))

/-! ## Building -/

/-- Counted documents of a corpus: those documents whose address it lists, with its last text for that address. -/
def Counted (t : Tokenizer) (v : Vocabulary) (corpus : List (String × String))
    (documents : Std.TreeMap DocId TermCounts) : Prop :=
  ∀ doc, documents[doc]? = (textOf? v corpus doc).map fun text => termCounts (t.tokenize text)

theorem Counted.empty (t : Tokenizer) (v : Vocabulary) : Counted t v [] ∅ := by
  intro doc
  rw [textOf?, Std.TreeMap.getElem?_emptyc]
  cases v.url? doc <;> rfl

theorem Counted.gatherStep {t : Tokenizer} {state : Vocabulary × Std.TreeMap DocId TermCounts}
    {corpus : List (String × String)} (h : Counted t state.1 corpus state.2) (document : String × String) :
    Counted t (gatherStep t state document).1 (corpus ++ [document]) (gatherStep t state document).2 := by
  intro doc
  rw [Index.gatherStep, getElem?_insert_ite, textOf?_add]
  split
  · rw [Option.map_some]
  · rw [h doc]

theorem counted_gather (index : Index) (corpus : List (String × String)) :
    Counted index.tokenizer (index.gather corpus).1 corpus (index.gather corpus).2 := by
  induction corpus using List.reverseRecOn with
  | nil => exact Counted.empty _ _
  | append_singleton corpus document ih =>
    rw [gather, List.foldl_append]
    exact ih.gatherStep document

/-- The postings of an index are those of a corpus, over the documents that the index knows. -/
def Reflects (index : Index) (corpus : List (String × String)) : Prop :=
  ∃ documents, index.store.postings = .ofDocuments documents ∧
    Counted index.tokenizer index.vocabulary corpus documents

theorem reflects_indexCorpus (index : Index) (corpus : List (String × String)) :
    (index.indexCorpus corpus).Reflects corpus := ⟨_, rfl, counted_gather index corpus⟩

theorem tokenizer_history (t : Tokenizer) (w : Weighting) (updates : List Update) :
    (history t w updates).tokenizer = t := by
  induction updates using List.reverseRecOn with
  | nil => rfl
  | append_singleton updates u ih =>
    rw [history_append]
    cases u <;> exact ih

theorem weighting_history (t : Tokenizer) (w : Weighting) (updates : List Update) :
    (history t w updates).store.weighting = w := by
  induction updates using List.reverseRecOn with
  | nil => rfl
  | append_singleton updates u ih =>
    rw [history_append]
    cases u <;> exact ih

/-- The store counts all documents in use, also those of earlier corpora. -/
theorem documentCount_history (t : Tokenizer) (w : Weighting) (updates : List Update) :
    (history t w updates).store.documentCount = (history t w updates).vocabulary.size := by
  induction updates using List.reverseRecOn with
  | nil => rfl
  | append_singleton updates u ih =>
    rw [history_append]
    cases u with
    | corpus documents => rfl
    | champions r => exact ih

/-- **An index reflects the latest corpus.** -/
theorem reflects_history (t : Tokenizer) (w : Weighting) (updates : List Update) :
    (history t w updates).Reflects (latest updates) := by
  induction updates using List.reverseRecOn with
  | nil => exact ⟨∅, rfl, Counted.empty _ _⟩
  | append_singleton updates u ih =>
    rw [history_append]
    cases u with
    | corpus documents =>
      rw [latest_append_corpus]
      exact reflects_indexCorpus _ documents
    | champions r =>
      rw [latest_append_champions]
      exact ih

/-! ## Documents of a term -/

theorem Reflects.mem_docsWith_iff {index : Index} {corpus : List (String × String)} (h : index.Reflects corpus)
    {term : String} {doc : DocId} :
    doc ∈ index.store.docsWith term ↔
      ∃ text, textOf? index.vocabulary corpus doc = some text ∧ term ∈ index.tokenizer.tokenize text := by
  obtain ⟨documents, hpostings, hcounted⟩ := h
  rw [Store.docsWith, Store.postingsOf, hpostings, Postings.mem_docs_ofDocuments]
  constructor
  · rintro ⟨counts, hdoc, hterm⟩
    rw [hcounted doc] at hdoc
    obtain ⟨text, htext, rfl⟩ := Option.map_eq_some_iff.1 hdoc
    exact ⟨text, htext, termCounts_isSome_iff.1 hterm⟩
  · rintro ⟨text, htext, hterm⟩
    refine ⟨_, ?_, termCounts_isSome_iff.2 hterm⟩
    rw [hcounted doc, htext, Option.map_some]

end Index

end Retrieval
