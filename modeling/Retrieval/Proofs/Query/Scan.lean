import Retrieval.Proofs.Index.History
import Retrieval.Proofs.Query.Evaluation

/-!
# Answers by scanning the documents

An index answers a query as if the texts of all documents were read one by one. What counts is the latest corpus: a
document that only earlier corpora list has no text, so that every word is false of it.

* `Query.holds`, `Query.truth` : whether a word is true of a text, and truth of formulas;
* `Index.Reflects.mem_read_iff` : the documents that a derivation means are those of which it is true;
* `Index.evaluate_scans_documents` : answers are those of the scan, for every history of the index.
-/

namespace Retrieval

open Query Query.Grammar

namespace Query

/-- Whether a word is true of a document, which may have no text: the word has terms, and the text has all of them. -/
def holds (t : Tokenizer) (text? : Option String) (word : String) : Bool :=
  match text? with
  | none => false
  | some text => !(t.tokenize word).isEmpty && (t.tokenize word).all (t.tokenize text).contains

/-- Truth of words and formulas at a document. -/
def truth (t : Tokenizer) (text? : Option String) : Reading Bool where
  word := holds t text?
  join
    | .and, left, right => left && right
    | .or, left, right => left || right
  not value := !value

theorem holds_iff {t : Tokenizer} {text? : Option String} {word : String} :
    holds t text? word = true ↔ t.tokenize word ≠ [] ∧
      ∀ term ∈ t.tokenize word, ∃ text, text? = some text ∧ term ∈ t.tokenize text := by
  cases text? with
  | none =>
    simp only [holds, Bool.false_eq_true, reduceCtorEq, false_and, exists_false, imp_false, false_iff, not_and,
      not_forall]
    intro h
    obtain ⟨term, hterm⟩ := List.exists_mem_of_ne_nil _ h
    exact ⟨term, not_not_intro hterm⟩
  | some text => simp [holds]

end Query

namespace Index

theorem Reflects.mem_lookup_iff {index : Index} {corpus : List (String × String)} (h : index.Reflects corpus)
    {word : String} {doc : DocId} :
    doc ∈ index.lookup word ↔ holds index.tokenizer (textOf? index.vocabulary corpus doc) word = true := by
  rw [Index.mem_lookup_iff, holds_iff]
  refine and_congr_right fun _ => forall₂_congr fun term _ => ?_
  rw [h.mem_docsWith_iff]

theorem lt_size_of_holds {t : Tokenizer} {v : Vocabulary} {corpus : List (String × String)} {word : String}
    {doc : DocId} (h : holds t (textOf? v corpus doc) word = true) : doc < v.size := by
  rw [← Vocabulary.isSome_url?_iff, Option.isSome_iff_ne_none]
  intro hnone
  rw [textOf?, hnone] at h
  cases h

/-- **A derivation means the documents of which it is true.** The documents in use are carried along, because `NOT`
refers to them. -/
theorem Reflects.mem_read_iff {index : Index} {corpus : List (String × String)} (h : index.Reflects corpus)
    (e : Expr) (doc : DocId) :
    doc ∈ e.read index.reading ↔ doc < index.vocabulary.size ∧
      e.read (truth index.tokenizer (textOf? index.vocabulary corpus doc)) = true := by
  have hrelated : Related index.reading (truth index.tokenizer (textOf? index.vocabulary corpus doc))
      fun found value => doc ∈ found ↔ doc < index.vocabulary.size ∧ value = true := by
    refine ⟨?_, ?_, ?_⟩
    · intro word
      rw [reading, truth, h.mem_lookup_iff]
      exact ⟨fun hword => ⟨lt_size_of_holds hword, hword⟩, fun hword => hword.2⟩
    · intro op left x right y hleft hright
      cases op with
      | and =>
        rw [reading, truth, DocSet.mem_inter, hleft, hright, Bool.and_eq_true]
        exact and_and_left.symm
      | or =>
        rw [reading, truth, DocSet.mem_union, hleft, hright, Bool.or_eq_true]
        exact and_or_left.symm
    · intro found value hfound
      rw [reading, truth, DocSet.mem_sdiff, Vocabulary.docs, DocSet.mem_below, hfound, Bool.not_eq_true',
        ← Bool.not_eq_true]
      tauto
  exact e.read_related hrelated

/-- **Answers are those of a scan over the documents.** For every history of the index, a query is answered just if the
grammar derives it, and then with the documents in use at which its one derivation is true. -/
theorem evaluate_scans_documents (t : Tokenizer) (w : Weighting) (updates : List Update) (query : String)
    (found : DocSet) :
    ((history t w updates).evaluate query = .ok found ↔
      ∃ e : Expr, e.tokens = Token.lex query ∧ e.depth ≤ maxDepth ∧
        ∀ doc, doc ∈ found ↔ doc < (history t w updates).vocabulary.size ∧
          e.read (truth t (textOf? (history t w updates).vocabulary (latest updates) doc)) = true) ∧
    {e : Expr | e.tokens = Token.lex query}.Subsingleton := by
  refine ⟨?_, subsingleton_tokens _⟩
  have hread := (reflects_history t w updates).mem_read_iff
  rw [tokenizer_history] at hread
  rw [evaluate_eq_ok_iff_exists]
  constructor
  · rintro ⟨e, htokens, hdepth, rfl⟩
    exact ⟨e, htokens, hdepth, hread e⟩
  · rintro ⟨e, htokens, hdepth, hfound⟩
    refine ⟨e, htokens, hdepth, ?_⟩
    ext doc
    rw [hread, hfound]

end Index

end Retrieval
