import Retrieval.Proofs.Index.Order
import Retrieval.Proofs.Query.Lexing
import Retrieval.Proofs.Tokenizer

/-!
# Words find their documents

A document is indexed by the terms of its whole text, and a query asks for the terms of a word of its own. Text is
tokenized word by word, so that the terms of a word are among those of every text that has it.

* `Query.Formula.parse_word` : a query of one word;
* `Index.knows_history` : every address of the latest corpus is known;
* `Index.word_finds_document` : a word of a text finds the document.
-/

namespace Retrieval

open Text Query

/-! ## Queries of one word -/

theorem Query.Token.lex_word {word : String} (hne : word ≠ "") (hword : ∀ c ∈ word.toList, ¬ EndsWord c)
    (hoperator : word ∉ ["AND", "OR", "NOT"]) : lex word = [.word word] := by
  have hlist : word.toList ≠ [] := fun h => hne (String.toList_eq_nil_iff.1 h)
  simp only [List.mem_cons, List.not_mem_nil, or_false, not_or] at hoperator
  obtain ⟨hand, hor, hnot⟩ := hoperator
  rw [lex, lexFrom_of_run_ne_nil hlist hword, String.ofList_toList, ofWord, if_neg hand, if_neg hor, if_neg hnot]

namespace Index

open Query.Grammar

/-- A query of one word is answered with the documents that contain every term of the word. -/
theorem evaluate_word (index : Index) {word : String} (hlex : Token.lex word = [.word word]) :
    index.evaluate word = .ok (index.lookup word) :=
  evaluate_eq_ok_iff_exists.2 ⟨.plain (.word word) .done, hlex.symm, Nat.zero_le _, rfl⟩

/-! ## Documents of the latest corpus -/

theorem knows_history (t : Tokenizer) (w : Weighting) (updates : List Update) {url : String}
    (h : (lastText? (latest updates) url).isSome) : (history t w updates).vocabulary.Knows url := by
  induction updates using List.reverseRecOn with
  | nil => cases h
  | append_singleton updates u ih =>
    rw [history_append]
    cases u with
    | corpus documents =>
      rw [latest_append_corpus] at h
      exact knows_gather.2 (.inr h)
    | champions r =>
      rw [latest_append_champions] at h
      exact ih h

/-- A document is found by a word if its text has every term of the word. -/
theorem mem_lookup_history {t : Tokenizer} {w : Weighting} {updates : List Update} {doc : DocId}
    {url text word : String} (hurl : (history t w updates).vocabulary.url? doc = some url)
    (htext : lastText? (latest updates) url = some text) (hterms : t.tokenize word ≠ [])
    (hsubset : ∀ term ∈ t.tokenize word, term ∈ t.tokenize text) : doc ∈ (history t w updates).lookup word := by
  rw [(reflects_history t w updates).mem_lookup_iff, tokenizer_history, textOf?_of_url hurl, htext, holds_iff]
  exact ⟨hterms, fun term hterm => ⟨text, rfl, hsubset term hterm⟩⟩

/-- **Every word of a document finds the document.** The terms of a text are those of its words; so for every history of
an index, and every address of its latest corpus, a word of the last text of the address is answered with documents of
which this one is among. The word must be one that a query may have: no parenthesis in it, no operator, and with a
term. -/
theorem word_finds_document (t : Tokenizer) (w : Weighting) (updates : List Update) :
    (∀ text, t.tokenize text = (words text).flatMap t.tokenize) ∧
    ∀ url text word, lastText? (latest updates) url = some text → word ∈ words text →
      (∀ c ∈ word.toList, c ≠ '(' ∧ c ≠ ')') → word ∉ ["AND", "OR", "NOT"] → t.tokenize word ≠ [] →
      ∃ doc found, (history t w updates).vocabulary.id? url = some doc ∧
        (history t w updates).evaluate word = .ok found ∧ doc ∈ found := by
  refine ⟨t.tokenize_eq_flatMap_words, fun url text word htext hword hparens hoperator hterms => ?_⟩
  obtain ⟨doc, hurl⟩ := knows_history t w updates (by rw [htext]; rfl)
  have hne : word ≠ "" := by
    rintro rfl
    exact hterms (t.tokenize_eq_flatMap_words "")
  have hends : ∀ c ∈ word.toList, ¬ Token.EndsWord c := by
    obtain ⟨s, hs, rfl⟩ := List.mem_map.1 hword
    rw [String.toList_ofList] at hparens ⊢
    rintro c hc (hblank | hleft | hright)
    · exact not_isBlank_of_mem_wordLists hs c hc hblank
    · exact (hparens c hc).1 hleft
    · exact (hparens c hc).2 hright
  have hsubset : ∀ term ∈ t.tokenize word, term ∈ t.tokenize text := by
    intro term hterm
    rw [t.tokenize_eq_flatMap_words text]
    exact List.mem_flatMap.2 ⟨word, hword, hterm⟩
  exact ⟨doc, _, Vocabulary.id?_eq_some_iff.2 hurl, evaluate_word _ (Token.lex_word hne hends hoperator),
    mem_lookup_history hurl htext hterms hsubset⟩

/-- A history whose latest corpus lists an address twice. -/
def exampleRelisted : List Update :=
  [.corpus [("u", "b-c"), ("v", "b-c")], .champions 1, .corpus [("u", "b"), ("w", "c"), ("u", "Fast B-c (d)")]]

theorem word_finds_document_relisted :
    lastText? (latest exampleRelisted) "u" = some "Fast B-c (d)" ∧ "B-c" ∈ words "Fast B-c (d)" ∧
    (∀ c ∈ "B-c".toList, c ≠ '(' ∧ c ≠ ')') ∧ "B-c" ∉ ["AND", "OR", "NOT"] ∧
    ({ stem := true } : Tokenizer).tokenize "B-c" ≠ [] ∧
    ∃ doc found, (history { stem := true } .sum exampleRelisted).vocabulary.id? "u" = some doc ∧
      (history { stem := true } .sum exampleRelisted).evaluate "B-c" = .ok found ∧ doc ∈ found := by
  have htext : lastText? (latest exampleRelisted) "u" = some "Fast B-c (d)" := by decide
  have hword : "B-c" ∈ words "Fast B-c (d)" := by decide
  have hparens : ∀ c ∈ "B-c".toList, c ≠ '(' ∧ c ≠ ')' := by simp
  have hoperator : "B-c" ∉ ["AND", "OR", "NOT"] := by simp
  have hterms : ({ stem := true } : Tokenizer).tokenize "B-c" ≠ [] := by decide +kernel
  exact ⟨htext, hword, hparens, hoperator, hterms,
    (word_finds_document { stem := true } .sum exampleRelisted).2 "u" _ "B-c" htext hword hparens hoperator hterms⟩

end Index

end Retrieval
