import Retrieval.Proofs.Query.Lexing
import Retrieval.Proofs.Query.Scan

/-!
# Queries in parentheses

Texts of queries can be put together. A parenthesis or a blank ends the word before it, so that the tokens of every part
stay as they are, and a part between parentheses is derived as it was on its own, one level deeper.

* `Query.inParens` : a text in parentheses;
* `Query.NestsWithin` : a query opens no more than so many levels at once;
* `Index.Means` : a query within so many levels means a set of documents; `Means.group`, `Means.join`, `Means.not` and
  `Means.andNot` put queries together, and say how many levels are needed then;
* `Index.evaluate_composes` : answers to the parts make the answers to queries built from them.
-/

namespace Retrieval

namespace Query

open Text Grammar

/-! ## Tokens of texts that are put together -/

/-- A text in parentheses. -/
def inParens (p : String) : String := "(" ++ p ++ ")"

theorem lex_inParens_append (p rest : String) :
    Token.lex (inParens p ++ rest) = .left :: (Token.lex p ++ .right :: Token.lex rest) := by
  have htext : (inParens p ++ rest).toList = '(' :: (p.toList ++ ')' :: rest.toList) := by simp [inParens]
  rw [Token.lex, htext, Token.lexFrom_of_endsWord (.inr (.inl rfl)), Token.lexFrom_append (.inr (.inr rfl))]
  rfl

theorem lex_inParens (p : String) : Token.lex (inParens p) = .left :: (Token.lex p ++ [.right]) := by
  have h := lex_inParens_append p ""
  rwa [String.append_empty] at h

def Grammar.Join.text : Join → String
  | .and => " AND "
  | .or => " OR "

theorem lex_join_append (op : Join) (s : String) : Token.lex (op.text ++ s) = op.token :: Token.lex s := by
  rw [Token.lex, String.toList_append]
  cases op <;> rfl

theorem lex_not_append (s : String) : Token.lex ("NOT " ++ s) = .not :: Token.lex s := by
  rw [Token.lex, String.toList_append]
  rfl

/-- The grammar derives a query with at most `levels` levels open at once. -/
def NestsWithin (levels : Nat) (query : String) : Prop := ∃ e : Expr, e.tokens = Token.lex query ∧ e.depth ≤ levels

end Query

/-! ## Meanings of queries that are put together -/

namespace Index

open Query Query.Grammar

/-- The grammar derives a query with at most `levels` levels open at once, and the query means the documents `found`. -/
def Means (index : Index) (levels : Nat) (query : String) (found : DocSet) : Prop :=
  ∃ e : Expr, e.tokens = Token.lex query ∧ e.depth ≤ levels ∧ e.read index.reading = found

namespace Means

variable {index : Index} {levels : Nat} {p q : String} {a b : DocSet}

theorem evaluate_eq (h : index.Means levels p a) (hlevels : levels ≤ maxDepth) : index.evaluate p = .ok a := by
  obtain ⟨e, htokens, hdepth, hread⟩ := h
  exact evaluate_eq_ok_iff_exists.2 ⟨e, htokens, hdepth.trans hlevels, hread⟩

/-- What a query is answered with is what it means, since it has one derivation only. -/
theorem of_evaluate (heval : index.evaluate p = .ok a) (hnests : NestsWithin levels p) : index.Means levels p a := by
  obtain ⟨e, htokens, -, hread⟩ := evaluate_eq_ok_iff_exists.1 heval
  obtain ⟨f, htokens', hdepth⟩ := hnests
  obtain rfl : f = e := subsingleton_tokens _ htokens' htokens
  exact ⟨f, htokens, hdepth, hread⟩

/-- Parentheses take a level. -/
theorem group (h : index.Means levels p a) : index.Means (levels + 1) (inParens p) a := by
  obtain ⟨e, htokens, hdepth, hread⟩ := h
  refine ⟨.plain (.group e) .done, ?_, ?_, hread⟩
  · rw [lex_inParens, ← htokens]
    simp [Expr.tokens, Atom.tokens, Tail.tokens]
  · simp only [Expr.depth, Atom.depth, Tail.depth]
    omega

/-- Parts on both sides of an operator share their levels. -/
theorem join (op : Join) (hp : index.Means levels p a) (hq : index.Means levels q b) :
    index.Means (levels + 1) (inParens p ++ op.text ++ inParens q) (index.reading.join op a b) := by
  obtain ⟨e, htokens, hdepth, rfl⟩ := hp
  obtain ⟨f, htokens', hdepth', rfl⟩ := hq
  refine ⟨.plain (.group e) (.atom op (.group f) .done), ?_, ?_, rfl⟩
  · rw [String.append_assoc, lex_inParens_append, lex_join_append, lex_inParens, ← htokens, ← htokens']
    simp [Expr.tokens, Atom.tokens, Tail.tokens]
  · simp only [Expr.depth, Atom.depth, Tail.depth]
    omega

/-- A `NOT` at the beginning takes no level. -/
theorem not (h : index.Means levels p a) :
    index.Means (levels + 1) ("NOT " ++ inParens p) (index.vocabulary.docs \ a) := by
  obtain ⟨e, htokens, hdepth, rfl⟩ := h
  refine ⟨.negated (.first (.group e) .done), ?_, ?_, rfl⟩
  · rw [lex_not_append, lex_inParens, ← htokens]
    simp [Expr.tokens, Negation.body, Atom.tokens, Tail.tokens]
  · simp only [Expr.depth, Negation.depth, Atom.depth, Tail.depth]
    omega

/-- A `NOT` behind an operator takes a level. -/
theorem andNot (hp : index.Means levels p a) (hq : index.Means levels q b) :
    index.Means (levels + 2) (inParens p ++ " AND NOT " ++ inParens q) (a ∩ (index.vocabulary.docs \ b)) := by
  obtain ⟨e, htokens, hdepth, rfl⟩ := hp
  obtain ⟨f, htokens', hdepth', rfl⟩ := hq
  have htext : inParens p ++ " AND NOT " ++ inParens q = inParens p ++ (Join.and.text ++ ("NOT " ++ inParens q)) := by
    have hbehind : " AND NOT " = Join.and.text ++ "NOT " := rfl
    rw [hbehind, String.append_assoc, String.append_assoc]
  refine ⟨.plain (.group e) (.negation .and (.first (.group f) .done)), ?_, ?_, rfl⟩
  · rw [htext, lex_inParens_append, lex_join_append, lex_not_append, lex_inParens, ← htokens, ← htokens']
    simp [Expr.tokens, Negation.body, Atom.tokens, Tail.tokens]
  · simp only [Expr.depth, Negation.depth, Atom.depth, Tail.depth]
    omega

end Means

/-- An answer has only documents in use, so that it can be subtracted by a negation. -/
theorem Reflects.inter_docs_sdiff {index : Index} {corpus : List (String × String)} (h : index.Reflects corpus)
    {query : String} {a : DocSet} (heval : index.evaluate query = .ok a) (b : DocSet) :
    a ∩ (index.vocabulary.docs \ b) = a \ b := by
  obtain ⟨e, -, -, rfl⟩ := evaluate_eq_ok_iff_exists.1 heval
  ext doc
  have hused : doc ∈ e.read index.reading → doc ∈ index.vocabulary.docs := by
    intro hdoc
    exact DocSet.mem_below.2 ((h.mem_read_iff e doc).1 hdoc).1
  rw [DocSet.mem_inter, DocSet.mem_sdiff, DocSet.mem_sdiff]
  tauto

/-- **Queries compose through parentheses.** For every history of the index and all queries that are answered and open
at most 254 levels at once: parentheses around a query change nothing; joining queries in parentheses by `AND` and `OR`
intersects and unites their answers; `NOT` before a query in parentheses leaves the other documents in use; and
`AND NOT` subtracts one answer from the other. -/
theorem evaluate_composes (t : Tokenizer) (w : Weighting) (updates : List Update) {p q : String} {a b : DocSet}
    (hp : (history t w updates).evaluate p = .ok a) (hq : (history t w updates).evaluate q = .ok b)
    (hpnests : NestsWithin 254 p) (hqnests : NestsWithin 254 q) :
    let index := history t w updates
    index.evaluate (inParens p) = .ok a ∧
    index.evaluate (inParens p ++ " AND " ++ inParens q) = .ok (a ∩ b) ∧
    index.evaluate (inParens p ++ " OR " ++ inParens q) = .ok (a ∪ b) ∧
    index.evaluate ("NOT " ++ inParens p) = .ok (index.vocabulary.docs \ a) ∧
    index.evaluate (inParens p ++ " AND NOT " ++ inParens q) = .ok (a \ b) := by
  intro index
  have hpmeans : index.Means 254 p a := Means.of_evaluate hp hpnests
  have hqmeans : index.Means 254 q b := Means.of_evaluate hq hqnests
  have hsdiff : a ∩ (index.vocabulary.docs \ b) = a \ b := (reflects_history t w updates).inter_docs_sdiff hp b
  refine ⟨hpmeans.group.evaluate_eq (by decide), (hpmeans.join .and hqmeans).evaluate_eq (by decide),
    (hpmeans.join .or hqmeans).evaluate_eq (by decide), hpmeans.not.evaluate_eq (by decide), ?_⟩
  rw [← hsdiff]
  exact (hpmeans.andNot hqmeans).evaluate_eq (by decide)

def exampleIndex : Index := history {} .product [.corpus [("u", "a"), ("v", "")]]

/-- A query of which every document is true. It has a `NOT` behind an operator. -/
def exampleEither : String := "a OR NOT a"

/-- A query that begins with a `NOT` and ends with a blank. -/
def exampleNot : String := "NOT a "

theorem docs_exampleIndex : exampleIndex.vocabulary.docs = ⟨[0, 1], by decide⟩ := by decide +kernel

theorem lookup_exampleIndex : exampleIndex.lookup "a" = ⟨[0], by decide⟩ := by decide +kernel

theorem means_exampleEither : exampleIndex.Means 254 exampleEither ⟨[0, 1], by decide⟩ := by
  refine ⟨.plain (.word "a") (.negation .or (.first (.word "a") .done)), by decide +kernel, by decide, ?_⟩
  simp only [Expr.read, Atom.read, Tail.read, Negation.read, reading]
  rw [docs_exampleIndex, lookup_exampleIndex]
  decide +kernel

theorem means_exampleNot : exampleIndex.Means 254 exampleNot ⟨[1], by decide⟩ := by
  refine ⟨.negated (.first (.word "a") .done), by decide +kernel, by decide, ?_⟩
  simp only [Expr.read, Atom.read, Tail.read, Negation.read, reading]
  rw [docs_exampleIndex, lookup_exampleIndex]
  decide +kernel

theorem evaluate_composes_negations :
    exampleIndex.evaluate exampleEither = .ok ⟨[0, 1], by decide⟩ ∧ NestsWithin 254 exampleEither ∧
    exampleIndex.evaluate exampleNot = .ok ⟨[1], by decide⟩ ∧ NestsWithin 254 exampleNot ∧
    exampleIndex.evaluate (inParens exampleEither ++ " AND NOT " ++ inParens exampleNot) = .ok ⟨[0], by decide⟩ := by
  have hp := means_exampleEither.evaluate_eq (by decide)
  have hq := means_exampleNot.evaluate_eq (by decide)
  obtain ⟨e, htokens, hdepth, -⟩ := means_exampleEither
  obtain ⟨f, htokens', hdepth', -⟩ := means_exampleNot
  have hpnests : NestsWithin 254 exampleEither := ⟨e, htokens, hdepth⟩
  have hqnests : NestsWithin 254 exampleNot := ⟨f, htokens', hdepth'⟩
  obtain ⟨-, -, -, -, hsdiff⟩ := evaluate_composes _ _ _ hp hq hpnests hqnests
  have hids : (⟨[0, 1], by decide⟩ : DocSet) \ ⟨[1], by decide⟩ = ⟨[0], by decide⟩ := by decide +kernel
  rw [hids] at hsdiff
  exact ⟨hp, hpnests, hq, hqnests, hsdiff⟩

end Index

end Retrieval
