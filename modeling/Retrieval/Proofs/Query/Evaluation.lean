import Retrieval.Proofs.Query.Acceptance
import Retrieval.Query.Evaluation

/-!
# What a query is answered with

* `Index.reading` : words mean the documents that contain them, operators intersection and union, and `NOT` the other
  documents of the vocabulary;
* `Index.evaluate_accepts_grammar` : a query is answered just if the grammar derives it with no more levels than may be
  open, and then with what its one derivation means;
* `Index.mem_lookup_iff` : the documents of a word have all of its terms.
-/

namespace Retrieval

open Query Query.Grammar

namespace Index

/-- What words and operators mean in an index. -/
def reading (index : Index) : Reading DocSet where
  word := index.lookup
  join
    | .and, left, right => left ∩ right
    | .or, left, right => left ∪ right
  not found := index.vocabulary.docs \ found

theorem eval_read (index : Index) (e : Expr) : (e.read Formula.reading).eval index = e.read index.reading := by
  have h : Related Formula.reading index.reading fun f found => f.eval index = found := by
    refine ⟨fun _ => rfl, ?_, ?_⟩
    · rintro op f _ g _ rfl rfl
      cases op <;> rfl
    · rintro f _ rfl
      rfl
  exact e.read_related h

theorem evaluate_eq_ok_iff_exists {index : Index} {query : String} {found : DocSet} :
    index.evaluate query = .ok found ↔
      ∃ e : Expr, e.tokens = Token.lex query ∧ e.depth ≤ maxDepth ∧ e.read index.reading = found := by
  have hmap : index.evaluate query = .ok found ↔ ∃ f, Formula.parse query = .ok f ∧ f.eval index = found := by
    rw [evaluate]
    cases Formula.parse query <;> simp [Except.map]
  rw [hmap]
  constructor
  · rintro ⟨f, hparse, rfl⟩
    obtain ⟨e, htokens, hdepth, rfl⟩ := Formula.ofTokens_eq_ok_iff.1 hparse
    exact ⟨e, htokens, hdepth, (eval_read index e).symm⟩
  · rintro ⟨e, htokens, hdepth, rfl⟩
    exact ⟨_, Formula.ofTokens_eq_ok_iff.2 ⟨e, htokens, hdepth, rfl⟩, eval_read index e⟩

/-- **Evaluation accepts the grammar and computes its meaning.** The derivation is the only one of the tokens, so that
the answer is its meaning. -/
theorem evaluate_accepts_grammar (index : Index) (query : String) (found : DocSet) :
    (index.evaluate query = .ok found ↔
      ∃ e : Expr, e.tokens = Token.lex query ∧ e.depth ≤ maxDepth ∧ e.read index.reading = found) ∧
    {e : Expr | e.tokens = Token.lex query}.Subsingleton :=
  ⟨evaluate_eq_ok_iff_exists, subsingleton_tokens _⟩

/-! ## Words -/

theorem mem_narrow_iff {index : Index} {found : DocSet} {terms : List String} {doc : DocId} :
    doc ∈ index.narrow found terms ↔ doc ∈ found ∧ ∀ term ∈ terms, doc ∈ index.store.docsWith term := by
  induction terms generalizing found with
  | nil => simp [narrow]
  | cons term terms ih =>
    rw [narrow]
    split
    · next h =>
      -- nothing is left, and no term can bring a document back
      have hnone : doc ∉ found := by
        rw [DocSet.mem_iff, List.isEmpty_iff.1 h]
        exact List.not_mem_nil
      exact ⟨fun hdoc => absurd hdoc hnone, fun hdoc => absurd hdoc.1 hnone⟩
    · rw [ih, DocSet.mem_inter, Store.docSet, DocSet.mem_ofList, List.forall_mem_cons, and_assoc]

theorem mem_lookup_iff {index : Index} {word : String} {doc : DocId} :
    doc ∈ index.lookup word ↔ index.tokenizer.tokenize word ≠ [] ∧
      ∀ term ∈ index.tokenizer.tokenize word, doc ∈ index.store.docsWith term := by
  rw [lookup]
  split
  · next h => simp [h]
  · next term terms h =>
    rw [h, mem_narrow_iff, Store.docSet, DocSet.mem_ofList, List.forall_mem_cons]
    exact ⟨fun hdoc => ⟨List.cons_ne_nil _ _, hdoc⟩, fun hdoc => hdoc.2⟩

end Index

end Retrieval
