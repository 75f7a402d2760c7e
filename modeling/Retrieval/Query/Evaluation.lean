import Retrieval.Index
import Retrieval.Query.Formula

/-!
# Evaluation of queries

* `Index.lookup` : the documents that contain every term of a word;
* `Formula.eval` : the documents for which a formula holds;
* `Index.evaluate` : the documents that match a query.
-/

namespace Retrieval

def Store.docSet (s : Store) (term : String) : DocSet :=
  DocSet.ofList (s.docsWith term)

namespace Index

/-- Keeps the documents that contain all of the terms, and stops when none is left. -/
def narrow (index : Index) (found : DocSet) : List String → DocSet
  | [] => found
  | term :: terms =>
    if found.isEmpty then found else index.narrow (found ∩ index.store.docSet term) terms

/-- The documents that contain every term of a word; a word without a term matches none. -/
def lookup (index : Index) (word : String) : DocSet :=
  match index.tokenizer.tokenize word with
  | [] => ∅
  | term :: terms => index.narrow (index.store.docSet term) terms

end Index

namespace Query

/-- The documents for which a formula holds; negation is relative to all known documents. -/
def Formula.eval (index : Index) : Formula → DocSet
  | .word text => index.lookup text
  | .and left right => left.eval index ∩ right.eval index
  | .or left right => left.eval index ∪ right.eval index
  | .not inner => index.vocabulary.docs \ inner.eval index

end Query

/-- The documents that match a query, or why it is none. -/
def Index.evaluate (index : Index) (query : String) : Except Query.QueryError DocSet :=
  (Query.Formula.parse query).map (·.eval index)

end Retrieval
