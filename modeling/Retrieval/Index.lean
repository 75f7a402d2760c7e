import Retrieval.Index.Store
import Retrieval.Index.Vocabulary
import Retrieval.Tokenizer

/-!
# The index

A vocabulary of documents and the postings built over it.

* `Index.gather` : ids and counted terms of a corpus;
* `Index.indexCorpus` : the index of a new corpus, in which known documents keep their ids;
* `Index.updateChampions` : the index with champion lists of its present postings.
-/

namespace Retrieval

/-- A vocabulary, the postings over it and the tokenizer that made their terms. -/
structure Index where
  vocabulary : Vocabulary := ∅
  store : Store := {}
  tokenizer : Tokenizer := {}

namespace Index

def new (tokenizer : Tokenizer) (weighting : Weighting) : Index :=
  { tokenizer, store := { weighting } }

/-- Takes in one document: its address gets an id, and its text is the text of that id from now on. -/
def gatherStep (t : Tokenizer) (state : Vocabulary × Std.TreeMap DocId TermCounts)
    (document : String × String) : Vocabulary × Std.TreeMap DocId TermCounts :=
  let (v, id) := state.1.add document.1
  (v, state.2.insert id (termCounts (t.tokenize document.2)))

/-- The vocabulary after a corpus of addresses and texts, and the counted terms of its documents. -/
def gather (index : Index) (corpus : List (String × String)) :
    Vocabulary × Std.TreeMap DocId TermCounts :=
  corpus.foldl (gatherStep index.tokenizer) (index.vocabulary, ∅)

/-- Indexes a corpus of addresses and texts in place of the one before. An address that is listed twice
keeps its first id and its last text; documents of earlier corpora stay in the vocabulary. -/
def indexCorpus (index : Index) (corpus : List (String × String)) : Index :=
  let (vocabulary, documents) := index.gather corpus
  { index with vocabulary, store := index.store.replace documents vocabulary.size }

/-- How many champions a list has if nothing else is asked for. -/
def defaultChampions : Nat := 20

/-- Rebuilds the champion lists with at most `r` documents a term. -/
def updateChampions (index : Index) (r : Nat) : Index :=
  { index with store := index.store.updateChampions r }

end Index

end Retrieval
