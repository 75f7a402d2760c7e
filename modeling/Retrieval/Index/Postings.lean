import Std.Data.TreeMap
import Retrieval.Index.DocSet

/-!
# Postings

For every term the documents that contain it, in ascending order, with the number of occurrences.

* `Posting` : a document and a frequency;
* `termCounts` : how often each term occurs in a list of terms;
* `Postings.ofDocuments` : the postings of a collection of counted documents.
-/

namespace Retrieval

/-- A document and how often a term occurs in it. -/
structure Posting where
  doc : DocId
  frequency : Nat
deriving Repr, DecidableEq

abbrev TermCounts := Std.TreeMap String Nat

def termCounts (terms : List String) : TermCounts :=
  terms.foldl (fun counts term => counts.alter term fun n => some (n.getD 0 + 1)) ∅

/-- The list of postings of every term that occurs. -/
abbrev Postings := Std.TreeMap String (List Posting)

namespace Postings

def addDocument (doc : DocId) (counts : TermCounts) (p : Postings) : Postings :=
  counts.foldl (fun p term n => p.alter term fun list => some (⟨doc, n⟩ :: list.getD [])) p

/-- The postings of a collection, whose documents are taken from the last id down to the first. -/
def ofDocuments (documents : Std.TreeMap DocId TermCounts) : Postings :=
  documents.toList.foldr (fun (doc, counts) p => addDocument doc counts p) ∅

end Postings

/-- The frequency that a list of postings gives for a document. -/
def frequencyIn? (list : List Posting) (doc : DocId) : Option Nat :=
  (list.find? (·.doc = doc)).map (·.frequency)

end Retrieval
