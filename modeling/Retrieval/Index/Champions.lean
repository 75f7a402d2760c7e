import Retrieval.Index.Postings

/-!
# Champion lists

For every term the documents that score best for it. How documents are scored is left open: a score is anything that
can be compared.

* `Champions` : the list of every term that occurs;
* `Champions.top` : the best documents of a list of postings;
* `Champions.ofPostings` : the best documents of every list.
-/

namespace Retrieval

/-- For every term the documents that score best for it, the best first. -/
abbrev Champions := Std.TreeMap String (List DocId)

namespace Champions

variable {Score : Type} [Ord Score]

/-- Whether a scored document ranks before another: a greater score, or an equal one and an id that is not greater. -/
def ranksBefore (a b : DocId × Score) : Bool :=
  match compare a.2 b.2 with
  | .gt => true
  | .eq => a.1 ≤ b.1
  | .lt => false

def scored (score : Nat → Score) (list : List Posting) : List (DocId × Score) :=
  list.map fun p => (p.doc, score p.frequency)

/-- The `r` documents of a list of postings with the greatest scores, the best first. -/
def top (score : Nat → Score) (r : Nat) (list : List Posting) : List DocId :=
  (((scored score list).mergeSort ranksBefore).take r).map (·.1)

/-- The best documents of every term. A score depends on the number of documents with the term and on how often it
occurs. -/
def ofPostings (score : (df frequency : Nat) → Score) (r : Nat) (p : Postings) : Champions :=
  p.map fun _ list => top (score list.length) r list

end Champions

end Retrieval
