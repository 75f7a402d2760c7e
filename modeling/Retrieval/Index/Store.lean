import Std.Data.TreeMap
import Retrieval.Index.Champions
import Retrieval.Index.Weight
import Retrieval.Text.Quoted

/-!
# The store of postings and what is derived from them

* `Store` : postings, the number of documents, cached lengths and champion lists;
* `Store.frequency`, `Store.idf`, `Store.weight`, `Store.length` : the scores that a store answers;
* `Store.replace` : new postings, which leave the champion lists as they are and mark them stale;
* `Store.rankChampions`, `Store.updateChampions` : the champion lists of the present postings.
-/

namespace Retrieval

inductive ScoringError where
  | unseenTerm (term : String)
  | missingLength (doc : DocId)
deriving Repr, DecidableEq

def ScoringError.message : ScoringError → String
  | .unseenTerm term => "term " ++ Text.quote term ++ " does not occur in any document"
  | .missingLength doc => "no document length cached for document " ++ toString doc

/-- Postings and the caches derived from them. `documentCount` is the number of documents that rarity
refers to. -/
structure Store where
  postings : Postings := ∅
  documentCount : Nat := 0
  lengths : Std.TreeMap DocId Float := ∅
  champions : Champions := ∅
  championsStale : Bool := false
  weighting : Weighting := .product

namespace Store

/-! ## Scores -/

def termCount (s : Store) : Nat := s.postings.size

def contains (s : Store) (term : String) : Bool := s.postings.contains term

def postingsOf (s : Store) (term : String) : List Posting := s.postings.getD term []

def frequency (s : Store) (term : String) (doc : DocId) : Nat :=
  (frequencyIn? (s.postingsOf term) doc).getD 0

def logFrequency (s : Store) (term : String) (doc : DocId) : Float :=
  Weight.logFrequency (s.frequency term doc)

def documentFrequency (s : Store) (term : String) : Nat := (s.postingsOf term).length

/-- The rarity of a term, which is undefined for a term that does not occur. -/
def idf (s : Store) (term : String) : Except ScoringError Float :=
  match s.documentFrequency term with
  | 0 => .error (.unseenTerm term)
  | df => .ok (Weight.idf s.documentCount df)

/-- The weight of a posting in a list of `df` postings. -/
def combine {α : Type} [Add α] [Mul α] [Div α] [Scale α] (s : Store) (df frequency : Nat) : α :=
  s.weighting.combine frequency (Weight.idf s.documentCount df)

def weight (s : Store) (term : String) (doc : DocId) : Float :=
  let list := s.postingsOf term
  match frequencyIn? list doc with
  | some n => s.combine list.length n
  | none => 0.0

def docsWith (s : Store) (term : String) : List DocId := (s.postingsOf term).map (·.doc)

def length (s : Store) (doc : DocId) : Except ScoringError Float :=
  match s.lengths[doc]? with
  | some length => .ok length
  | none => .error (.missingLength doc)

/-! ## Replacing the postings -/

def rarities (s : Store) : Std.TreeMap String Float :=
  s.postings.map fun _ list => Weight.idf s.documentCount list.length

/-- The length of a document: the norm of the weights of its terms, which are taken in ascending
order. -/
def lengthOf (weighting : Weighting) (rarities : Std.TreeMap String Float) (counts : TermCounts) :
    Float :=
  Weight.norm (counts.toList.map fun (term, n) => weighting.combine n (rarities.getD term 0.0))

/-- The store with the postings of `documents`, of `documentCount` documents in all. Lengths are those of
the new postings; champion lists stay and become stale. -/
def replace (s : Store) (documents : Std.TreeMap DocId TermCounts) (documentCount : Nat) : Store :=
  let t := { s with postings := .ofDocuments documents, documentCount, championsStale := true }
  let rarities := t.rarities
  { t with lengths := documents.map fun _ counts => lengthOf s.weighting rarities counts }

/-! ## Champions -/

/-- The store with the champion lists of its postings, where `rank` puts the weights in order. -/
def rankChampions {α Score : Type} [Add α] [Mul α] [Div α] [Scale α] [Ord Score] (s : Store) (rank : α → Score)
    (r : Nat) : Store :=
  { s with
    champions := .ofPostings (fun df frequency => rank (s.combine df frequency)) r s.postings
    championsStale := false }

/-- The store with the champion lists of its postings, by floating-point weights. -/
def updateChampions (s : Store) (r : Nat) : Store := s.rankChampions Weight.rank r

/-- The champion list of a term, as of the last update. -/
def championsOf? (s : Store) (term : String) : Option (List DocId) := s.champions[term]?

end Store

end Retrieval
