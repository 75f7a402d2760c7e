import Retrieval.Hash.Sip
import Retrieval.Text.Blank
import Retrieval.Text.Bytes

/-!
# Shingles

A shingle is a window of consecutive words. Documents that share many shingles are alike.

* `shingles n text` : all windows of `n` words, in order;
* `Hashable` encodings and `groupHash` : the hash of a group of items;
* `sketch` : the shingles with the smallest hashes, in whole groups;
* `supershingles` : one hash for every group of a sketch.
-/

namespace Retrieval

inductive ShingleError where
  | sizeMismatch (length group : Nat)
  | zeroWidth
  | zeroGroup
deriving Repr, DecidableEq

def ShingleError.message : ShingleError → String
  | .sizeMismatch length group =>
    "sketch size " ++ toString length ++ " is not divisible by group size " ++ toString group
  | .zeroWidth => "shingle width must be at least 1"
  | .zeroGroup => "super-shingle group size must be at least 1"

abbrev Shingle := List String

/-- All windows of `n ≥ 1` items, in order. -/
def windows {α : Type} (n : Nat) (items : List α) : List (List α) :=
  let row := items.toArray
  (List.range (row.size + 1 - n)).map fun i => (row.extract i (i + n)).toList

def shingles (text : String) (n : Nat) : Except ShingleError (List Shingle) :=
  if n = 0 then .error .zeroWidth else .ok (windows n (Text.words text))

/-! ## Hashes of groups -/

/-- The bytes by which an item enters a hash. -/
class HashInput (α : Type) where
  bytes : α → List UInt8

/-- A text enters by its bytes and a closing byte that no text contains. -/
instance : HashInput String := ⟨fun s => Text.utf8 s ++ [0xFF]⟩

instance : HashInput UInt64 := ⟨Hash.Sip.wordBytes⟩

/-- A list enters by its length and its items. -/
instance {α : Type} [HashInput α] : HashInput (List α) :=
  ⟨fun items => Hash.Sip.wordBytes (.ofNat items.length) ++ items.flatMap HashInput.bytes⟩

def groupHash {α : Type} [HashInput α] (group : List α) : UInt64 :=
  Hash.Sip.hash (HashInput.bytes group)

/-! ## Sketches -/

/-- Whether a hashed shingle comes before another or is equal to it: by hash, then word by word. -/
def sketchOrder (a b : UInt64 × Shingle) : Bool :=
  a.1 < b.1 || (a.1 == b.1 && (compare a.2 b.2).isLE)

/-- The distinct shingles in the order of their hashes, cut to the largest multiple of `k` that is at most
`limit`. -/
def sketch (list : List Shingle) (k limit : Nat) : Except ShingleError (List Shingle) :=
  if k = 0 then .error .zeroGroup
  else
    let ordered := ((list.map fun s => (groupHash s, s)).mergeSort sketchOrder).map (·.2)
    let distinct := ordered.eraseReps
    .ok (distinct.take (min distinct.length limit / k * k))

/-- The hash of every group of `k` consecutive items; the items have to fill whole groups. -/
def supershingles {α : Type} (sketch : List α) (hash : List α → UInt64) (k : Nat) :
    Except ShingleError (List UInt64) :=
  if k = 0 then .error .zeroGroup
  else if sketch.length % k ≠ 0 then .error (.sizeMismatch sketch.length k)
  else
    .ok ((List.range (sketch.length / k)).map fun i => hash ((sketch.drop (i * k)).take k))

end Retrieval
