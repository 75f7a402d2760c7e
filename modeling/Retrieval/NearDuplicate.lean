import Std.Data.TreeSet
import Retrieval.Hash.Sha1
import Retrieval.Shingle

/-!
# The near-duplicate filter

A text is remembered by its fingerprint, the super-shingles of its sketch. A text that shares enough of them
with those remembered is a near-duplicate, and is not remembered.

* `fingerprint` : the super-shingles of a text;
* `NearDuplicateFilter.check` : whether a text is a near-duplicate, and the filter afterwards.
-/

namespace Retrieval

namespace NearDuplicateFilter

def shingleWidth : Nat := 4

def groupSize : Nat := 6

def sketchLimit : Nat := 84

/-- The bytes of a group of shingles: a unit separator ends each word and a record separator each
shingle. -/
def groupBytes (group : List Shingle) : List UInt8 :=
  group.flatMap fun shingle => (shingle.flatMap fun word => Text.utf8 word ++ [0x1F]) ++ [0x1E]

/-- The first eight bytes of the secure hash of a group, as a number. -/
def secureHash (group : List Shingle) : UInt64 :=
  .ofNat (Hash.Sha1.ofBigEndian ((Hash.Sha1.digest (groupBytes group)).take 8))

def fingerprint (text : String) : Except ShingleError (List UInt64) := do
  let all ← shingles text shingleWidth
  let sample ← sketch all groupSize sketchLimit
  supershingles sample secureHash groupSize

end NearDuplicateFilter

/-- The super-shingles of the texts that were kept, and how many a near-duplicate shares with them. -/
structure NearDuplicateFilter where
  threshold : Nat
  seen : Std.TreeSet UInt64 := ∅

namespace NearDuplicateFilter

/-- An empty filter; a threshold of zero counts as one. -/
def new (threshold : Nat) : NearDuplicateFilter := { threshold := max threshold 1 }

/-- Whether a fingerprint has so many remembered entries that its text is a near-duplicate. A short
fingerprint has to be remembered in full, and an empty one never is. -/
def isDuplicate (f : NearDuplicateFilter) (print : List UInt64) : Bool :=
  !print.isEmpty && min f.threshold print.length ≤ print.countP f.seen.contains

def remember (f : NearDuplicateFilter) (print : List UInt64) : NearDuplicateFilter :=
  { f with seen := f.seen.insertMany print }

/-- Whether a text is a near-duplicate, with the filter afterwards: one that is not is remembered. -/
def check (f : NearDuplicateFilter) (text : String) :
    Except ShingleError (Bool × NearDuplicateFilter) := do
  let print ← fingerprint text
  pure (if f.isDuplicate print then (true, f) else (false, f.remember print))

end NearDuplicateFilter

end Retrieval
