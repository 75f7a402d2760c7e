/-!
# Short keyed hash

The add-rotate-xor hash with one round per word and three closing rounds, keyed with zeros.

* `round` : the mixing of the four words of the state;
* `hash bytes` : the hash of a byte string.
-/

namespace Retrieval.Hash.Sip

structure State where
  v0 : UInt64
  v1 : UInt64
  v2 : UInt64
  v3 : UInt64

def rotl (x : UInt64) (n : UInt64) : UInt64 := (x <<< n) ||| (x >>> (64 - n))

def State.round (s : State) : State :=
  let v0 := s.v0 + s.v1
  let v1 := rotl s.v1 13 ^^^ v0
  let v0 := rotl v0 32
  let v2 := s.v2 + s.v3
  let v3 := rotl s.v3 16 ^^^ v2
  let v0 := v0 + v3
  let v3 := rotl v3 21 ^^^ v0
  let v2 := v2 + v1
  let v1 := rotl v1 17 ^^^ v2
  let v2 := rotl v2 32
  ⟨v0, v1, v2, v3⟩

def start : State :=
  ⟨0x736f6d6570736575, 0x646f72616e646f6d, 0x6c7967656e657261, 0x7465646279746573⟩

def State.absorb (s : State) (m : UInt64) : State :=
  let t := State.round { s with v3 := s.v3 ^^^ m }
  { t with v0 := t.v0 ^^^ m }

def littleEndian (bytes : List UInt8) : UInt64 :=
  bytes.foldr (fun b w => (w <<< 8) ||| b.toUInt64) 0

def wordBytes (w : UInt64) : List UInt8 :=
  (List.range 8).map fun i => (w >>> (8 * UInt64.ofNat i)).toUInt8

/-- Takes in the bytes word by word. The last word holds what is left and, on top, the length. -/
def absorbAll (length : Nat) : (bytes : List UInt8) → State → State
  | b0 :: b1 :: b2 :: b3 :: b4 :: b5 :: b6 :: b7 :: rest, s =>
    absorbAll length rest (s.absorb (littleEndian [b0, b1, b2, b3, b4, b5, b6, b7]))
  | rest, s => s.absorb (littleEndian rest ||| (UInt64.ofNat length <<< 56))

def hash (bytes : List UInt8) : UInt64 :=
  let s := absorbAll bytes.length bytes start
  let t := State.round (State.round (State.round { s with v2 := s.v2 ^^^ 0xff }))
  t.v0 ^^^ t.v1 ^^^ t.v2 ^^^ t.v3

end Retrieval.Hash.Sip
