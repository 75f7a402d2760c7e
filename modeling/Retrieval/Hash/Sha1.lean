/-!
# The 160-bit secure hash

* `padded` : the message with its closing bit and length, in 64-byte blocks;
* `compress` : the eighty steps over one block;
* `digest bytes` : the twenty bytes of the hash, `hexDigest` their digits.
-/

namespace Retrieval.Hash.Sha1

structure Chain where
  a : UInt32
  b : UInt32
  c : UInt32
  d : UInt32
  e : UInt32

def rotl (x : UInt32) (n : UInt32) : UInt32 := (x <<< n) ||| (x >>> (32 - n))

def start : Chain := ⟨0x67452301, 0xEFCDAB89, 0x98BADCFE, 0x10325476, 0xC3D2E1F0⟩

def bigEndian (count n : Nat) : List UInt8 :=
  (List.range count).map fun i => UInt8.ofNat (n / Nat.pow 256 (count - 1 - i))

def ofBigEndian (bytes : List UInt8) : Nat := bytes.foldl (fun n b => n * 256 + b.toNat) 0

/-- The message, the byte `80`, zeros up to eight bytes below a block boundary, and the bit length. -/
def padded (bytes : List UInt8) : List UInt8 :=
  bytes ++ 0x80 :: List.replicate ((119 - bytes.length % 64) % 64) 0 ++
    bigEndian 8 (8 * bytes.length)

def blockWords (block : List UInt8) : List UInt32 :=
  (List.range 16).map fun i => UInt32.ofNat (ofBigEndian ((block.drop (4 * i)).take 4))

/-- The word that follows the last sixteen, which are given last first. -/
def nextWord (last : List UInt32) : UInt32 :=
  rotl (last.getD 2 0 ^^^ last.getD 7 0 ^^^ last.getD 13 0 ^^^ last.getD 15 0) 1

/-- The words of the schedule, last first: `n` more words after those given. -/
def extend : (n : Nat) → List UInt32 → List UInt32
  | 0, words => words
  | n + 1, words => extend n (nextWord words :: words)

/-- The mixing function and constant of step `i`. -/
def mix (i : Nat) (s : Chain) : UInt32 :=
  if i < 20 then ((s.b &&& s.c) ||| (~~~s.b &&& s.d)) + 0x5A827999
  else if i < 40 then (s.b ^^^ s.c ^^^ s.d) + 0x6ED9EBA1
  else if i < 60 then ((s.b &&& s.c) ||| (s.b &&& s.d) ||| (s.c &&& s.d)) + 0x8F1BBCDC
  else (s.b ^^^ s.c ^^^ s.d) + 0xCA62C1D6

def step (state : Nat × Chain) (w : UInt32) : Nat × Chain :=
  let (i, s) := state
  (i + 1, ⟨rotl s.a 5 + mix i s + s.e + w, s.a, rotl s.b 30, s.c, s.d⟩)

def compress (s : Chain) (block : List UInt8) : Chain :=
  let schedule := (extend 64 (blockWords block).reverse).reverse
  let t := (schedule.foldl step (0, s)).2
  ⟨s.a + t.a, s.b + t.b, s.c + t.c, s.d + t.d, s.e + t.e⟩

def compressAll : (n : Nat) → List UInt8 → Chain → Chain
  | 0, _, s => s
  | n + 1, bytes, s => compressAll n (bytes.drop 64) (compress s (bytes.take 64))

def digest (bytes : List UInt8) : List UInt8 :=
  let message := padded bytes
  let s := compressAll (message.length / 64) message start
  [s.a, s.b, s.c, s.d, s.e].flatMap fun w => bigEndian 4 w.toNat

/-- A byte as two lower-case hexadecimal digits. -/
def hexByte (b : UInt8) : List Char :=
  [Nat.digitChar (b.toNat / 16), Nat.digitChar (b.toNat % 16)]

def hexDigest (bytes : List UInt8) : String := .ofList ((digest bytes).flatMap hexByte)

end Retrieval.Hash.Sha1
