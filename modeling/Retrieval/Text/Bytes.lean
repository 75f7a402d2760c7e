/-!
# Bytes of texts

* `utf8 s` : the bytes of a text;
* `decode` : the text of well-formed bytes;
* `symbols` : the characters of any bytes, with nothing in place of each ill-formed stretch;
* `decodeLossy` : the same with replacement characters.
-/

namespace Retrieval.Text

def utf8 (s : String) : List UInt8 := s.toUTF8.toList

/-- The text that the bytes encode, if they are well formed. -/
def decode (bytes : List UInt8) : Option String := String.fromUTF8? ⟨bytes.toArray⟩

/-- Whether a byte continues a sequence, its value between `lo` and `hi`. -/
def continues (lo hi : UInt8) (b : UInt8) : Bool := lo ≤ b && b ≤ hi

/-- For a leading byte the bounds of the next byte and the number of bytes after that one. -/
def sequenceShape? (lead : UInt8) : Option (UInt8 × UInt8 × Nat) :=
  if 0xC2 ≤ lead && lead ≤ 0xDF then some (0x80, 0xBF, 0)
  else if lead == 0xE0 then some (0xA0, 0xBF, 1)
  else if lead == 0xED then some (0x80, 0x9F, 1)
  else if 0xE1 ≤ lead && lead ≤ 0xEF then some (0x80, 0xBF, 1)
  else if lead == 0xF0 then some (0x90, 0xBF, 2)
  else if 0xF1 ≤ lead && lead ≤ 0xF3 then some (0x80, 0xBF, 2)
  else if lead == 0xF4 then some (0x80, 0x8F, 2)
  else none

/-- What is open while bytes are read: the bits so far, the bounds of the next byte and how many bytes
follow that one. -/
structure OpenSequence where
  bits : Nat
  lo : UInt8
  hi : UInt8
  left : Nat

/-- The bits that a leading byte carries before `left + 1` more bytes. -/
def leadBits (lead : UInt8) (left : Nat) : Nat := lead.toNat % Nat.pow 2 (5 - left)

/-- A character, or nothing for bytes that encode none. -/
abbrev Symbol := Option Char

def startByte (b : UInt8) (done : List Symbol) : Option OpenSequence × List Symbol :=
  if b < 0x80 then (none, some (Char.ofNat b.toNat) :: done)
  else match sequenceShape? b with
    | some (lo, hi, left) => (some ⟨leadBits b left, lo, hi, left⟩, done)
    | none => (none, none :: done)

/-- Reads one byte; a byte that does not continue the open sequence ends it and starts anew. -/
def readByte (state : Option OpenSequence × List Symbol) (b : UInt8) :
    Option OpenSequence × List Symbol :=
  match state with
  | (none, done) => startByte b done
  | (some sequence, done) =>
    if continues sequence.lo sequence.hi b then
      let bits := sequence.bits * 64 + b.toNat % 64
      match sequence.left with
      | 0 => (none, some (Char.ofNat bits) :: done)
      | left + 1 => (some ⟨bits, 0x80, 0xBF, left⟩, done)
    else startByte b (none :: done)

/-- The symbols of any bytes: a longest prefix of a well-formed sequence that is cut off, and any other byte
that fits nowhere, become one symbol without a character. -/
def symbols (bytes : List UInt8) : List Symbol :=
  match bytes.foldl readByte (none, []) with
  | (none, done) => done.reverse
  | (some _, done) => (none :: done).reverse

def symbolsOf (s : String) : List Symbol := s.toList.map some

/-- The text of any bytes, with a replacement character for what encodes none. -/
def decodeLossy (bytes : List UInt8) : String :=
  .ofList ((symbols bytes).map (·.getD '\uFFFD'))

end Retrieval.Text
