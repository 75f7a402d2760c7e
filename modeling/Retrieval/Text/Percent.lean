import Retrieval.Text.Bytes
import Retrieval.Text.Digit

/-!
# Percent encoding

A byte may be written as a percent sign and two hexadecimal digits.

* `Percent.decode` : the bytes for which an encoded text stands;
* `Percent.encode` : the text in which the characters of a class are encoded.
-/

namespace Retrieval.Text.Percent

def hex? (b : UInt8) : Option Nat := digit? (Char.ofNat b.toNat)

/-- The bytes for which an encoded text stands. A percent sign without two digits stands for itself. -/
def decode : List UInt8 → List UInt8
  | [] => []
  | 0x25 :: a :: b :: rest =>
    match hex? a, hex? b with
    | some x, some y => UInt8.ofNat (x * 16 + y) :: decode rest
    | _, _ => 0x25 :: decode (a :: b :: rest)
  | b :: rest => b :: decode rest

def digit (n : Nat) : Char := Char.ofNat (if n < 10 then 0x30 + n else 0x41 + (n - 10))

def encodeByte (b : UInt8) : List Char := ['%', digit (b.toNat / 16), digit (b.toNat % 16)]

def bytesOf (c : Char) : List UInt8 := String.utf8EncodeChar c

/-- A character, encoded if it is no printable one of the seven-bit range or belongs to a class. -/
def encodeChar (escaped : Char → Bool) (c : Char) : List Char :=
  if c.toNat < 0x20 || 0x7E < c.toNat || escaped c then (bytesOf c).flatMap encodeByte else [c]

/-- The text in which control characters, characters beyond the seven-bit range and those of a class are
encoded. -/
def encode (escaped : Char → Bool) (s : List Char) : List Char := s.flatMap (encodeChar escaped)

end Retrieval.Text.Percent
