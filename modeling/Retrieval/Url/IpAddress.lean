import Retrieval.Text.Digit
import Retrieval.Text.Split

/-!
# Network addresses

* `IpAddress` : an address of 32 bits, or one of eight words of 16 bits;
* `octets?`, `words?` : addresses in dotted decimals and in hexadecimal words;
* `number?` : the looser notation of 32 bits in up to four parts, decimal, octal or hexadecimal;
* `IpAddress.render` : the shortest notation.
-/

namespace Retrieval.Url

/-- An address of 32 bits, or one of eight words. -/
inductive IpAddress where
  | short (value : Nat)
  | long (words : List Nat)
deriving Repr, DecidableEq

namespace IpAddress

open Text (value?)

/-! ## Dotted decimals -/

/-- A number below 256 in decimals without leading zeros. -/
def octet? (s : List Char) : Option Nat :=
  if s = [] ∨ 3 < s.length ∨ (s.head? = some '0' ∧ s ≠ ['0']) then none
  else (value? 10 s).filter (· < 256)

def octets? (s : List Char) : Option (List Nat) :=
  ((Text.split '.' s).mapM octet?).filter (·.length = 4)

def joinOctets (octets : List Nat) : Nat := octets.foldl (fun n o => n * 256 + o) 0

/-! ## Hexadecimal words -/

def word? (s : List Char) : Option Nat :=
  if s = [] ∨ 4 < s.length then none else value? 16 s

/-- The words of pieces between colons. The last piece may be dotted decimals, which make two words. -/
def pieceWords? : List (List Char) → Option (List Nat)
  | [] => some []
  | [last] =>
    match word? last, octets? last with
    | some w, _ => some [w]
    | none, some [a, b, c, d] => some [a * 256 + b, c * 256 + d]
    | none, _ => none
  | piece :: rest => do pure ((← word? piece) :: (← pieceWords? rest))

/-- The words of pieces in front of a gap, none of which is dotted. -/
def headWords? (pieces : List (List Char)) : Option (List Nat) := pieces.mapM word?

def cutGap : List Char → List Char × Option (List Char)
  | ':' :: ':' :: rest => ([], some rest)
  | [] => ([], none)
  | c :: rest => let (before, after) := cutGap rest; (c :: before, after)

/-- The pieces of a text between colons, none if it is empty. -/
def colonPieces (s : List Char) : List (List Char) := if s = [] then [] else Text.split ':' s

/-- The eight words of a text. A double colon stands for as many zeros as are missing, at least one. -/
def words? (s : List Char) : Option (List Nat) :=
  match cutGap s with
  | (all, none) => (pieceWords? (Text.split ':' all)).filter (·.length = 8)
  | (before, some after) => do
    let left ← headWords? (colonPieces before)
    let right ← pieceWords? (colonPieces after)
    if left.length + right.length ≤ 7 then
      some (left ++ List.replicate (8 - (left.length + right.length)) 0 ++ right)
    else none

/-! ## Loose numbers -/

/-- What a part of a loose address says: nothing, a number that fits in 32 bits, or one that does not. -/
def part? (s : List Char) : Option (Option Nat) :=
  let fits (n : Nat) : Option Nat := if n < UInt32.size then some n else none
  match s with
  | [] => none
  | '0' :: x :: digits =>
    if x = 'x' ∨ x = 'X' then (value? 16 digits).map fits else (value? 8 (x :: digits)).map fits
  | digits => (value? 10 digits).map fits

/-- The parts of a loose address; an empty last one is dropped. -/
def looseParts (s : List Char) : List (List Char) :=
  match (Text.split '.' s).reverse with
  | [] :: rest => rest.reverse
  | parts => parts.reverse

/-- Whether the last part of a name is a number, so that the name has to be an address. -/
def endsInNumber (s : List Char) : Bool :=
  match (looseParts s).getLast? with
  | none => false
  | some last => (last ≠ [] && last.all Char.isDigit) || (part? last).isSome

/-- The address of up to four parts: all but the last are octets, the last fills the rest. -/
def number? (s : List Char) : Option Nat := do
  let parts ← (looseParts s).mapM fun p => (part? p).bind id
  match parts.reverse with
  | [] => none
  | last :: before =>
    let octets := before.reverse
    if 3 < octets.length ∨ octets.any (255 < ·) ∨ Nat.pow 256 (4 - octets.length) ≤ last then none
    else some (joinOctets octets * Nat.pow 256 (4 - octets.length) + last)

/-! ## Rendering -/

def renderWord (w : Nat) : List Char := Nat.toDigits 16 w

def zeros (words : List Nat) : Nat := (words.takeWhile (· = 0)).length

/-- The place and length of the longest run of zeros, the first of equally long ones. -/
def longestRun (place : Nat) : List Nat → Nat × Nat
  | [] => (place, 0)
  | w :: rest =>
    let here := zeros (w :: rest)
    let later := longestRun (place + 1) rest
    if later.2 ≤ here then (place, here) else later

def renderWords (words : List Nat) : List Char :=
  ((words.map renderWord).intersperse [':']).flatten

/-- The notation of eight words, with a double colon for the longest run of two or more zeros. -/
def renderLong (words : List Nat) : List Char :=
  let (place, run) := longestRun 0 words
  if run < 2 then renderWords words
  else renderWords (words.take place) ++ [':', ':'] ++ renderWords (words.drop (place + run))

def renderShort (value : Nat) : List Char :=
  let octet (i : Nat) : List Char := Nat.toDigits 10 (value / Nat.pow 256 i % 256)
  octet 3 ++ ['.'] ++ octet 2 ++ ['.'] ++ octet 1 ++ ['.'] ++ octet 0

def render : IpAddress → List Char
  | .short value => renderShort value
  | .long words => ['['] ++ renderLong words ++ [']']

end IpAddress

end Retrieval.Url
