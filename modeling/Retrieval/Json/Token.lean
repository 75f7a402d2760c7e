import Retrieval.Decimal.Fixed
import Retrieval.Text.Bytes

/-!
# Tokens of a JSON text

A text is cut into tokens one symbol at a time. What a scalar is worth depends on its use: a string that is
skipped may hold lone surrogates, a number that is skipped may be out of range. So a scalar token says both
what it gives when it is built and whether it can be skipped.

* `Malformed` : why a text is refused;
* `Token` : punctuation, literals, scalars, the end of the text, or an unreadable place;
* `Token.scan` : the tokens of a text, the last of which is its end or the first unreadable place.
-/

namespace Retrieval.Json

open Text (Symbol)

/-- Why a text is refused: it is no JSON, it ends too early, or it has not the shape that is asked for. -/
inductive Malformed where
  | syntaxError
  | unfinished
  | shape
deriving Repr, DecidableEq

/-- What a string or number gives when it is built, and whether it can be skipped. -/
structure Scalar where
  built : Except Malformed String
  skipped : Except Malformed Unit

inductive Literal where
  | null
  | true
  | false
deriving Repr, DecidableEq

inductive Token where
  | leftBracket
  | rightBracket
  | leftBrace
  | rightBrace
  | comma
  | colon
  | literal (value : Literal)
  | text (content : Scalar)
  | number (content : Scalar)
  | unreadable (why : Malformed)
  | ending

namespace Scan

/-! ## Numbers -/

inductive NumberPart where
  | minus
  | zero
  | whole
  | point
  | fraction
  | exponent
  | exponentSign
  | exponentDigits
deriving DecidableEq

/-- The part that a symbol continues a number with, `none` if it does not belong to the number. -/
def NumberPart.next? (part : NumberPart) (c : Char) : Option NumberPart :=
  match part with
  | .minus => if c = '0' then some .zero else if c.isDigit then some .whole else none
  | .zero => if c = '.' then some .point else if c = 'e' || c = 'E' then some .exponent else none
  | .whole =>
    if c.isDigit then some .whole else if c = '.' then some .point
    else if c = 'e' || c = 'E' then some .exponent else none
  | .point => if c.isDigit then some .fraction else none
  | .fraction =>
    if c.isDigit then some .fraction else if c = 'e' || c = 'E' then some .exponent else none
  | .exponent =>
    if c = '+' || c = '-' then some .exponentSign
    else if c.isDigit then some .exponentDigits else none
  | .exponentSign => if c.isDigit then some .exponentDigits else none
  | .exponentDigits => if c.isDigit then some .exponentDigits else none

def NumberPart.complete : NumberPart → Bool
  | .zero | .whole | .fraction | .exponentDigits => true
  | _ => false

def digitsValue (digits : List Char) : Nat :=
  digits.foldl (fun n c => n * 10 + (c.toNat - '0'.toNat)) 0

/-- Takes up digits behind those of `n` while the number stays below 2 ^ 64. The digits left over come with it. -/
def takeDigits (n : Nat) : List Char → Nat × List Char
  | [] => (n, [])
  | c :: rest =>
    let next := n * 10 + (c.toNat - '0'.toNat)
    if next < UInt64.size then takeDigits next rest else (n, c :: rest)

/-- The binary fraction of 53 digits nearest to a whole number. -/
def nearest (n : Nat) : Nat :=
  let unit := Nat.pow 2 (Nat.log2 n - 52)
  Decimal.roundEven n unit * unit

/-- Whether `significand · 10 ^ exponent` is finite where both factors are rounded to double precision and so is their
product. A power of ten that is no such number is too large for any significand but zero. -/
def inRange (significand : Nat) (exponent : Int) : Bool :=
  significand = 0 || exponent ≤ 0 ||
    exponent ≤ 308 &&
      nearest significand * nearest (Nat.pow 10 exponent.toNat) < Nat.pow 2 1024 - Nat.pow 2 970

/-- Whether the number with the given spelling is in range. Digits that the significand has no room for are dropped; those
in front of the point count for the exponent. -/
def spellingInRange (spelling : List Char) : Bool :=
  let isMark (c : Char) : Bool := c = 'e' || c = 'E'
  let mantissa := (spelling.dropWhile (· = '-')).takeWhile (!isMark ·)
  let tail := (spelling.dropWhile (!isMark ·)).drop 1
  let whole := mantissa.takeWhile (· ≠ '.')
  let fraction := (mantissa.dropWhile (· ≠ '.')).drop 1
  let size : Int := digitsValue (tail.filter Char.isDigit)
  let exponent := if tail.head? = some '-' then -size else size
  let (front, dropped) := takeDigits 0 whole
  let (significand, dropped') := takeDigits front fraction
  inRange significand (exponent + dropped.length - (fraction.length - dropped'.length))

/-- A complete number, spelled last character first. -/
def numberToken (spelling : List Char) : Token :=
  .number
    { built :=
        if spellingInRange spelling.reverse then .ok (.ofList spelling.reverse)
        else .error .syntaxError
      skipped := .ok () }

/-- A number that breaks off: its beginning is no number. -/
def brokenNumber (why : Malformed) : Token :=
  .number { built := .error why, skipped := .error .syntaxError }

/-! ## Strings -/

/-- The characters of a string so far, last first, or the first reason why it cannot be built. -/
abbrev Content := Except Malformed (List Symbol)

def Content.push (content : Content) (s : Symbol) : Content := content.map (s :: ·)

def Content.refuse (content : Content) (why : Malformed) : Content :=
  content.bind fun _ => .error why

/-- Where in a string the next symbol stands: outside an escape, behind its backslash, among its
hexadecimal digits, or where the second half of a surrogate pair has to begin. -/
inductive StringPlace where
  | plain
  | escape
  | hex (high : Option Nat) (digits : List Char) (size : Nat)
  | pairBackslash (high : Nat)
  | pairLetter (high : Nat)

def escaped? (c : Char) : Option Char :=
  match c with
  | '"' => some '"'
  | '\\' => some '\\'
  | '/' => some '/'
  | 'b' => some '\x08'
  | 'f' => some '\x0C'
  | 'n' => some '\n'
  | 'r' => some '\r'
  | 't' => some '\t'
  | _ => none

def hexValue? (c : Char) : Option Nat :=
  if '0' ≤ c && c ≤ '9' then some (c.toNat - '0'.toNat)
  else if 'a' ≤ c && c ≤ 'f' then some (c.toNat - 'a'.toNat + 10)
  else if 'A' ≤ c && c ≤ 'F' then some (c.toNat - 'A'.toNat + 10)
  else none

/-- The number that four hexadecimal digits spell, last first. -/
def hexNumber? (digits : List Char) : Option Nat :=
  if digits.length = 4 then
    digits.reverse.foldl (fun n c => n.bind fun n => (hexValue? c).map (n * 16 + ·)) (some 0)
  else none

/-- A 16-bit unit has been read, behind the high surrogate `high` if there is one. -/
def unitRead (high : Option Nat) (unit : Nat) (content : Content) : StringPlace × Content :=
  match high with
  | some h =>
    if 0xDC00 ≤ unit && unit ≤ 0xDFFF then
      let code := 0x10000 + (h - 0xD800) * 0x400 + (unit - 0xDC00)
      (.plain, Content.push content (some (Char.ofNat code)))
    else (.plain, Content.refuse content .syntaxError)
  | none =>
    if 0xDC00 ≤ unit && unit ≤ 0xDFFF then (.plain, Content.refuse content .syntaxError)
    else if 0xD800 ≤ unit && unit ≤ 0xDBFF then (.pairBackslash unit, content)
    else (.plain, Content.push content (some (Char.ofNat unit)))

def closeContent (content : Content) : Except Malformed String :=
  content.bind fun symbols =>
    match symbols.reverse.mapM id with
    | some chars => .ok (.ofList chars)
    | none => .error .syntaxError

def brokenString (content : Content) (why : Malformed) : Token :=
  match content with
  | .error earlier => .text { built := .error earlier, skipped := .error why }
  | .ok _ => .text { built := .error why, skipped := .error why }

/-! ## The scan -/

inductive State where
  | between
  | word (value : Literal) (left : List Char)
  | number (part : NumberPart) (spelling : List Char)
  | string (place : StringPlace) (content : Content)
  | stopped

def startToken (s : Symbol) : State × List Token :=
  match s with
  | none => (.stopped, [.unreadable .syntaxError])
  | some c =>
    if c = ' ' || c = '\n' || c = '\t' || c = '\r' then (.between, [])
    else if c = '[' then (.between, [.leftBracket])
    else if c = ']' then (.between, [.rightBracket])
    else if c = '\x7b' then (.between, [.leftBrace])
    else if c = '\x7d' then (.between, [.rightBrace])
    else if c = ',' then (.between, [.comma])
    else if c = ':' then (.between, [.colon])
    else if c = '"' then (.string .plain (.ok []), [])
    else if c = '-' then (.number .minus [c], [])
    else if c = '0' then (.number .zero [c], [])
    else if c.isDigit then (.number .whole [c], [])
    else if c = 'n' then (.word .null ['u', 'l', 'l'], [])
    else if c = 't' then (.word .true ['r', 'u', 'e'], [])
    else if c = 'f' then (.word .false ['a', 'l', 's', 'e'], [])
    else (.stopped, [.unreadable .syntaxError])

def plainStep (content : Content) (s : Symbol) : State × List Token :=
  match s with
  | some '"' =>
    (.between, [.text { built := closeContent content, skipped := .ok () }])
  | some '\\' => (.string .escape content, [])
  | some c =>
    if c.toNat < 0x20 then (.stopped, [brokenString content .syntaxError])
    else (.string .plain (Content.push content s), [])
  | none => (.string .plain (Content.push content none), [])

def escapeStep (content : Content) (s : Symbol) : State × List Token :=
  match s with
  | some 'u' => (.string (.hex none [] 0) content, [])
  | some c =>
    match escaped? c with
    | some d => (.string .plain (Content.push content (some d)), [])
    | none => (.stopped, [brokenString content .syntaxError])
  | none => (.stopped, [brokenString content .syntaxError])

/-- A symbol where hexadecimal digits are due. Four bytes are taken before they are looked at. -/
def hexStep (high : Option Nat) (digits : List Char) (size : Nat) (content : Content) (s : Symbol) :
    State × List Token :=
  let digits := s.getD ' ' :: digits
  let size := size + (s.map Char.utf8Size).getD 1
  if size < 4 then (.string (.hex high digits size) content, [])
  else
    match hexNumber? digits with
    | some unit =>
      let (place, content) := unitRead high unit content
      (.string place content, [])
    | none => (.stopped, [brokenString content .syntaxError])

def stringStep (place : StringPlace) (content : Content) (s : Symbol) : State × List Token :=
  match place with
  | .plain => plainStep content s
  | .escape => escapeStep content s
  | .hex high digits size => hexStep high digits size content s
  | .pairBackslash high =>
    if s = some '\\' then (.string (.pairLetter high) content, [])
    else plainStep (Content.refuse content .syntaxError) s
  | .pairLetter high =>
    if s = some 'u' then (.string (.hex (some high) [] 0) content, [])
    else escapeStep (Content.refuse content .syntaxError) s

def numberStep (part : NumberPart) (spelling : List Char) (s : Symbol) : State × List Token :=
  match s.bind fun c => (part.next? c).map (·, c) with
  | some (next, c) => (.number next (c :: spelling), [])
  | none =>
    if !part.complete || (part = .zero && s.any Char.isDigit) then
      (.stopped, [brokenNumber .syntaxError])
    else
      let (state, tokens) := startToken s
      (state, numberToken spelling :: tokens)

/-- Reads one symbol: what is open afterwards, and the tokens that are complete. -/
def step (state : State) (s : Symbol) : State × List Token :=
  match state with
  | .between => startToken s
  | .word value (c :: left) =>
    if s = some c then
      if left.isEmpty then (.between, [.literal value]) else (.word value left, [])
    else (.stopped, [.unreadable .syntaxError])
  | .word value [] => (.between, [.literal value])
  | .number part spelling => numberStep part spelling s
  | .string place content => stringStep place content s
  | .stopped => (.stopped, [])

def finish (state : State) : List Token :=
  match state with
  | .between => [.ending]
  | .word _ _ => [.unreadable .unfinished]
  | .number part spelling =>
    if part.complete then [numberToken spelling, .ending] else [brokenNumber .unfinished]
  | .string _ content => [brokenString content .unfinished]
  | .stopped => []

def tokensFrom (state : State) : List Symbol → List Token
  | [] => finish state
  | s :: rest =>
    match step state s with
    | (next, []) => tokensFrom next rest
    | (next, tokens) => tokens ++ tokensFrom next rest

end Scan

def Token.scan (text : List Symbol) : List Token := Scan.tokensFrom .between text

end Retrieval.Json
