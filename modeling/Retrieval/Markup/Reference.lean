import Retrieval.Markup.Entity

/-!
# Character references

A character may be written by its number or by a name, after an ampersand. What is no reference stands for itself.

* `Reference.read?` : the reference after an ampersand, with what follows it;
* `Reference.decode` : a text with its references resolved.
-/

namespace Retrieval.Markup.Reference

inductive Place where
  | text
  | value
deriving Repr, DecidableEq

/-! ## Numbers -/

/-- The characters for the numbers `80` to `9F`, which are no characters of their own. The five that stand for
nothing else keep their number. -/
def secondControls : List Nat :=
  [0x20AC, 0x81, 0x201A, 0x0192, 0x201E, 0x2026, 0x2020, 0x2021, 0x02C6, 0x2030, 0x0160, 0x2039, 0x0152, 0x8D,
   0x017D, 0x8F, 0x90, 0x2018, 0x2019, 0x201C, 0x201D, 0x2022, 0x2013, 0x2014, 0x02DC, 0x2122, 0x0161, 0x203A,
   0x0153, 0x9D, 0x017E, 0x0178]

/-- The character with a number. Zero and numbers that no character has give the replacement character. -/
def ofNumber (n : Nat) : Char :=
  if n = 0 ∨ ¬ n.isValidChar then '\uFFFD'
  else if 0x80 ≤ n ∧ n ≤ 0x9F then .ofNat (secondControls.getD (n - 0x80) n)
  else .ofNat n

def isDigit (base : Nat) (c : Char) : Bool := (Text.digit? c).any (· < base)

def skipSemicolon : List Char → List Char
  | ';' :: rest => rest
  | rest => rest

def number? (base : Nat) (s : List Char) : Option (List Char × List Char) :=
  let digits := s.takeWhile (isDigit base)
  if digits = [] then none
  else (Text.value? base digits).map fun n =>
    ([ofNumber n], skipSemicolon (s.dropWhile (isDigit base)))

/-! ## Names -/

def isNameChar (c : Char) : Bool := c.isAlphanum

/-- Whether a name without a semicolon counts before a text. In the value of an attribute it does not, if the name
or a parameter might go on. -/
def endsBefore (place : Place) (rest : List Char) : Bool :=
  match place with
  | .text => true
  | .value => !(rest.head?.any fun c => isNameChar c || c == '=')

/-- The name at the start of a text, with what follows it: one with a semicolon, or the longest without. -/
def name? (place : Place) (s : List Char) : Option (List Char × List Char) :=
  let run := (s.take Entity.longestName).takeWhile isNameChar
  let whole := match s.drop run.length with
    | ';' :: rest => (Entity.find? run).map (·, rest)
    | _ => none
  whole.orElse fun _ => do
    let name ← Entity.longestBare? run
    let rest := s.drop name.length
    if endsBefore place rest then (Entity.find? name).map (·, rest) else none

/-! ## References -/

/-- The characters of the reference that follows an ampersand, with what follows the reference. -/
def read? (place : Place) : List Char → Option (List Char × List Char)
  | '#' :: 'x' :: rest => number? 16 rest
  | '#' :: 'X' :: rest => number? 16 rest
  | '#' :: rest => number? 10 rest
  | s => name? place s

/-- Resolves references, `done` being the characters before them, last first. Every step shortens what is left, so
that the length of the text is fuel enough. -/
def decodeFrom (place : Place) : (fuel : Nat) → (done : List Char) → List Char → List Char
  | 0, done, s => done.reverseAux s
  | _ + 1, done, [] => done.reverse
  | fuel + 1, done, '&' :: rest =>
    match read? place rest with
    | some (characters, rest) => decodeFrom place fuel (characters.reverseAux done) rest
    | none => decodeFrom place fuel ('&' :: done) rest
  | fuel + 1, done, c :: rest => decodeFrom place fuel (c :: done) rest

def decode (place : Place) (s : List Char) : List Char := decodeFrom place s.length [] s

end Retrieval.Markup.Reference
