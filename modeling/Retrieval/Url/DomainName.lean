import Retrieval.Text.Compatibility
import Retrieval.Text.Lowercase
import Retrieval.Text.Split
import Retrieval.Url.DomainName.Table
import Retrieval.Url.Punycode

/-!
# Domain names

A name is brought to lower case and to composed form, and each of its labels is then written in seven-bit
characters. Labels that mix directions of writing, begin with a mark or hold characters that are not meant for
names are refused.

* `isForbidden` : the seven-bit characters that no name has;
* `fold` : a name in its one form;
* `label?` : a label in seven-bit characters;
* `ofChars?` : a name in seven-bit characters.
-/

namespace Retrieval.Url.DomainName

def isPlain (c : Char) : Bool := c.toNat < 0x80

def isForbidden (c : Char) : Bool :=
  c.toNat ≤ 0x20 || c.toNat == 0x7F || "%#/:<>?@[\\]^|".toList.contains c

/-! ## The one form of a name -/

def formOf? (c : Char) : Option (List Char) :=
  if isPlain c then some [c.toLower]
  else if ignored.contains c then some []
  else if forbidden.contains c then none
  else
    match domainForms.find? c with
    | some form => some form
    | none =>
      some (Text.Compatibility.normalizeList
        ((Text.Compatibility.normalizeList [c]).flatMap Text.lowerChar))

/-- A name with every character in its one form, composed as far as possible. -/
def fold (s : List Char) : Option (List Char) :=
  (s.mapM formOf?).map fun forms => Text.Compatibility.normalizeList forms.flatten

/-! ## Joiners -/

def nonJoiner : Char := '\u200C'

def joiner : Char := '\u200D'

/-- Whether the characters before a place, last first, end in a sign that cancels a vowel. -/
def afterVirama (before : List Char) : Bool :=
  before.head?.any (Text.Compatibility.combiningClass · = 9)

def wouldJoin (before after : List Char) : Bool :=
  (before.dropWhile transparent.contains).head?.any joinsNext.contains &&
    (after.dropWhile transparent.contains).head?.any joinsPrevious.contains

/-- Whether all joiners and non-joiners of a label stand where they mean something. -/
def joinersFit (before : List Char) : List Char → Bool
  | [] => true
  | c :: rest =>
    (if c = nonJoiner then afterVirama before || wouldJoin before rest
      else if c = joiner then afterVirama before else true) && joinersFit (c :: before) rest

/-! ## Directions -/

inductive Direction where
  | left
  | right
  | arabicDigit
  | europeanDigit
  | nonspacing
  | neutral
deriving DecidableEq

def direction (c : Char) : Direction :=
  if isPlain c then
    if c.isAlpha then .left else if c.isDigit then .europeanDigit else .neutral
  else if rightToLeft.contains c then .right
  else if arabicDigits.contains c then .arabicDigit
  else if europeanDigits.contains c then .europeanDigit
  else if nonspacing.contains c then .nonspacing
  else if neutral.contains c then .neutral
  else .left

/-- The direction at the end of a label, marks left aside. -/
def endDirection? (directions : List Direction) : Option Direction :=
  (directions.reverse.dropWhile (· = .nonspacing)).head?

def keepsDirection (label : List Char) : Bool :=
  let directions := label.map direction
  match directions.head? with
  | none => true
  | some .right =>
    directions.all (· ≠ .left) &&
      [some .right, some .arabicDigit, some .europeanDigit].contains (endDirection? directions) &&
      !(directions.contains .arabicDigit && directions.contains .europeanDigit)
  | some .left =>
    directions.all (fun d => d ≠ .right && d ≠ .arabicDigit) &&
      [some .left, some .europeanDigit].contains (endDirection? directions)
  | some _ => false

/-- Whether a label is written from right to left in part. -/
def turns (label : List Char) : Bool :=
  label.any fun c => direction c = .right || direction c = .arabicDigit

/-! ## Labels -/

/-- Whether a label in its one form is fit for a name. -/
def isFit (label : List Char) : Bool :=
  !label.any isForbidden && !label.head?.any marks.contains && joinersFit [] label

/-- A label in its one form: what it stands for and how it is written in seven-bit characters. -/
structure Label where
  meaning : List Char
  written : List Char

/-- Reads a label in its one form. One that is written in seven-bit characters already has to be the written form
of another label. -/
def label? (label : List Char) : Option Label :=
  match label with
  | 'x' :: 'n' :: '-' :: '-' :: form => do
    let meaning ← if form.all isPlain then Punycode.decode? form else none
    if isFit meaning && fold meaning = some meaning && !meaning.all isPlain && !meaning.contains '.' then
      some ⟨meaning, label⟩
    else none
  | _ =>
    if !isFit label then none
    else if label.all isPlain then some ⟨label, label⟩
    else some ⟨label, ['x', 'n', '-', '-'] ++ Punycode.encode label⟩

def joinLabels (labels : List (List Char)) : List Char := (labels.intersperse ['.']).flatten

/-- Whether a name needs no more than lower case: it has seven-bit characters only, and no label that stands for
another. -/
def isSimple (s : List Char) : Bool :=
  s.all isPlain && (Text.split '.' (s.map Char.toLower)).all (·.take 4 ≠ ['x', 'n', '-', '-'])

def ofChars? (s : List Char) : Option (List Char) :=
  if isSimple s then
    let name := s.map Char.toLower
    if name.any isForbidden then none else some name
  else do
    let labels ← (Text.split '.' (← fold s)).mapM label?
    if labels.any (turns ·.meaning) && !labels.all (keepsDirection ·.meaning) then none
    else some (joinLabels (labels.map (·.written)))

end Retrieval.Url.DomainName
