import Retrieval.Markup.Reference

/-!
# Tags

* `Tag` : the name of a start tag, its attributes, and whether it closes itself;
* `Tag.Reader` : a tag that is being read, character by character;
* `Tag.read?` : the tag at the start of a text, with what follows it.

Names are in lower case. Of attributes with one name the first counts.
-/

namespace Retrieval.Markup

def isSpace (c : Char) : Bool := c == ' ' || c == '\t' || c == '\n' || c == '\x0c' || c == '\r'

/-- The name and the value of an attribute. -/
structure Attribute where
  name : String
  value : String
deriving Repr, DecidableEq

structure Tag where
  name : String
  attributes : List Attribute := []
  selfClosing : Bool := false
deriving Repr, DecidableEq

namespace Tag

def attribute? (tag : Tag) (name : String) : Option String :=
  (tag.attributes.find? (·.name = name)).map (·.value)

/-- Whether two tags have one name and the same attributes, in any order. -/
def isLike (a b : Tag) : Bool :=
  a.name == b.name && a.attributes.length == b.attributes.length && a.attributes.all b.attributes.contains

/-- A character of a name: letters in lower case, and nothing unreadable. -/
def nameChar (c : Char) : Char := if c = '\x00' then '\uFFFD' else c.toLower

def valueChar (c : Char) : Char := if c = '\x00' then '\uFFFD' else c

/-- Where in a tag a reader is. Characters of a part that is open are held last first. -/
inductive Phase where
  /-- in the name of the tag -/
  | tagName (run : List Char)
  /-- before an attribute -/
  | gap
  /-- behind a slash, which closes the tag if it stands at the end -/
  | slash
  /-- in the name of an attribute -/
  | name (run : List Char)
  /-- behind the name of an attribute, where a value may follow -/
  | afterName (name : List Char)
  /-- behind an equals sign -/
  | beforeValue (name : List Char)
  /-- in a value, between quotes or up to a space -/
  | value (name : List Char) (quote : Option Char) (run : List Char)
  /-- behind a closing quote -/
  | afterValue
  /-- at the end of the tag -/
  | closed (selfClosing : Bool)
deriving Repr, DecidableEq

/-- A tag that is being read; its attributes so far are held last first. -/
structure Reader where
  tagName : String
  attributes : List Attribute
  phase : Phase
deriving Repr, DecidableEq

namespace Reader

def new : Reader := ⟨"", [], .tagName []⟩

/-- Adds an attribute, unless there is one with its name. -/
def add (r : Reader) (name value : List Char) : Reader :=
  let name := String.ofList name.reverse
  if r.attributes.any (·.name = name) then r
  else { r with attributes := ⟨name, .ofList (Reference.decode .value value.reverse)⟩ :: r.attributes }

def go (r : Reader) (phase : Phase) : Reader := { r with phase }

def atGap (r : Reader) (c : Char) : Reader :=
  if isSpace c then r.go .gap
  else if c = '/' then r.go .slash
  else if c = '>' then r.go (.closed false)
  else r.go (.name [nameChar c])

/-- Reads a character behind the name of an attribute, or one that ends it. `goOn` says what else happens. -/
def atNameEnd (r : Reader) (name : List Char) (c : Char) (goOn : Reader) : Reader :=
  if isSpace c then r.go (.afterName name)
  else if c = '=' then r.go (.beforeValue name)
  else if c = '/' ∨ c = '>' then (r.add name []).atGap c
  else goOn

def inValue (r : Reader) (name : List Char) (quote : Option Char) (run : List Char) (c : Char) : Reader :=
  match quote with
  | some q =>
    if c = q then (r.add name run).go .afterValue else r.go (.value name quote (valueChar c :: run))
  | none =>
    if isSpace c ∨ c = '>' then (r.add name run).atGap c else r.go (.value name none (valueChar c :: run))

def atValue (r : Reader) (name : List Char) (c : Char) : Reader :=
  if isSpace c then r
  else if c = '"' ∨ c = '\'' then r.go (.value name (some c) [])
  else r.inValue name none [] c

def step (r : Reader) (c : Char) : Reader :=
  match r.phase with
  | .tagName run =>
    if isSpace c ∨ c = '/' ∨ c = '>' then { r with tagName := .ofList run.reverse }.atGap c
    else r.go (.tagName (nameChar c :: run))
  | .gap => r.atGap c
  | .slash => if c = '>' then r.go (.closed true) else r.atGap c
  | .name run => r.atNameEnd run c (r.go (.name (nameChar c :: run)))
  | .afterName name => r.atNameEnd name c ((r.add name []).go (.name [nameChar c]))
  | .beforeValue name => r.atValue name c
  | .value name quote run => r.inValue name quote run c
  | .afterValue => r.atGap c
  | .closed _ => r

/-- Reads up to the end of a tag: the tag with what follows it, or nothing if the text ends first. -/
def run? (r : Reader) : List Char → Option (Tag × List Char)
  | [] => none
  | c :: rest =>
    let r := r.step c
    match r.phase with
    | .closed selfClosing => some (⟨r.tagName, r.attributes.reverse, selfClosing⟩, rest)
    | _ => r.run? rest

end Reader

/-- The tag whose name begins a text, with what follows the tag. -/
def read? (s : List Char) : Option (Tag × List Char) := Reader.new.run? s

end Tag

end Retrieval.Markup
