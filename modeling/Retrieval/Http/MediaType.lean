import Retrieval.Text.Split

/-!
# Media types

A media type is a type and a subtype, and perhaps parameters behind semicolons. The part of the subtype behind
its last plus sign is its suffix.

* `MediaType.parse?` : the type that a text names;
* `MediaType.isJson` : whether content of the type is JSON.
-/

namespace Retrieval.Http

structure MediaType where
  main : List Char
  sub : List Char
deriving DecidableEq

namespace MediaType

def isToken (c : Char) : Bool := c.isAlphanum || "!#$%&'*+-.^_`|~".toList.contains c

def isQuotable (c : Char) : Bool := 0x20 ≤ c.toNat && c.toNat ≠ 0x7F

def afterQuotation? (s : List Char) : Option (List Char) :=
  match s.dropWhile fun c => isQuotable c && c ≠ '"' with
  | '"' :: rest => some rest
  | _ => none

/-- What follows the blanks behind a quoted value: the next parameter or the end. -/
def afterBlanks? (s : List Char) : Option (List Char) :=
  match s.dropWhile (· = ' ') with
  | [] => some []
  | ';' :: rest => some rest
  | _ => none

/-- What follows the value of a parameter, without the semicolon. A quoted value has a first character, be it
a quotation mark. -/
def afterValue? (s : List Char) : Option (List Char) :=
  match s with
  | '"' :: [] => none
  | '"' :: first :: rest =>
    if isQuotable first then (afterQuotation? rest).bind afterBlanks? else none
  | s =>
    match s.dropWhile isToken with
    | [] => some []
    | ';' :: rest => if s.takeWhile isToken = [] then none else some rest
    | _ => none

/-- Whether the parameters are well formed. There are no more of them than `fuel`, which the length of the text
bounds. -/
def admitsParameters : (fuel : Nat) → List Char → Bool
  | 0, s => s.isEmpty
  | fuel + 1, s =>
    match s.dropWhile (· = ' ') with
    | [] => true
    | s =>
      match s.dropWhile isToken with
      | '=' :: value =>
        s.takeWhile isToken ≠ [] &&
          (match afterValue? value with
            | some rest => admitsParameters fuel rest
            | none => false)
      | _ => false

def parse? (text : String) : Option MediaType :=
  match Text.cut '/' text.toList with
  | (_, none) => none
  | (main, some rest) =>
    let (sub, parameters) := Text.cut ';' rest
    if main.isEmpty || sub.isEmpty || !main.all isToken || !sub.all isToken then none
    else if admitsParameters (text.length + 1) (parameters.getD []) then
      some ⟨main.map Char.toLower, sub.map Char.toLower⟩
    else none

/-- The subtype without its suffix, and the suffix. A plus sign at its very beginning starts no suffix. -/
def stemAndSuffix (t : MediaType) : List Char × Option (List Char) :=
  match t.sub with
  | [] => ([], none)
  | first :: rest =>
    match Text.cut '+' rest.reverse with
    | (_, none) => (t.sub, none)
    | (suffix, some stem) => (first :: stem.reverse, some suffix.reverse)

/-- Whether content of the type is JSON: the subtype or its suffix says so. -/
def isJson (t : MediaType) : Bool :=
  t.main = "application".toList &&
    (t.stemAndSuffix.1 = "json".toList || t.stemAndSuffix.2 = some "json".toList)

end MediaType

end Retrieval.Http
