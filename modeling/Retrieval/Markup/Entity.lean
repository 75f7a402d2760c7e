import Std.Data.TreeMap
import Std.Data.TreeSet
import Retrieval.Text.Digit
import Retrieval.Text.Split
import Retrieval.Markup.Entity.Table

/-!
# Names of characters

* `Entity.find? name` : the characters that a name stands for before a semicolon;
* `Entity.isBare name` : whether the semicolon may be missing;
* `Entity.longestBare? run` : the longest such name that a text begins with.
-/

namespace Retrieval.Markup.Entity

def fields (rows : List String) : List (List Char) := rows.flatMap fun row => Text.split ' ' row.toList

/-- The characters with the hexadecimal numbers that plus signs separate. -/
def charactersOf (s : List Char) : List Char :=
  (Text.split '+' s).filterMap fun digits => (Text.value? 16 digits).map Char.ofNat

def entryOf (field : List Char) : String × List Char :=
  let (name, characters) := Text.cut '=' field
  (.ofList name, charactersOf (characters.getD []))

def named : Std.TreeMap String (List Char) := .ofList ((fields rows).map entryOf)

def bare : Std.TreeSet String := .ofList ((fields bareRows).map String.ofList)

def longestName : Nat := 32

def longestBareName : Nat := 6

def find? (name : List Char) : Option (List Char) := named.get? (.ofList name)

def isBare (name : List Char) : Bool := bare.contains (.ofList name)

/-- The longest name of at most `length` characters at the start of a text that needs no semicolon. -/
def longestBareUpTo? (run : List Char) : (length : Nat) → Option (List Char)
  | 0 => none
  | length + 1 =>
    let name := run.take (length + 1)
    if isBare name then some name else longestBareUpTo? run length

/-- The longest name at the start of a text that needs no semicolon. -/
def longestBare? (run : List Char) : Option (List Char) := longestBareUpTo? run longestBareName

end Retrieval.Markup.Entity
