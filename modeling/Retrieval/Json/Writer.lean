/-!
# Writing JSON

* `Json.quote` : a text as a JSON string, on one line;
* `Json.object` : an object of texts.
-/

namespace Retrieval.Json

def twoDigits (n : Nat) : List Char := [Nat.digitChar (n / 16), Nat.digitChar (n % 16)]

/-- A character inside a string. Quotation mark, backslash and control characters are escaped. -/
def quoteChar (c : Char) : List Char :=
  if c = '"' then ['\\', '"']
  else if c = '\\' then ['\\', '\\']
  else if c = '\n' then ['\\', 'n']
  else if c = '\r' then ['\\', 'r']
  else if c = '\t' then ['\\', 't']
  else if c = '\x08' then ['\\', 'b']
  else if c = '\x0C' then ['\\', 'f']
  else if c.toNat < 0x20 then ['\\', 'u', '0', '0'] ++ twoDigits c.toNat
  else [c]

def quote (s : List Char) : List Char := ['"'] ++ s.flatMap quoteChar ++ ['"']

def field (f : String × String) : List Char := quote f.1.toList ++ [':'] ++ quote f.2.toList

def object (fields : List (String × String)) : List Char :=
  ['\x7b'] ++ ((fields.map field).intersperse [',']).flatten ++ ['\x7d']

end Retrieval.Json
