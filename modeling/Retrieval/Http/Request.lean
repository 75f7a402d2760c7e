import Retrieval.Text.Split
import Retrieval.Text.Percent

/-!
# Requests

* `Request` : method, target, headers and body;
* `Request.steps` : the steps of the target's path, still encoded;
* `Request.parameters` : the fields of the target's query, decoded.
-/

namespace Retrieval.Http

/-- A request. The target is a path and perhaps a query behind a question mark. -/
structure Request where
  method : String
  target : String
  headers : List (String × String) := []
  body : String := ""

/-! ## Forms -/

/-- A piece of a form: a plus sign is a blank, and percent signs introduce bytes. -/
def decodeField (s : List Char) : String :=
  Text.decodeLossy (Text.Percent.decode
    (Text.utf8 (.ofList (s.map fun c => if c = '+' then ' ' else c))))

/-- The fields of a form: pieces between ampersands, name and value cut at the first equals sign. -/
def formFields (s : List Char) : List (String × String) :=
  ((Text.split '&' s).filter (!·.isEmpty)).map fun piece =>
    let (name, value) := Text.cut '=' piece
    (decodeField name, decodeField (value.getD []))

namespace Request

def reference (r : Request) : List Char := (Text.cut '#' r.target.toList).1

def steps (r : Request) : List String :=
  (Text.split '/' (Text.cut '?' r.reference).1).map String.ofList

def parameters (r : Request) : List (String × String) :=
  formFields ((Text.cut '?' r.reference).2.getD [])

/-- The first header with a name, in which case is ignored. -/
def header? (r : Request) (name : String) : Option String :=
  (r.headers.find? fun h => h.1.toLower = name).map (·.2)

end Request

/-! ## Header values -/

/-- Whether a header value may hold a character: the tab and all but control characters. -/
def admissible (c : Char) : Bool := c = '\t' || (0x20 ≤ c.toNat && c.toNat ≠ 0x7F)

/-- Whether a character of a header value is readable: the tab and the printable seven-bit characters. -/
def readable (c : Char) : Bool := c = '\t' || (0x20 ≤ c.toNat && c.toNat < 0x7F)

def Request.readableHeader? (r : Request) (name : String) : Option String :=
  (r.header? name).filter (·.toList.all readable)

end Retrieval.Http
