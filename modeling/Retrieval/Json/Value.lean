import Retrieval.Json.Token

/-!
# Values of a JSON text

A value is read by an algebra, which says what to make of each kind; the open containers wait on a stack.

* `Algebra`, `Reader` : what to make of the parts, and where in a value the next token stands;
* `Reader.run` : reads one value from the front of a list of tokens;
* `Value`, `building` : the value itself;
* `skipping` : the algebra that makes nothing, however deep a value nests;
* `Value.read` : the value of a whole text.
-/

namespace Retrieval.Json

/-- What to make of literals, scalars, keys and complete containers, and how many containers may be open at
once. -/
structure Algebra (α : Type) where
  literal : Literal → α
  number : Scalar → Except Malformed α
  text : Scalar → Except Malformed α
  key : Scalar → Except Malformed String
  array : List α → α
  object : List (String × α) → α
  maxDepth : Option Nat

/-- An open container: what it holds so far, last first, and for an object the last key. -/
inductive Frame (α : Type) where
  | array (done : List α)
  | object (done : List (String × α)) (key : String)

inductive Due where
  | value
  | firstItem
  | firstKey
  | key
  | colon
  | separator
deriving DecidableEq

structure Reader (α : Type) where
  due : Due := .value
  stack : List (Frame α) := []

/-- The outcome of one token: the value is complete, or there is more to come. -/
abbrev Progress (σ α : Type) := Except Malformed (σ ⊕ α)

/-- A token that is not the one due: at the end of the text too little is there, else it is no JSON. -/
def unexpected {β : Type} : Token → Except Malformed β
  | .ending => .error .unfinished
  | _ => .error .syntaxError

namespace Reader

variable {α : Type}

/-- A value is complete: it is the answer, or the next item of the container that is open. -/
def close (stack : List (Frame α)) (v : α) : Reader α ⊕ α :=
  match stack with
  | [] => .inr v
  | .array done :: rest => .inl ⟨.separator, .array (v :: done) :: rest⟩
  | .object done key :: rest => .inl ⟨.separator, .object ((key, v) :: done) key :: rest⟩

def descend (a : Algebra α) (stack : List (Frame α)) (due : Due) (frame : Frame α) :
    Progress (Reader α) α :=
  if a.maxDepth.any (· ≤ stack.length) then .error .syntaxError else .ok (.inl ⟨due, frame :: stack⟩)

def valueStep (a : Algebra α) (stack : List (Frame α)) (t : Token) : Progress (Reader α) α :=
  match t with
  | .literal l => .ok (close stack (a.literal l))
  | .number s => (a.number s).map (close stack)
  | .text s => (a.text s).map (close stack)
  | .leftBracket => descend a stack .firstItem (.array [])
  | .leftBrace => descend a stack .firstKey (.object [] "")
  | .unreadable why => .error why
  | t => unexpected t

def keyStep (a : Algebra α) (stack : List (Frame α)) (t : Token) : Progress (Reader α) α :=
  match t, stack with
  | .text s, .object done _ :: rest =>
    (a.key s).map fun key => .inl ⟨.colon, .object done key :: rest⟩
  | t, _ => unexpected t

def separatorStep (a : Algebra α) (stack : List (Frame α)) (t : Token) : Progress (Reader α) α :=
  match t, stack with
  | .comma, .array _ :: _ => .ok (.inl ⟨.value, stack⟩)
  | .rightBracket, .array done :: rest => .ok (close rest (a.array done.reverse))
  | .comma, .object _ _ :: _ => .ok (.inl ⟨.key, stack⟩)
  | .rightBrace, .object done _ :: rest => .ok (close rest (a.object done.reverse))
  | t, _ => unexpected t

def step (a : Algebra α) (r : Reader α) (t : Token) : Progress (Reader α) α :=
  match r.due, t with
  | .value, t => valueStep a r.stack t
  | .firstItem, .rightBracket => separatorStep a r.stack .rightBracket
  | .firstItem, t => valueStep a r.stack t
  | .firstKey, .rightBrace => separatorStep a r.stack .rightBrace
  | .firstKey, t => keyStep a r.stack t
  | .key, t => keyStep a r.stack t
  | .colon, .colon => .ok (.inl ⟨.value, r.stack⟩)
  | .colon, t => unexpected t
  | .separator, t => separatorStep a r.stack t

end Reader

/-- Feeds tokens to a reader until its answer is complete; the answer comes with the tokens behind it. -/
def feed {σ α : Type} (step : σ → Token → Progress σ α) (s : σ) :
    List Token → Except Malformed (α × List Token)
  | [] => .error .unfinished
  | t :: rest =>
    match step s t with
    | .error e => .error e
    | .ok (.inl next) => feed step next rest
    | .ok (.inr a) => .ok (a, rest)

def onlyEnding {α : Type} : α × List Token → Except Malformed α
  | (a, [.ending]) => .ok a
  | _ => .error .syntaxError

/-! ## The two algebras -/

/-- A JSON value. Numbers keep their spelling, objects all their fields in order. -/
inductive Value where
  | literal (l : Literal)
  | number (spelling : String)
  | text (s : String)
  | array (items : List Value)
  | object (fields : List (String × Value))

/-- The number of containers that may be open while a value is built. -/
def buildDepth : Nat := 127

def building : Algebra Value where
  literal := .literal
  number s := s.built.map .number
  text s := s.built.map .text
  key s := s.built
  array := .array
  object := .object
  maxDepth := some buildDepth

def skipping : Algebra Unit where
  literal _ := ()
  number s := s.skipped
  text s := s.skipped
  key s := s.skipped.map fun _ => ""
  array _ := ()
  object _ := ()
  maxDepth := none

/-- The value of a text that holds one value and nothing else. -/
def Value.read (text : List Text.Symbol) : Except Malformed Value :=
  (feed (Reader.step building) {} (Token.scan text)).bind onlyEnding

/-- The last value under a key, which is the one that counts. -/
def Value.last? (key : String) (fields : List (String × Value)) : Option Value :=
  (fields.reverse.find? (·.1 = key)).map (·.2)

end Retrieval.Json
