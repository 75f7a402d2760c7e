import Retrieval.Json.Value

/-!
# Documents of a corpus

A document is an object with a `url` and a `text`, the latter also called `body`, or an array of just these
two. Other fields are skipped.

* `Document.ofValue` : the document that a value is;
* `Document.Reader` : a document read straight from tokens, each of its own fields at most once;
* `Document.read` : the document of a whole text;
* `Document.readAll` : the documents of an array, whatever follows it.
-/

namespace Retrieval

open Json (Malformed Progress Token Value)

/-- An address and a text free of markup. -/
structure Document where
  url : String
  text : String
deriving Repr, DecidableEq

namespace Document

def pair (d : Document) : String × String := (d.url, d.text)

/-! ## From values -/

def textOf : Value → Except Malformed String
  | .text s => .ok s
  | _ => .error .shape

def ofValue : Value → Except Malformed Document
  | .array [url, text] => do pure ⟨← textOf url, ← textOf text⟩
  | .object fields =>
    match Value.last? "url" fields, Value.last? "text" fields, Value.last? "body" fields with
    | some url, some text, none => do pure ⟨← textOf url, ← textOf text⟩
    | some url, none, some body => do pure ⟨← textOf url, ← textOf body⟩
    | _, _, _ => .error .shape
  | _ => .error .shape

/-! ## From tokens -/

/-- A field of a document, or one that is skipped. -/
inductive Field where
  | url
  | text
  | other
deriving DecidableEq

def Field.ofKey (key : String) : Field :=
  if key = "url" then .url else if key = "text" ∨ key = "body" then .text else .other

inductive Due where
  | start
  | firstItem
  | comma
  | secondItem
  | bracket
  | firstKey
  | key
  | colon (field : Field)
  | value (field : Field)
  | skipped (r : Json.Reader Unit)
  | separator

structure Reader where
  due : Due := .start
  url : Option String := none
  text : Option String := none

/-- A token where another kind of value is due. A scalar that cannot be built is refused for that. -/
def misfit {β : Type} : Token → Except Malformed β
  | .literal _ => .error .shape
  | .text s => s.built.bind fun _ => .error .shape
  | .number s => s.built.bind fun _ => .error .shape
  | .leftBracket => .error .shape
  | .leftBrace => .error .shape
  | .unreadable why => .error why
  | t => Json.unexpected t

def textStep : Token → Except Malformed String
  | .text s => s.built
  | t => misfit t

namespace Reader

def finish (r : Reader) : Progress Reader Document :=
  match r.url, r.text with
  | some url, some text => .ok (.inr ⟨url, text⟩)
  | _, _ => .error .shape

def has (r : Reader) : Field → Bool
  | .url => r.url.isSome
  | .text => r.text.isSome
  | .other => false

def keyStep (r : Reader) : Token → Progress Reader Document
  | .text s =>
    s.built.bind fun key =>
      let field := Field.ofKey key
      if r.has field then .error .shape else .ok (.inl { r with due := .colon field })
  | t => Json.unexpected t

def skipStep (r : Reader) (inner : Json.Reader Unit) (t : Token) : Progress Reader Document :=
  (inner.step Json.skipping t).map fun
    | .inl next => .inl { r with due := .skipped next }
    | .inr () => .inl { r with due := .separator }

def step (r : Reader) (t : Token) : Progress Reader Document :=
  match r.due, t with
  | .start, .leftBracket => .ok (.inl { r with due := .firstItem })
  | .start, .leftBrace => .ok (.inl { r with due := .firstKey })
  | .start, t => misfit t
  | .firstItem, .rightBracket => .error .shape
  | .firstItem, t => (textStep t).map fun s => .inl { r with due := .comma, url := some s }
  | .comma, .comma => .ok (.inl { r with due := .secondItem })
  | .comma, .rightBracket => .error .shape
  | .comma, t => Json.unexpected t
  | .secondItem, .rightBracket => .error .syntaxError
  | .secondItem, t => (textStep t).map fun s => .inl { r with due := .bracket, text := some s }
  | .bracket, .rightBracket => r.finish
  | .bracket, t => Json.unexpected t
  | .firstKey, .rightBrace => r.finish
  | .firstKey, t => r.keyStep t
  | .key, t => r.keyStep t
  | .colon field, .colon => .ok (.inl { r with due := .value field })
  | .colon _, t => Json.unexpected t
  | .value .url, t => (textStep t).map fun s => .inl { r with due := .separator, url := some s }
  | .value .text, t => (textStep t).map fun s => .inl { r with due := .separator, text := some s }
  | .value .other, t => r.skipStep {} t
  | .skipped inner, t => r.skipStep inner t
  | .separator, .comma => .ok (.inl { r with due := .key })
  | .separator, .rightBrace => r.finish
  | .separator, t => Json.unexpected t

end Reader

/-- The document of a text that holds one document and nothing else. -/
def read (text : List Text.Symbol) : Except Malformed Document :=
  (Json.feed Reader.step {} (Token.scan text)).bind Json.onlyEnding

/-! ## Lists of documents -/

/-- The state in the middle of an array of documents, which are collected last first. -/
inductive ListReader where
  | start
  | firstItem
  | item (done : List Document)
  | inside (done : List Document) (r : Reader)
  | separator (done : List Document)

namespace ListReader

def itemStep (done : List Document) (r : Reader) (t : Token) :
    Progress ListReader (List Document) :=
  (r.step t).map fun
    | .inl next => .inl (.inside done next)
    | .inr document => .inl (.separator (document :: done))

def step (s : ListReader) (t : Token) : Progress ListReader (List Document) :=
  match s, t with
  | .start, .leftBracket => .ok (.inl .firstItem)
  | .start, t => misfit t
  | .firstItem, .rightBracket => .ok (.inr [])
  | .firstItem, t => itemStep [] {} t
  | .item _, .rightBracket => .error .syntaxError
  | .item done, t => itemStep done {} t
  | .inside done r, t => itemStep done r t
  | .separator done, .comma => .ok (.inl (.item done))
  | .separator done, .rightBracket => .ok (.inr done.reverse)
  | .separator _, t => Json.unexpected t

end ListReader

def readAll (text : List Text.Symbol) : Except Malformed (List Document) :=
  (Json.feed ListReader.step .start (Token.scan text)).map (·.1)

end Document

end Retrieval
