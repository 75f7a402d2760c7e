import Retrieval.Markup.Doctype
import Retrieval.Markup.RawText

/-!
# Tokens of markup

* `Token` : a stretch of text, a tag, a comment, a document type, or the end;
* `Reading` : how the text is to be read, which depends on the element it stands in;
* `Token.next` : the next token of a text, with what follows it.

Whatever the text is, it is made of tokens: what is no markup is text.
-/

namespace Retrieval.Markup

inductive Token where
  | text (s : List Char)
  /-- the character without a meaning, which is left out of most text -/
  | null
  | startTag (tag : Tag)
  | endTag (name : String)
  | comment
  | doctype (d : Doctype)
  /-- markup that brings nothing -/
  | nothing
  | eof
deriving Repr, DecidableEq

inductive Reading where
  /-- with tags and references -/
  | markup
  /-- with references, up to the end tag of an element -/
  | references (element : String)
  /-- as it stands, up to the end tag of an element -/
  | raw (element : String)
  | script
  /-- as it stands, to its end -/
  | plain
  /-- as it stands, up to the end of a section -/
  | section_
deriving Repr, DecidableEq

/-- A token, how to go on, and what is left to be read. -/
structure Reading.Result where
  token : Token
  reading : Reading
  rest : List Char

namespace Token

def afterBracket (s : List Char) : List Char := (s.dropWhile (· ≠ '>')).tail

def afterDashes : List Char → List Char
  | '-' :: '-' :: '>' :: rest => rest
  | '-' :: '-' :: '!' :: '>' :: rest => rest
  | _ :: rest => afterDashes rest
  | [] => []

def afterComment : List Char → List Char
  | '>' :: rest => rest
  | '-' :: '>' :: rest => rest
  | s => afterDashes s

def sectionOpening : List Char := "[CDATA[".toList

/-- The token after an exclamation mark. `foreign` says that sections of text are admitted. -/
def declaration (foreign : Bool) (s : List Char) : Reading.Result :=
  match s with
  | '-' :: '-' :: rest => ⟨.comment, .markup, afterComment rest⟩
  | s =>
    match Doctype.afterKeyword? "doctype" s with
    | some rest => ⟨.doctype (.ofText (rest.takeWhile (· ≠ '>'))), .markup, afterBracket rest⟩
    | none =>
      if foreign ∧ s.take sectionOpening.length = sectionOpening then
        ⟨.nothing, .section_, s.drop sectionOpening.length⟩
      else ⟨.comment, .markup, afterBracket s⟩

def ending (s : List Char) : Reading.Result :=
  match s with
  | [] => ⟨.text ['<', '/'], .markup, []⟩
  | '>' :: rest => ⟨.nothing, .markup, rest⟩
  | c :: _ =>
    if c.isAlpha then
      match Tag.read? s with
      | some (tag, rest) => ⟨.endTag tag.name, .markup, rest⟩
      | none => ⟨.nothing, .markup, []⟩
    else ⟨.comment, .markup, afterBracket s⟩

def markup (foreign : Bool) (s : List Char) : Reading.Result :=
  match s with
  | '!' :: rest => declaration foreign rest
  | '/' :: rest => ending rest
  | '?' :: _ => ⟨.comment, .markup, afterBracket s⟩
  | c :: _ =>
    if c.isAlpha then
      match Tag.read? s with
      | some (tag, rest) => ⟨.startTag tag, .markup, rest⟩
      | none => ⟨.nothing, .markup, []⟩
    else ⟨.text ['<'], .markup, s⟩
  | [] => ⟨.text ['<'], .markup, []⟩

/-- Whether a character of a text stands for itself or belongs to a reference. -/
def isPlain (c : Char) : Bool := c != '<' && c != '\x00'

def nextOfMarkup (foreign : Bool) (s : List Char) : Reading.Result :=
  match s with
  | '<' :: rest => markup foreign rest
  | '\x00' :: rest => ⟨.null, .markup, rest⟩
  | s => ⟨.text (Reference.decode .text (s.takeWhile isPlain)), .markup, s.dropWhile isPlain⟩

/-- The next token where the text ends at an end tag. `parts` divides the text there, `again` is how it is read. -/
def nextOfRaw (parts : List Char × List Char) (again : Reading) (resolve : List Char → List Char) : Reading.Result :=
  match parts with
  | ([], rest) => ending (rest.drop 2)
  | (inside, rest) => ⟨.text (resolve inside), again, rest⟩

def nextOfSection (s : List Char) : Reading.Result :=
  match s with
  | ']' :: ']' :: '>' :: rest => ⟨.nothing, .markup, rest⟩
  | '\x00' :: rest => ⟨.null, .section_, rest⟩
  | ']' :: rest => ⟨.text [']'], .section_, rest⟩
  | s => ⟨.text (s.takeWhile isInside), .section_, s.dropWhile isInside⟩
where
  /-- Whether a character neither ends the section nor is left out. -/
  isInside (c : Char) : Bool := c != ']' && c != '\x00'

/-- The next token of a text, how to go on, and what is left. `foreign` says that sections of text are admitted. -/
def next (reading : Reading) (foreign : Bool) (s : List Char) : Reading.Result :=
  if s = [] then ⟨.eof, reading, []⟩
  else
    match reading with
    | .markup => nextOfMarkup foreign s
    | .references element => nextOfRaw (RawText.untilEndTag element s) reading (Reference.decode .text)
    | .raw element => nextOfRaw (RawText.untilEndTag element s) reading id
    | .script => nextOfRaw (RawText.script s) reading id
    | .plain => ⟨.text (s.map Tag.valueChar), .plain, []⟩
    | .section_ => nextOfSection s

end Token

end Retrieval.Markup
