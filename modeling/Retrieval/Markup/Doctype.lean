import Retrieval.Markup.Tag

/-!
# Document types

A document type says by which rules a document was written. Old ones let tables stand in paragraphs.

* `Doctype.ofText` : the document type of the text in its declaration;
* `Doctype.isOld` : whether it asks for the old rules.
-/

namespace Retrieval.Markup

/-- The name and the identifiers of a document type, in lower case. -/
structure Doctype where
  name : String := ""
  publicId : Option String := none
  systemId : Option String := none
  malformed : Bool := false
deriving Repr, DecidableEq

namespace Doctype

def skipSpaces (s : List Char) : List Char := s.dropWhile isSpace

def afterKeyword? (keyword : String) (s : List Char) : Option (List Char) :=
  if (s.take keyword.length).map Char.toLower = keyword.toList then some (s.drop keyword.length) else none

/-- The text in quotes at the start of a text, with what follows it, if the closing quote is there. -/
def quoted? : List Char → Option (String × Option (List Char))
  | [] => none
  | q :: rest =>
    if q = '"' ∨ q = '\'' then
      let inside := (rest.takeWhile (· ≠ q)).map Tag.nameChar
      some (.ofList inside, (rest.dropWhile (· ≠ q)).tail?)
    else none

/-- A document type whose system identifier is in a text, if there is any. -/
def withSystemId (d : Doctype) (s : List Char) : Doctype :=
  match quoted? s with
  | some (id, rest) => { d with systemId := some id, malformed := rest.isNone }
  | none => { d with malformed := true }

/-- A document type whose public identifier is in a text, and perhaps a system identifier behind it. -/
def withPublicId (d : Doctype) (s : List Char) : Doctype :=
  match quoted? s with
  | none => { d with malformed := true }
  | some (id, none) => { d with publicId := some id, malformed := true }
  | some (id, some rest) =>
    let d := { d with publicId := some id }
    let rest := skipSpaces rest
    if rest = [] then d else d.withSystemId rest

def ofText (s : List Char) : Doctype :=
  let s := skipSpaces s
  let d : Doctype := { name := .ofList ((s.takeWhile (!isSpace ·)).map Tag.nameChar) }
  let rest := skipSpaces (s.dropWhile (!isSpace ·))
  if s = [] then { d with malformed := true }
  else if rest = [] then d
  else
    match afterKeyword? "public" rest with
    | some ids => d.withPublicId (skipSpaces ids)
    | none =>
      match afterKeyword? "system" rest with
      | some ids => d.withSystemId (skipSpaces ids)
      | none => { d with malformed := true }

/-! ## Old document types -/

/-- Public identifiers of old document types begin so. -/
def oldBeginnings : List String :=
  ["-//advasoft ltd//dtd html 3.0 aswedit + extensions//", "-//as//dtd html 3.0 aswedit + extensions//",
   "-//ietf//dtd html 2.0 level 1//", "-//ietf//dtd html 2.0 level 2//", "-//ietf//dtd html 2.0 strict level 1//",
   "-//ietf//dtd html 2.0 strict level 2//", "-//ietf//dtd html 2.0 strict//", "-//ietf//dtd html 2.0//",
   "-//ietf//dtd html 2.1e//", "-//ietf//dtd html 3.0//", "-//ietf//dtd html 3.2 final//",
   "-//ietf//dtd html 3.2//", "-//ietf//dtd html 3//", "-//ietf//dtd html level 0//",
   "-//ietf//dtd html level 1//", "-//ietf//dtd html level 2//", "-//ietf//dtd html level 3//",
   "-//ietf//dtd html strict level 0//", "-//ietf//dtd html strict level 1//",
   "-//ietf//dtd html strict level 2//", "-//ietf//dtd html strict level 3//", "-//ietf//dtd html strict//",
   "-//ietf//dtd html//", "-//metrius//dtd metrius presentational//",
   "-//microsoft//dtd internet explorer 2.0 html strict//", "-//microsoft//dtd internet explorer 2.0 html//",
   "-//microsoft//dtd internet explorer 2.0 tables//", "-//microsoft//dtd internet explorer 3.0 html strict//",
   "-//microsoft//dtd internet explorer 3.0 html//", "-//microsoft//dtd internet explorer 3.0 tables//",
   "-//netscape comm. corp.//dtd html//", "-//netscape comm. corp.//dtd strict html//",
   "-//o'reilly and associates//dtd html 2.0//", "-//o'reilly and associates//dtd html extended 1.0//",
   "-//o'reilly and associates//dtd html extended relaxed 1.0//",
   "-//softquad software//dtd hotmetal pro 6.0::19990601::extensions to html 4.0//",
   "-//softquad//dtd hotmetal pro 4.0::19971010::extensions to html 4.0//", "-//spyglass//dtd html 2.0 extended//",
   "-//sq//dtd html 2.0 hotmetal + extensions//", "-//sun microsystems corp.//dtd hotjava html//",
   "-//sun microsystems corp.//dtd hotjava strict html//", "-//w3c//dtd html 3 1995-03-24//",
   "-//w3c//dtd html 3.2 draft//", "-//w3c//dtd html 3.2 final//", "-//w3c//dtd html 3.2//",
   "-//w3c//dtd html 3.2s draft//", "-//w3c//dtd html 4.0 frameset//", "-//w3c//dtd html 4.0 transitional//",
   "-//w3c//dtd html experimental 19960712//", "-//w3c//dtd html experimental 970421//", "-//w3c//dtd w3 html//",
   "-//w3o//dtd w3 html 3.0//", "-//webtechs//dtd mozilla html 2.0//", "-//webtechs//dtd mozilla html//"]

/-- Public identifiers of old document types that are written in full. -/
def oldPublicIds : List String :=
  ["-//w3o//dtd w3 html strict 3.0//en//", "-/w3c/dtd html 4.0 transitional/en", "html"]

/-- Public identifiers of document types that are old if no system identifier is given begin so. -/
def loneBeginnings : List String :=
  ["-//w3c//dtd html 4.01 frameset//", "-//w3c//dtd html 4.01 transitional//"]

def beginsWithAny (beginnings : List String) (s : String) : Bool :=
  beginnings.any fun beginning => s.startsWith beginning

/-- Whether a document type asks for the old rules. -/
def isOld (d : Doctype) : Bool :=
  d.malformed || d.name != "html" ||
    d.publicId.any fun id =>
      oldPublicIds.contains id || beginsWithAny oldBeginnings id ||
        (d.systemId.isNone && beginsWithAny loneBeginnings id)

end Doctype

end Retrieval.Markup
