import Retrieval.Corpus.Document
import Retrieval.FileTree
import Retrieval.Text.Blank
import Retrieval.Text.Lines

/-!
# Corpora

A corpus is a file with one document a line, a file with one document or an array of them, or a folder of
such files, which are taken in the order of their paths.

* `Corpus.Format` : the two kinds of files, told by their extensions;
* `Corpus.readFile` : the documents of a file;
* `Corpus.load` : the documents that a path leads to.
-/

namespace Retrieval.Corpus

open Json (Malformed Value)

inductive LoadError where
  | unsupported (path : String)
  | notText (path : String)
  | malformed (path : String) (why : Malformed)
deriving Repr, DecidableEq

def LoadError.message : LoadError → String
  | .unsupported path => path ++ " is neither a .json/.jsonl file nor a directory"
  | .notText path => "failed to read " ++ path
  | .malformed path _ => "malformed document in " ++ path

/-- A document a line, or one JSON value. -/
inductive Format where
  | lines
  | value
deriving DecidableEq

def Format.ofPath? (path : String) : Option Format :=
  match (FileTree.fileName? path).bind FileTree.extension? with
  | some "jsonl" => some .lines
  | some "json" => some .value
  | _ => none

/-! ## Files -/

/-- The document of a line, none for a blank line. -/
def readLine (path : String) (bytes : List UInt8) : Except LoadError (Option Document) :=
  match Text.decode bytes with
  | none => .error (.notText path)
  | some line =>
    if line.all Text.isBlank then .ok none
    else
      match Document.read (Text.symbolsOf line) with
      | .ok document => .ok (some document)
      | .error why => .error (.malformed path why)

/-- The documents of a value: of the items of an array, or of one object. Any other value holds none. -/
def ofValue : Value → Except Malformed (List Document)
  | .array items => items.mapM Document.ofValue
  | .object fields => do pure [← Document.ofValue (.object fields)]
  | _ => .ok []

def readFile (path : String) (format : Format) (bytes : List UInt8) :
    Except LoadError (List Document) :=
  match format with
  | .lines => do
    let documents ← (Text.lines bytes).mapM (readLine path)
    pure (documents.filterMap id)
  | .value =>
    match (Value.read (Text.symbols bytes)).bind ofValue with
    | .ok documents => .ok documents
    | .error why => .error (.malformed path why)

/-- The documents of a file; a file of neither format holds none. -/
def readAny (file : String × List UInt8) : Except LoadError (List Document) :=
  match Format.ofPath? file.1 with
  | some format => readFile file.1 format file.2
  | none => .ok []

/-! ## Paths -/

def load (tree : FileTree) (path : String) : Except LoadError (List Document) :=
  match tree.find? path, Format.ofPath? path with
  | some (.folder entries), _ => do
    let parts ← (FileTree.files path (.folder entries)).mapM readAny
    pure parts.flatten
  | some (.file bytes), some format => readFile path format bytes
  | _, _ => .error (.unsupported path)

end Retrieval.Corpus
