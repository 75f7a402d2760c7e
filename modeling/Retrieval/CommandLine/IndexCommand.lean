import Retrieval.CommandLine.Arguments
import Retrieval.CommandLine.Outcome
import Retrieval.Corpus
import Retrieval.Decimal.Fixed
import Retrieval.Query.Evaluation

/-!
# Commands on an index

Each command builds an index over a corpus and answers one question about it.

* `IndexCommand` : statistics, a query, or the champions of a term;
* `IndexCommand.parse` : the command that the arguments ask for;
* `IndexCommand.run` : its answer.
-/

namespace Retrieval.CommandLine

/-- The corpus and how to index it. -/
structure IndexOptions where
  input : String
  additive : Bool
  tokenizer : Tokenizer

/-- A question about an index. -/
inductive Question where
  | stats (json : Bool)
  | query (text : String)
  | champions (term : String) (r : Nat)

/-- A question with the index to ask. -/
structure IndexCommand where
  options : IndexOptions
  question : Question

structure Statistics where
  documents : Nat
  terms : Nat
  weighting : Weighting
  meanLength : Float

/-- What a command prints: lines of text, or statistics for a machine. -/
inductive Answer where
  | text (lines : List String)
  | record (statistics : Statistics)

/-! ## Parsing -/

def indexOptions : List OptionSpec :=
  [{ name := "input", isRequired := true }, { name := "additive", isFlag := true },
   { name := "stem", isFlag := true }, { name := "stopwords", isFlag := true }]

namespace IndexCommand

def optionsOf (a : Arguments) : IndexOptions where
  input := (a.value? "input").getD ""
  additive := a.flag "additive"
  tokenizer := { stem := a.flag "stem", dropStopwords := a.flag "stopwords" }

def parseWith (specs : List OptionSpec) (args : List String) (question : Arguments → Question) :
    Except Refusal IndexCommand := do
  let a ← Arguments.parse (indexOptions ++ specs) args
  pure ⟨optionsOf a, question a⟩

def parse : List String → Except Refusal IndexCommand
  | "stats" :: args =>
    parseWith [{ name := "json", isFlag := true }] args fun a => .stats (a.flag "json")
  | "query" :: args =>
    parseWith [{ name := "query", letter := some 'q', isRequired := true }] args fun a =>
      .query ((a.value? "query").getD "")
  | "champions" :: args =>
    parseWith [{ name := "term", isRequired := true }, numberOption "r" Decimal.countBound] args fun a =>
      .champions ((a.value? "term").getD "")
        (((a.value? "r").bind (Decimal.natural? Decimal.countBound)).getD Index.defaultChampions)
  | "help" :: _ => .error .help
  | "-h" :: _ => .error .help
  | "--help" :: _ => .error .help
  | _ => .error .usage

end IndexCommand

/-! ## Answers -/

def IndexOptions.emptyIndex (o : IndexOptions) : Index :=
  .new o.tokenizer (if o.additive then .sum else .product)

/-- The mean of the cached lengths, zero if there are none. -/
def meanLength (index : Index) : Float :=
  let lengths := index.vocabulary.docs.ids.filterMap fun id => (index.store.length id).toOption
  if lengths.isEmpty then 0.0 else lengths.foldl (· + ·) (-0.0) / lengths.length.toFloat

def statistics (index : Index) : Statistics where
  documents := index.vocabulary.size
  terms := index.store.termCount
  weighting := index.store.weighting
  meanLength := meanLength index

def Statistics.line (s : Statistics) : String :=
  "docs=" ++ toString s.documents ++ " terms=" ++ toString s.terms ++ " weighting=" ++
    s.weighting.name ++ " mean_length=" ++ Decimal.fixed 4 s.meanLength

def urlText (index : Index) (id : DocId) : String := (index.vocabulary.url? id).getD "?"

def queryLines (index : Index) (query : String) : Except Query.QueryError (List String) :=
  (index.evaluate query).map fun docs =>
    docs.ids.map fun id => toString id ++ "\t" ++ urlText index id

/-- The champions of a term with their weights, a line each, or why there are none. -/
def championLines (index : Index) (term : String) (r : Nat) : Except String (List String) :=
  let index := index.updateChampions r
  match index.tokenizer.term? term with
  | none => .error (Text.quote term ++ " does not produce an index term")
  | some normalized =>
    match index.store.championsOf? normalized with
    | none => .error ("term " ++ Text.quote normalized ++ " does not occur in the corpus")
    | some list =>
      .ok (list.map fun id =>
        toString id ++ "\t" ++ Decimal.fixed 4 (index.store.weight normalized id) ++ "\t" ++
          urlText index id)

def Question.answer (index : Index) : Question → Outcome Answer
  | .stats true => .done (.record (statistics index))
  | .stats false => .done (.text [(statistics index).line])
  | .query text =>
    match queryLines index text with
    | .ok lines => .done (.text lines)
    | .error e => .failed ("query " ++ Text.quote text) (some e.message)
  | .champions term r =>
    match championLines index term r with
    | .ok lines => .done (.text lines)
    | .error message => .failed message none

def loadFailure {α : Type} (path : String) (e : Corpus.LoadError) : Outcome α :=
  .failed ("loading corpus from " ++ path) (some e.message)

def IndexCommand.run (files : FileTree) (c : IndexCommand) : Outcome Answer :=
  match Corpus.load files c.options.input with
  | .error e => loadFailure c.options.input e
  | .ok documents => c.question.answer (c.options.emptyIndex.indexCorpus (documents.map Document.pair))

def runIndexCommand (files : FileTree) (args : List String) : Outcome Answer :=
  match IndexCommand.parse args with
  | .error .usage => .usage
  | .error .help => .help
  | .ok command => command.run files

end Retrieval.CommandLine
