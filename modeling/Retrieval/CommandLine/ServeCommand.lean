import Retrieval.CommandLine.IndexCommand
import Retrieval.Service
import Retrieval.Url.IpAddress

/-!
# The command that serves

* `ServeCommand` : what to index first, and where to listen;
* `ServeCommand.parse` : the command that the arguments ask for;
* `ServeCommand.run` : the service, and the address that it listens at.
-/

namespace Retrieval.CommandLine

open Url (IpAddress)

structure ServeCommand where
  corpus : Option String
  host : String
  port : Nat
  additive : Bool
  tokenizer : Tokenizer
  champions : Option Nat

/-- A service with the address that it listens at. -/
structure Listener where
  address : IpAddress
  port : Nat
  service : Service

/-! ## Addresses -/

def portBound : Nat := UInt16.size

def interfaceBound : Nat := UInt32.size

/-- The address of a text in brackets: words, and perhaps the number of an interface behind a percent sign. -/
def bracketed? (s : List Char) : Option IpAddress :=
  let (words, zone) := Text.cut '%' s
  if zone.all fun digits => digits.head?.any Char.isDigit && (Decimal.natural? interfaceBound (.ofList digits)).isSome
  then (IpAddress.words? words).map .long
  else none

/-- The address that a host names if it is one. -/
def addressOf? (host : String) : Option IpAddress :=
  match host.toList with
  | '[' :: rest =>
    match rest.reverse with
    | ']' :: inside => bracketed? inside.reverse
    | _ => none
  | s => (IpAddress.octets? s).map fun octets => .short (IpAddress.joinOctets octets)

namespace ServeCommand

/-! ## Parsing -/

def options : List OptionSpec :=
  [{ name := "corpus" }, { name := "host" }, numberOption "port" portBound, { name := "additive", isFlag := true },
   { name := "stem", isFlag := true }, { name := "stopwords", isFlag := true },
   numberOption "champions" Decimal.countBound]

def ofArguments (a : Arguments) : ServeCommand where
  corpus := a.value? "corpus"
  host := (a.value? "host").getD "0.0.0.0"
  port := ((a.value? "port").bind (Decimal.natural? portBound)).getD 8080
  additive := a.flag "additive"
  tokenizer := { stem := a.flag "stem", dropStopwords := a.flag "stopwords" }
  champions := (a.value? "champions").bind (Decimal.natural? Decimal.countBound)

def parse (args : List String) : Except Refusal ServeCommand := (Arguments.parse options args).map ofArguments

/-! ## Running -/

/-- The index to begin with: without a corpus an empty one. -/
def index (files : FileTree) (c : ServeCommand) : Except (String × Corpus.LoadError) Index := do
  let empty := Index.new c.tokenizer (if c.additive then .sum else .product)
  let index ← match c.corpus with
    | none => pure empty
    | some path =>
      match Corpus.load files path with
      | .ok documents => pure (empty.indexCorpus (documents.map Document.pair))
      | .error e => throw (path, e)
  pure (match c.champions with
    | some r => index.updateChampions r
    | none => index)

def run (settings : Service.Settings) (files : FileTree) (c : ServeCommand) : Outcome Listener :=
  match c.index files with
  | .error (path, e) => loadFailure path e
  | .ok index =>
    match Service.start index settings with
    | .error e => .failed e.message none
    | .ok service =>
      match addressOf? c.host with
      | some address => .done ⟨address, c.port, service⟩
      | none => .failed "invalid socket address syntax" none

end ServeCommand

def runServeCommand (settings : Service.Settings) (files : FileTree) (args : List String) : Outcome Listener :=
  match ServeCommand.parse args with
  | .error .usage => .usage
  | .error .help => .help
  | .ok command => command.run settings files

end Retrieval.CommandLine
