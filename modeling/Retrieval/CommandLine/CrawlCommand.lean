import Retrieval.CommandLine.Arguments
import Retrieval.CommandLine.Outcome
import Retrieval.Crawl
import Retrieval.Crawl.Seeds
import Retrieval.FileTree
import Retrieval.Http.Request

/-!
# The command that crawls

* `CrawlCommand` : where the seeds are, where the records go, and how to crawl;
* `CrawlCommand.parse` : the command that the arguments ask for;
* `CrawlCommand.run` : the crawl of a web from the seeds in a file.
-/

namespace Retrieval.CommandLine

structure CrawlCommand where
  seeds : String
  output : String
  settings : Crawl.Settings
  workers : Nat
  agent : String

/-- A crawl that was made, and how many seeds it had. -/
structure CrawlReport where
  seeds : Nat
  crawl : Crawl

namespace CrawlCommand

/-! ## Parsing -/

def numbers : List (String × Nat) :=
  [("max-docs", 1000), ("max-per-host", 10), ("concurrency", 16), ("timeout-secs", 12), ("delay-ms", 1000),
   ("dup-threshold", 2)]

def options : List OptionSpec :=
  [{ name := "seeds", isRequired := true }, { name := "output" }, { name := "user-agent" },
   { name := "same-host-only", isFlag := true }] ++
  numbers.map fun n => numberOption n.1 Decimal.countBound

def numberOf (a : Arguments) (name : String) : Nat :=
  ((a.value? name).bind (Decimal.natural? Decimal.countBound)).getD ((numbers.lookup name).getD 0)

/-- The name under which pages are asked for if none is given. -/
def defaultAgent : String := "ir-crawler/0.1 (+https://example.com/bot)"

def ofArguments (a : Arguments) : CrawlCommand where
  seeds := (a.value? "seeds").getD ""
  output := (a.value? "output").getD "./sample_data/crawl.jsonl"
  settings := {
    maxDocs := numberOf a "max-docs"
    limits := ⟨numberOf a "max-per-host", numberOf a "delay-ms"⟩
    threshold := numberOf a "dup-threshold" }
  workers := numberOf a "concurrency"
  agent := (a.value? "user-agent").getD defaultAgent

def parse (args : List String) : Except Refusal CrawlCommand := (Arguments.parse options args).map ofArguments

/-! ## Running -/

def pathFailure {α : Type} (e : FileTree.PathError) : Outcome α := .failed e.message none

def crawlFrom (web : Web) (c : CrawlCommand) (bytes : List UInt8) : Outcome CrawlReport :=
  match Seeds.read bytes with
  | none => .failed "stream did not contain valid UTF-8" none
  | some [] => .failed "no valid seeds" none
  | some seeds => .done ⟨seeds.length, Crawl.run c.settings web seeds⟩

/-- Runs the command in a folder. The file of the records is emptied before the seeds are read. -/
def run (web : Web) (files : FileTree) (c : CrawlCommand) : Outcome CrawlReport :=
  let files := files.makeFolders [] (FileTree.parentSteps c.output)
  if !c.agent.toList.all Http.admissible then .failed "builder error" (some "failed to parse header value")
  else
    match files.writeFile c.output [] with
    | .error e => pathFailure e
    | .ok files =>
      match files.readFile c.seeds with
      | .error e => pathFailure e
      | .ok bytes => crawlFrom web c bytes

end CrawlCommand

def runCrawlCommand (web : Web) (files : FileTree) (args : List String) :
    Outcome (CrawlCommand × CrawlReport) :=
  match CrawlCommand.parse args with
  | .error .usage => .usage
  | .error .help => .help
  | .ok command => (command.run web files).map (command, ·)

end Retrieval.CommandLine
