import Retrieval.CommandLine.CrawlCommand
import Retrieval.CommandLine.IndexCommand
import Retrieval.CommandLine.ServeCommand

/-!
# The program

The first argument names a command: `index`, `crawl` or `serve`; the others are its arguments. Files are those of the
working folder. There is no network here: a crawl meets no pages, and a service only says where it would listen.
-/

open Retrieval
open Retrieval.CommandLine

/-- What stands at an entry of a folder. -/
partial def readEntry (entry : IO.FS.DirEntry) : IO FileTree := do
  if ← entry.path.isDir then
    let entries ← (← entry.path.readDir).mapM fun e => return (e.fileName, ← readEntry e)
    return .folder entries.toList
  else return .file (← IO.FS.readBinFile entry.path).data.toList

def workingFolder : IO FileTree := do
  let entries ← (← (← IO.currentDir).readDir).mapM fun e => return (e.fileName, ← readEntry e)
  return .folder entries.toList

def printLines (lines : List String) : IO Unit := lines.forM IO.println

/-- Says how a command ended, and with which code the program ends. -/
def finish {α : Type} (print : α → IO Unit) : Outcome α → IO UInt32
  | .usage => do IO.eprintln "the arguments are not understood"; return 2
  | .help => do IO.println "usage: index (stats | query | champions) | crawl | serve, with options"; return 0
  | .failed error cause => do
    IO.eprintln ("Error: " ++ error)
    if let some cause := cause then IO.eprintln ("\nCaused by:\n    " ++ cause)
    return 1
  | .done answer => do print answer; return 0

def recordLines (s : Statistics) : List String :=
  ["\x7b", "  \"num_docs\": " ++ toString s.documents ++ ",", "  \"num_terms\": " ++ toString s.terms ++ ",",
   "  \"weighting\": \"" ++ s.weighting.name ++ "\",", "  \"mean_length\": " ++ Decimal.fixed 10 s.meanLength, "\x7d"]

def printAnswer : Answer → IO Unit
  | .text lines => printLines lines
  | .record statistics => printLines (recordLines statistics)

def printReport (result : CrawlCommand × CrawlReport) : IO Unit := do
  let (command, report) := result
  let lines := report.crawl.records.toList.flatMap (·.line "")
  IO.FS.writeFile command.output (.ofList lines)
  IO.println ("crawl started seeds=" ++ toString report.seeds ++ " max_docs=" ++ toString command.settings.maxDocs ++
    " concurrency=" ++ toString command.workers ++ " output=" ++ command.output)
  IO.println ("crawl done emitted=" ++ toString report.crawl.records.size ++ " visited=" ++
    toString report.crawl.frontier.seen.size ++ " hosts=" ++ toString report.crawl.frontier.visited.size ++
    " output=" ++ command.output)

def printListener (l : Listener) : IO Unit :=
  IO.println ("server listening addr=" ++ .ofList l.address.render ++ ":" ++ toString l.port)

def environmentSettings : IO Service.Settings :=
  return { adminToken := ← IO.getEnv "ADMIN_TOKEN", origins := ← IO.getEnv "CORS_ALLOW_ORIGIN" }

def main : List String → IO UInt32
  | "index" :: args => do finish printAnswer (runIndexCommand (← workingFolder) args)
  | "crawl" :: args => do finish printReport (runCrawlCommand (fun _ => none) (← workingFolder) args)
  | "serve" :: args => do finish printListener (runServeCommand (← environmentSettings) (← workingFolder) args)
  | ["--help"] | ["-h"] => finish (fun (_ : Unit) => pure ()) .help
  | _ => finish (fun (_ : Unit) => pure ()) .usage
