import Retrieval.Corpus.Document
import Retrieval.Decimal.Natural
import Retrieval.Http.MediaType
import Retrieval.Http.Request
import Retrieval.Index
import Retrieval.Service.Reply

/-!
# Calls

A call is a request that has been read: its path, method, parameters and body are as they should be. No state
is needed for that.

* `Call` : what a request asks for;
* `Call.ofRequest` : the call of a request, or why there is none.
-/

namespace Retrieval.Service

/-- What a request asks for. Calls that change the index bring a token. -/
inductive Call where
  | alive
  | search (query : String) (k : Nat)
  | document (doc : DocId)
  | champions (term : String)
  | batch (token : String) (documents : List Document)
  | rebuild (token : String) (r : Nat)

/-- A place that requests are sent to. Steps of the path are still encoded. -/
inductive Route where
  | alive
  | search
  | document (step : String)
  | champions (step : String)
  | batch
  | rebuild
deriving Repr, DecidableEq

namespace Route

def ofSteps? : List String → Option Route
  | ["", "health"] => some .alive
  | ["", "search"] => some .search
  | ["", "doc", step] => if step = "" then none else some (.document step)
  | ["", "champions", step] => if step = "" then none else some (.champions step)
  | ["", "index", "batch"] => some .batch
  | ["", "index", "champions"] => some .rebuild
  | _ => none

def changes : Route → Bool
  | .batch | .rebuild => true
  | _ => false

/-- Whether the route takes a method. A request for the head of an answer is read like one for all of it. -/
def takes (route : Route) (method : String) : Bool :=
  if route.changes then method = "POST" else method = "GET" || method = "HEAD"

end Route

/-! ## Parameters -/

def idBound : Nat := UInt32.size

/-- How many results a search shows if nothing else is asked for. -/
def defaultResults : Nat := 10

def bodyLimit : Nat := 2 * 1024 * 1024

/-- The value of a parameter, which may be left out but not be given twice. -/
def parameter (fields : List (String × String)) (name : String) : Except Fault (Option String) :=
  match fields.filter (·.1 = name) with
  | [] => .ok none
  | [field] => .ok (some field.2)
  | _ => .error .badParameter

def required (fields : List (String × String)) (name : String) : Except Fault String := do
  match ← parameter fields name with
  | some value => pure value
  | none => throw .badParameter

def count (fields : List (String × String)) (name : String) (default_ : Nat) : Except Fault Nat := do
  match ← parameter fields name with
  | none => pure default_
  | some value =>
    match Decimal.natural? Decimal.countBound value with
    | some n => pure n
    | none => throw .badParameter

def stepText (step : String) : Except Fault String :=
  match Text.decode (Text.Percent.decode (Text.utf8 step)) with
  | some text => .ok text
  | none => .error .badParameter

def stepId (step : String) : Except Fault DocId := do
  match Decimal.natural? idBound (← stepText step) with
  | some id => pure id
  | none => throw .badParameter

def declaresJson (r : Http.Request) : Bool :=
  ((r.readableHeader? "content-type").bind Http.MediaType.parse?).any (·.isJson)

def bodyDocuments (r : Http.Request) : Except Fault (List Document) :=
  if !declaresJson r then .error .wrongType
  else if bodyLimit < r.body.utf8ByteSize then .error .tooLarge
  else
    match Document.readAll (Text.symbolsOf r.body) with
    | .ok documents => .ok documents
    | .error why => .error (.badBody why)

/-- The token that a request brings; one that is not readable counts as empty. -/
def tokenOf (r : Http.Request) : String := (r.readableHeader? "x-admin-token").getD ""

namespace Call

def ofRoute (r : Http.Request) : Route → Except Fault Call
  | .alive => .ok .alive
  | .search => do pure (.search (← required r.parameters "q") (← count r.parameters "k" defaultResults))
  | .document step => do pure (.document (← stepId step))
  | .champions step => do pure (.champions (← stepText step))
  | .batch => do pure (.batch (tokenOf r) (← bodyDocuments r))
  | .rebuild => do pure (.rebuild (tokenOf r) (← count r.parameters "r" Index.defaultChampions))

def ofRequest (r : Http.Request) : Except Fault Call :=
  match Route.ofSteps? r.steps with
  | none => .error .unknownPath
  | some route => if route.takes r.method then ofRoute r route else .error .wrongMethod

end Call

end Retrieval.Service
