import Retrieval.Query.Evaluation
import Retrieval.Service.Call
import Retrieval.Service.Origin

/-!
# The search service

The service answers requests about one index. Two kinds of requests change the index, and both need a token.

* `Service` : the index and the settings;
* `Service.perform` : what a call is answered with, and the index afterwards;
* `Service.answer` : the answer to a request, and the service afterwards.
-/

namespace Retrieval

open Service (Call Content Fault Hit OriginRule SettingError)

structure Service.Settings where
  adminToken : Option String := none
  origins : Option String := none

/-- An answer. The body is left out where the method or the protocol says so. -/
structure Service.Answer where
  status : Nat
  body : Option (Except Fault Content)
  allowedOrigin : Option String

/-- An index with the rules for requests to it. -/
structure Service where
  index : Index
  adminToken : Option String := none
  origins : OriginRule := .any

namespace Service

def start (index : Index) (settings : Settings) : Except SettingError Service := do
  pure { index, adminToken := settings.adminToken, origins := ← OriginRule.ofSetting settings.origins }

/-! ## Reading the index -/

def hits (index : Index) (docs : List DocId) : List Hit :=
  docs.filterMap fun doc => (index.vocabulary.url? doc).map (Hit.mk doc)

def maxResults : Nat := 1000

/-- How many results a search shows if `k` are asked for. -/
def shown (k : Nat) : Nat := max 1 (min k maxResults)

/-- The documents that match a query, the first `k` of them with their addresses. -/
def search (index : Index) (query : String) (k : Nat) : Except Fault Content :=
  match index.evaluate query with
  | .error why => .error (.badQuery why)
  | .ok docs => .ok (.matching query docs.ids.length (hits index (docs.ids.take (shown k))))

def document (index : Index) (doc : DocId) : Except Fault Content :=
  match index.vocabulary.url? doc with
  | none => .error .unknownDocument
  | some url => .ok (.document doc url (index.store.length doc).toOption)

/-- The champions of a term. What is no single term is looked up as the empty one. -/
def champions (index : Index) (term : String) : Except Fault Content :=
  let normalized := (index.tokenizer.term? term).getD ""
  match index.store.championsOf? normalized with
  | none => .error (.noChampions term)
  | some list => .ok (.champions normalized index.store.championsStale (hits index list))

/-! ## Changing the index -/

/-- Admits a token if it is the one that is set. -/
def authorize (required : Option String) (token : String) : Except Fault Unit :=
  match required with
  | none => .error .adminDisabled
  | some secret => if token = secret then .ok () else .error .wrongToken

def changed (index : Index) : Call → Index
  | .batch _ documents => index.indexCorpus (documents.map Document.pair)
  | .rebuild _ r => index.updateChampions r
  | _ => index

def reportBatch (index : Index) (documents : List Document) : Content :=
  .indexed documents.length index.vocabulary.size index.store.termCount index.store.championsStale

/-- What a call is answered with, and the index afterwards. -/
def perform (required : Option String) (index : Index) (call : Call) :
    Except Fault Content × Index :=
  match call with
  | .alive => (.ok .alive, index)
  | .search query k => (search index query k, index)
  | .document doc => (document index doc, index)
  | .champions term => (champions index term, index)
  | .batch token documents =>
    match authorize required token with
    | .error fault => (.error fault, index)
    | .ok () =>
      let next := changed index call
      (.ok (reportBatch next documents), next)
  | .rebuild token r =>
    match authorize required token with
    | .error fault => (.error fault, index)
    | .ok () =>
      let next := changed index call
      (.ok (.rebuilt r next.store.termCount), next)

/-! ## Requests -/

def handle (s : Service) (r : Http.Request) : Except Fault Content × Index :=
  match Call.ofRequest r with
  | .error fault => (.error fault, s.index)
  | .ok call => perform s.adminToken s.index call

def statusOf : Except Fault Content → Nat
  | .ok _ => 200
  | .error fault => fault.status

/-- The answer to a request, and the service afterwards. A request for the options of any path is answered
with nothing but the rule for its origin. -/
def answer (s : Service) (r : Http.Request) : Answer × Service :=
  let allowedOrigin := s.origins.allowed? (r.header? "origin")
  if r.method = "OPTIONS" then (⟨200, none, allowedOrigin⟩, s)
  else
    let (outcome, index) := s.handle r
    let body := if r.method = "HEAD" then none else some outcome
    (⟨statusOf outcome, body, allowedOrigin⟩, { s with index })

end Service

end Retrieval
