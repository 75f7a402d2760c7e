import Retrieval.Json.Token
import Retrieval.Query.Formula
import Retrieval.Index.DocSet

/-!
# Replies

* `Content` : what a request that succeeds is answered with;
* `Fault` : why a request fails, with its `status` and, for the faults of the service itself, its `message?`.
-/

namespace Retrieval.Service

/-- A document in a list of results. -/
structure Hit where
  doc : DocId
  url : String
deriving Repr, DecidableEq

/-- What a request that succeeds is answered with. -/
inductive Content where
  | alive
  | matching (query : String) (total : Nat) (hits : List Hit)
  | document (doc : DocId) (url : String) (length : Option Float)
  | champions (term : String) (stale : Bool) (hits : List Hit)
  | indexed (documents known terms : Nat) (stale : Bool)
  | rebuilt (r terms : Nat)

inductive Fault where
  | unknownPath
  | wrongMethod
  | badParameter
  | wrongType
  | tooLarge
  | badBody (why : Json.Malformed)
  | adminDisabled
  | wrongToken
  | badQuery (why : Query.QueryError)
  | unknownDocument
  | noChampions (term : String)

namespace Fault

def status : Fault → Nat
  | .unknownPath => 404
  | .wrongMethod => 405
  | .badParameter => 400
  | .wrongType => 415
  | .tooLarge => 413
  | .badBody .shape => 422
  | .badBody _ => 400
  | .adminDisabled => 401
  | .wrongToken => 401
  | .badQuery _ => 400
  | .unknownDocument => 404
  | .noChampions _ => 404

/-- The text of a failure that the service explains. -/
def message? : Fault → Option String
  | .adminDisabled => some "ADMIN_TOKEN not set"
  | .wrongToken => some "invalid admin token"
  | .badQuery why => some why.message
  | .unknownDocument => some "not found"
  | .noChampions term => some ("no champion list for " ++ Text.quote term)
  | _ => none

end Fault

end Retrieval.Service
