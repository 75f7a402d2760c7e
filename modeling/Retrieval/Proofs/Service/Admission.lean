import Retrieval.Proofs.Index.History
import Retrieval.Proofs.Query.Parser
import Retrieval.Service

/-!
# Who may change the index

A change is made where a request asks for one and brings the token that is set. A request without a readable token counts
as one with an empty token.

* `Service.asksForChange` : the requests that are there to change the index;
* `Service.change?` : what a request asks to be done with it;
* `Service.admitted?` : what is done, given the token that is set;
* `Service.answer_of_admitted`, `Service.answer_of_not_admitted` : what a request is answered with, and the service
  afterwards;
* `Service.change_needs_token` : which token a successful request has brought;
* `Service.empty_token_admits_request_without_token` : where the empty token is set, none has to be brought.
-/

namespace Retrieval.Service

/-! ## Calls for a change -/

def Call.change? : Call → Option Index.Update
  | .batch _ documents => some (.corpus (documents.map Document.pair))
  | .rebuild _ r => some (.champions r)
  | _ => none

def Call.token? : Call → Option String
  | .batch token _ => some token
  | .rebuild token _ => some token
  | _ => none

theorem authorize_eq_ok_iff {required : Option String} {token : String} :
    authorize required token = .ok () ↔ required = some token := by
  cases required with
  | none => simp [authorize]
  | some secret => simp [authorize, eq_comm]

section Perform
variable {required : Option String} {index : Index} {call : Call} {u : Index.Update} {token : String}

theorem perform_of_token (hchange : call.change? = some u) (htoken : call.token? = some token)
    (hrequired : required = some token) : ∃ content, perform required index call = (.ok content, index.update u) := by
  have hauthorize : authorize required token = .ok () := authorize_eq_ok_iff.2 hrequired
  cases call with
  | batch token' documents =>
    cases hchange
    cases htoken
    rw [perform, hauthorize]
    exact ⟨_, rfl⟩
  | rebuild token' r =>
    cases hchange
    cases htoken
    rw [perform, hauthorize]
    exact ⟨_, rfl⟩
  | alive | search | document | champions => cases hchange

/-- A call that brings another token fails and leaves the index alone. -/
theorem perform_of_wrong_token (htoken : call.token? = some token) (hrequired : required ≠ some token) :
    ∃ fault, perform required index call = (.error fault, index) := by
  have hauthorize : ∃ fault, authorize required token = .error fault := by
    cases h : authorize required token with
    | error fault => exact ⟨fault, rfl⟩
    | ok _ => exact absurd (authorize_eq_ok_iff.1 h) hrequired
  obtain ⟨fault, hfault⟩ := hauthorize
  cases call with
  | batch token' documents =>
    cases htoken
    rw [perform, hfault]
    exact ⟨fault, rfl⟩
  | rebuild token' r =>
    cases htoken
    rw [perform, hfault]
    exact ⟨fault, rfl⟩
  | alive | search | document | champions => cases htoken

theorem perform_of_no_change (hchange : call.change? = none) : (perform required index call).2 = index := by
  cases call with
  | batch | rebuild => cases hchange
  | alive | search | document | champions => rfl

end Perform

/-! ## Requests for a change -/

def toChange (r : Http.Request) : Bool := (Route.ofSteps? r.steps).any Route.changes

def asksForChange (r : Http.Request) : Bool := r.method = "POST" && toChange r

/-- What a request asks to be done with the index, if it can be read. -/
def change? (r : Http.Request) : Option Index.Update := (Call.ofRequest r).toOption.bind Call.change?

theorem ofRequest_eq_ok_iff {r : Http.Request} {call : Call} :
    Call.ofRequest r = .ok call ↔ ∃ route, Route.ofSteps? r.steps = some route ∧ route.takes r.method = true ∧
      Call.ofRoute r route = .ok call := by
  unfold Call.ofRequest
  cases Route.ofSteps? r.steps with
  | none => simp
  | some route => cases htakes : route.takes r.method <;> simp [htakes]

/-- The calls of the places that change the index ask for a change and bring the token of the request. -/
theorem ofRoute_of_changes {r : Http.Request} {route : Route} {call : Call} (h : Call.ofRoute r route = .ok call)
    (hchanges : route.changes = true) : call.token? = some (tokenOf r) ∧ call.change?.isSome := by
  cases route with
  | batch =>
    obtain ⟨documents, -, hcall⟩ := bind_eq_ok_iff.1 h
    cases hcall
    exact ⟨rfl, rfl⟩
  | rebuild =>
    obtain ⟨count, -, hcall⟩ := bind_eq_ok_iff.1 h
    cases hcall
    exact ⟨rfl, rfl⟩
  | alive | search | document | champions => cases hchanges

theorem ofRoute_of_not_changes {r : Http.Request} {route : Route} {call : Call} (h : Call.ofRoute r route = .ok call)
    (hchanges : route.changes = false) : call.change? = none := by
  cases route with
  | alive =>
    cases h
    rfl
  | search =>
    obtain ⟨query, -, hrest⟩ := bind_eq_ok_iff.1 h
    obtain ⟨k, -, hcall⟩ := bind_eq_ok_iff.1 hrest
    cases hcall
    rfl
  | document step =>
    obtain ⟨doc, -, hcall⟩ := bind_eq_ok_iff.1 h
    cases hcall
    rfl
  | champions step =>
    obtain ⟨term, -, hcall⟩ := bind_eq_ok_iff.1 h
    cases hcall
    rfl
  | batch | rebuild => cases hchanges

/-- A request that can be read asks for a change just if it is there to make one, and brings its token then. -/
theorem ofRequest_cases {r : Http.Request} {call : Call} (h : Call.ofRequest r = .ok call) :
    (asksForChange r = true ∧ call.token? = some (tokenOf r) ∧ call.change?.isSome) ∨
      (asksForChange r = false ∧ call.change? = none) := by
  obtain ⟨route, hroute, htakes, hcall⟩ := ofRequest_eq_ok_iff.1 h
  have hto : toChange r = route.changes := by
    rw [toChange, hroute]
    rfl
  cases hchanges : route.changes with
  | true =>
    rw [Route.takes, hchanges, if_pos rfl] at htakes
    rw [asksForChange, hto, htakes, hchanges]
    exact Or.inl ⟨rfl, ofRoute_of_changes hcall hchanges⟩
  | false =>
    rw [asksForChange, hto, hchanges, Bool.and_false]
    exact Or.inr ⟨rfl, ofRoute_of_not_changes hcall hchanges⟩

/-- What is done with the index where a token is required: what the request asks for, if it brings this token. -/
def admitted? (required : Option String) (r : Http.Request) : Option Index.Update :=
  if required = some (tokenOf r) then change? r else none

theorem admitted?_eq_some_iff {required : Option String} {r : Http.Request} {u : Index.Update} :
    admitted? required r = some u ↔ required = some (tokenOf r) ∧ change? r = some u := by
  unfold admitted?
  split
  · next h => simp [h]
  · next h => simp [h]

/-! ## Answers -/

section Answer
variable {s : Service} {r : Http.Request} {u : Index.Update}

theorem handle_of_admitted (h : admitted? s.adminToken r = some u) :
    asksForChange r = true ∧ ∃ content, s.handle r = (.ok content, s.index.update u) := by
  obtain ⟨hrequired, hread⟩ := admitted?_eq_some_iff.1 h
  unfold handle
  cases hcall : Call.ofRequest r with
  | error fault =>
    rw [change?, hcall] at hread
    cases hread
  | ok call =>
    have hchange : call.change? = some u := by rwa [change?, hcall] at hread
    rcases ofRequest_cases hcall with ⟨hasks, htoken, -⟩ | ⟨-, hnone⟩
    · exact ⟨hasks, perform_of_token hchange htoken hrequired⟩
    · rw [hchange] at hnone
      cases hnone

theorem handle_of_not_admitted (h : admitted? s.adminToken r = none) :
    (s.handle r).2 = s.index ∧ (asksForChange r = true → ∃ fault, (s.handle r).1 = .error fault) := by
  unfold handle
  cases hcall : Call.ofRequest r with
  | error fault => exact ⟨rfl, fun _ => ⟨fault, rfl⟩⟩
  | ok call =>
    rcases ofRequest_cases hcall with ⟨-, htoken, hsome⟩ | ⟨hasks, hnone⟩
    · have hrequired : s.adminToken ≠ some (tokenOf r) := by
        intro hrequired
        rw [admitted?, if_pos hrequired, change?, hcall] at h
        have hnone : call.change? = none := h
        rw [hnone] at hsome
        cases hsome
      obtain ⟨fault, hperform⟩ : ∃ fault, perform s.adminToken s.index call = (.error fault, s.index) :=
        perform_of_wrong_token htoken hrequired
      exact ⟨congrArg Prod.snd hperform, fun _ => ⟨fault, congrArg Prod.fst hperform⟩⟩
    · refine ⟨perform_of_no_change hnone, fun htrue => ?_⟩
      rw [hasks] at htrue
      cases htrue

theorem Fault.status_ne_ok (fault : Fault) : fault.status ≠ 200 := by
  cases fault with
  | badBody why => cases why <;> decide
  | _ => simp [status]

theorem ne_options_of_asksForChange (h : asksForChange r = true) : r.method ≠ "OPTIONS" := by
  rw [asksForChange, Bool.and_eq_true, decide_eq_true_iff] at h
  rw [h.1]
  decide

theorem answer_of_admitted (h : admitted? s.adminToken r = some u) :
    asksForChange r = true ∧ (s.answer r).1.status = 200 ∧ (s.answer r).2 = { s with index := s.index.update u } := by
  obtain ⟨hasks, content, hhandle⟩ := handle_of_admitted h
  rw [answer, if_neg (ne_options_of_asksForChange hasks), hhandle]
  exact ⟨hasks, rfl, rfl⟩

/-- A request that is not admitted leaves the service as it is, and it fails if it is there to make a change. -/
theorem answer_of_not_admitted (h : admitted? s.adminToken r = none) :
    (s.answer r).2 = s ∧ (asksForChange r = true → (s.answer r).1.status ≠ 200) := by
  obtain ⟨hindex, hfault⟩ := handle_of_not_admitted h
  by_cases hmethod : r.method = "OPTIONS"
  · rw [answer, if_pos hmethod]
    exact ⟨rfl, fun hasks => absurd hmethod (ne_options_of_asksForChange hasks)⟩
  · rw [answer, if_neg hmethod]
    refine ⟨congrArg (fun index => { s with index }) hindex, fun hasks => ?_⟩
    obtain ⟨fault, hfault⟩ := hfault hasks
    change statusOf (s.handle r).1 ≠ 200
    rw [hfault]
    exact fault.status_ne_ok

theorem status_eq_ok_iff (hasks : asksForChange r = true) :
    (s.answer r).1.status = 200 ↔ (admitted? s.adminToken r).isSome := by
  cases h : admitted? s.adminToken r with
  | some u => exact iff_of_true (answer_of_admitted h).2.1 rfl
  | none => exact iff_of_false ((answer_of_not_admitted h).2 hasks) Bool.false_ne_true

end Answer

/-! ## Tokens -/

/-- The token of a request is that of its header; the empty one is also that of a request without a readable header. -/
theorem tokenOf_eq_iff {r : Http.Request} {secret : String} :
    tokenOf r = secret ↔ r.readableHeader? "x-admin-token" = some secret ∨
      secret = "" ∧ r.readableHeader? "x-admin-token" = none := by
  unfold tokenOf
  cases r.readableHeader? "x-admin-token" with
  | none => simp [eq_comm]
  | some token => simp

/-- **A change needs the token that is set.** A request that is there to change the index succeeds just if it can be read,
a token is set, and the request brings this token in a readable header; where the empty token is set, a request without a
readable header succeeds too. If it does not succeed, nothing changes. So it never succeeds without a readable header
unless the empty token is set. -/
theorem change_needs_token (s : Service) (r : Http.Request) (hasks : asksForChange r = true) :
    ((s.answer r).1.status = 200 ↔ (change? r).isSome ∧ ∃ secret, s.adminToken = some secret ∧
      (r.readableHeader? "x-admin-token" = some secret ∨
        secret = "" ∧ r.readableHeader? "x-admin-token" = none)) ∧
    ((s.answer r).1.status ≠ 200 → (s.answer r).2 = s) ∧
    (r.readableHeader? "x-admin-token" = none → s.adminToken ≠ some "" →
      (s.answer r).1.status ≠ 200 ∧ (s.answer r).2 = s) := by
  have hsuccess : (s.answer r).1.status = 200 ↔ (change? r).isSome ∧ s.adminToken = some (tokenOf r) := by
    rw [status_eq_ok_iff hasks, admitted?]
    split
    · next h => simp [h]
    · next h => simp [h]
  have hfailure : (s.answer r).1.status ≠ 200 → (s.answer r).2 = s := by
    intro hstatus
    cases hadmitted : admitted? s.adminToken r with
    | some u => exact absurd (answer_of_admitted hadmitted).2.1 hstatus
    | none => exact (answer_of_not_admitted hadmitted).1
  refine ⟨?_, hfailure, ?_⟩
  · rw [hsuccess]
    refine and_congr_right fun _ => ?_
    simp only [← tokenOf_eq_iff]
    exact ⟨fun h => ⟨_, h, rfl⟩, fun ⟨secret, hset, htoken⟩ => htoken ▸ hset⟩
  · intro hheader hset
    have hstatus : (s.answer r).1.status ≠ 200 := by
      intro hstatus
      have htoken : tokenOf r = "" := tokenOf_eq_iff.2 (Or.inr ⟨rfl, hheader⟩)
      exact hset (htoken ▸ (hsuccess.1 hstatus).2)
    exact ⟨hstatus, hfailure hstatus⟩

def exampleRebuild (headers : List (String × String)) : Http.Request :=
  { method := "POST", target := "/index/champions", headers }

/-- A service with one document and without champion lists. -/
def exampleService (adminToken : Option String) : Service :=
  { index := Index.history {} .product [.corpus [("u", "a")]], adminToken }

theorem change_needs_token_secret :
    asksForChange (exampleRebuild [("X-Admin-Token", "secret")]) = true ∧
    ((exampleService (some "secret")).answer (exampleRebuild [("X-Admin-Token", "secret")])).1.status = 200 ∧
    asksForChange (exampleRebuild []) = true ∧
    ((exampleService (some "secret")).answer (exampleRebuild [])).1.status ≠ 200 ∧
    ((exampleService (some "secret")).answer (exampleRebuild [])).2 = exampleService (some "secret") := by
  have hasks : asksForChange (exampleRebuild [("X-Admin-Token", "secret")]) = true := by decide
  have hasks' : asksForChange (exampleRebuild []) = true := by decide
  have hchange : (change? (exampleRebuild [("X-Admin-Token", "secret")])).isSome := by decide
  have hheader : (exampleRebuild [("X-Admin-Token", "secret")]).readableHeader? "x-admin-token" = some "secret" := by
    decide +kernel
  exact ⟨hasks, (change_needs_token _ _ hasks).1.2 ⟨hchange, "secret", rfl, Or.inl hheader⟩,
    hasks', (change_needs_token _ _ hasks').2.2 rfl (by decide)⟩

/-- **Where the empty token is set, a request without a token changes the index.** It is admitted as if it had brought the
empty token: it succeeds, and the champion lists are rebuilt. -/
theorem empty_token_admits_request_without_token :
    asksForChange (exampleRebuild []) = true ∧ (exampleRebuild []).header? "x-admin-token" = none ∧
    ((exampleService (some "")).answer (exampleRebuild [])).1.status = 200 ∧
    (exampleService (some "")).index.store.championsStale = true ∧
    ((exampleService (some "")).answer (exampleRebuild [])).2.index.store.championsStale = false := by
  have hadmitted : admitted? (exampleService (some "")).adminToken (exampleRebuild []) = some (.champions 20) := by
    decide
  obtain ⟨hasks, hstatus, hafter⟩ := answer_of_admitted hadmitted
  rw [hafter]
  exact ⟨hasks, rfl, hstatus, rfl, rfl⟩

end Retrieval.Service
