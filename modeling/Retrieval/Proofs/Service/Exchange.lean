import Retrieval.Proofs.Service.Posting

/-!
# Sequences of requests

A service answers requests one after the other. Only those that were admitted leave a trace, so that the others can be
left out, and the index is what the admitted ones have made of it.

* `Service.Exchange` : a request with its answer;
* `Service.serve` : a service after requests, with what they were answered;
* `Service.Exchange.accepted` : the exchanges that changed the index, told by request and status;
* `Service.answer_cases` : a request is accepted and makes its change, or nothing changes;
* `Service.exists_updates`, `Service.serve_of_sublist` : what a sequence makes of the index, and which requests can be left
  out of it;
* `Service.only_accepted_requests_count` : what the answers and the index depend on.
-/

namespace Retrieval.Service

/-- A request and its answer. -/
structure Exchange where
  request : Http.Request
  answer : Answer

/-- Whether the request was there to change the index and succeeded. -/
def Exchange.accepted (x : Exchange) : Bool := asksForChange x.request && x.answer.status = 200

/-- The exchanges of a service with requests, the first one first, and the service afterwards. -/
def serve (s : Service) : List Http.Request → List Exchange × Service
  | [] => ([], s)
  | r :: requests =>
    let (answer, next) := s.answer r
    let (exchanges, last) := next.serve requests
    (⟨r, answer⟩ :: exchanges, last)

variable {s : Service} {r : Http.Request} {requests : List Http.Request}

theorem serve_cons : s.serve (r :: requests) =
    (⟨r, (s.answer r).1⟩ :: ((s.answer r).2.serve requests).1, ((s.answer r).2.serve requests).2) := rfl

/-! ## One request -/

/-- A request is accepted and makes the change that it asks for, or the service stays as it is. -/
theorem answer_cases (s : Service) (r : Http.Request) :
    ((⟨r, (s.answer r).1⟩ : Exchange).accepted = true ∧
      ∃ u, change? r = some u ∧ (s.answer r).2 = { s with index := s.index.update u }) ∨
    ((⟨r, (s.answer r).1⟩ : Exchange).accepted = false ∧ (s.answer r).2 = s) := by
  unfold Exchange.accepted
  cases hadmitted : admitted? s.adminToken r with
  | some u =>
    obtain ⟨hasks, hstatus, hnext⟩ := answer_of_admitted hadmitted
    exact Or.inl ⟨by simp [hasks, hstatus], u, (admitted?_eq_some_iff.1 hadmitted).2, hnext⟩
  | none =>
    obtain ⟨hnext, hstatus⟩ := answer_of_not_admitted hadmitted
    refine Or.inr ⟨?_, hnext⟩
    cases hasks : asksForChange r with
    | false => rfl
    | true => simpa using hstatus hasks

/-! ## Sequences -/

/-- **The index is what the accepted requests have made of it.** -/
theorem exists_updates (s : Service) (requests : List Http.Request) :
    ∃ updates : List Index.Update,
      ((s.serve requests).1.filter Exchange.accepted).map (fun x => change? x.request) = updates.map some ∧
      (s.serve requests).2 = { s with index := updates.foldl Index.update s.index } := by
  induction requests generalizing s with
  | nil => exact ⟨[], rfl, rfl⟩
  | cons r requests ih =>
    obtain ⟨updates, hchanges, hlast⟩ := ih (s.answer r).2
    rw [serve_cons]
    rcases answer_cases s r with ⟨haccepted, u, hchange, hnext⟩ | ⟨haccepted, hnext⟩
    · refine ⟨u :: updates, ?_, ?_⟩
      · rw [List.filter_cons_of_pos haccepted, List.map_cons, List.map_cons, hchange, hchanges]
      · rw [hlast, hnext, List.foldl_cons]
    · refine ⟨updates, ?_, ?_⟩
      · rw [List.filter_cons_of_neg (by simp [haccepted]), hchanges]
      · rw [hlast, hnext]

/-- **Requests that were not accepted can be left out.** The others are answered as before. -/
theorem serve_of_sublist {kept : List Exchange} (hkept : kept.Sublist (s.serve requests).1)
    (haccepted : kept.filter Exchange.accepted = (s.serve requests).1.filter Exchange.accepted) :
    s.serve (kept.map Exchange.request) = (kept, (s.serve requests).2) := by
  induction requests generalizing s kept with
  | nil =>
    obtain rfl : kept = [] := List.sublist_nil.1 hkept
    rfl
  | cons r requests ih =>
    rw [serve_cons] at hkept haccepted ⊢
    cases hkept with
    | cons _ hrest =>
      rcases answer_cases s r with ⟨htrue, -⟩ | ⟨hfalse, hnext⟩
      · -- an accepted exchange that was left out would be missing
        rw [List.filter_cons_of_pos htrue] at haccepted
        have hlength := (hrest.filter Exchange.accepted).length_le
        rw [haccepted, List.length_cons] at hlength
        omega
      · rw [List.filter_cons_of_neg (by simp [hfalse])] at haccepted
        have h := ih hrest haccepted
        rwa [hnext] at h ⊢
    | @cons_cons kept _ _ hrest =>
      -- the same exchange stands first on both sides, so that the rest agrees whether it is accepted or not
      have htail : kept.filter Exchange.accepted =
          ((s.answer r).2.serve requests).1.filter Exchange.accepted := by
        rw [List.filter_cons, List.filter_cons] at haccepted
        split at haccepted
        · exact List.tail_eq_of_cons_eq haccepted
        · exact haccepted
      rw [List.map_cons, serve_cons, ih hrest htail]

theorem Exchange.accepted_iff {x : Exchange} : x.accepted = true ↔ x.request.method = "POST" ∧
    (x.request.steps = ["", "index", "batch"] ∨ x.request.steps = ["", "index", "champions"]) ∧
      x.answer.status = 200 := by
  rw [Exchange.accepted, Bool.and_eq_true, decide_eq_true_iff, asksForChange_iff, and_assoc]

theorem forall₂_asks {exchanges : List Exchange} {updates : List Index.Update}
    (h : exchanges.map (fun x => change? x.request) = updates.map some) :
    List.Forall₂ (fun x u => Asks x.request u) exchanges updates := by
  induction exchanges generalizing updates with
  | nil =>
    obtain rfl : updates = [] := List.map_eq_nil_iff.1 h.symm
    exact .nil
  | cons x exchanges ih =>
    obtain ⟨u, updates, rfl, hu, hupdates⟩ := List.map_eq_cons_iff.1 h.symm
    exact .cons (asks_of_change? hu.symm) (ih hupdates.symm)

/-- **Only accepted requests count.** These are the ones for `POST /index/batch` or `POST /index/champions` that are
answered with 200. For every service and all requests to it, one after the other:
* the index afterwards is what the changes of the accepted requests have made of the first one, in this order;
* each of these changes is what the request asks for: to index the documents that the array in its body describes, or to
  rebuild the champion lists with as many documents as its parameter says;
* the answer to a further request is the same as if only the accepted ones had come before it;
* when requests that were not accepted are left out, the others are answered as before. -/
theorem only_accepted_requests_count (s : Service) (requests : List Http.Request) :
    let exchanges := (s.serve requests).1
    let last := (s.serve requests).2
    (∀ x : Exchange, x.accepted = true ↔ x.request.method = "POST" ∧
      (x.request.steps = ["", "index", "batch"] ∨ x.request.steps = ["", "index", "champions"]) ∧
        x.answer.status = 200) ∧
    (∃ updates : List Index.Update,
      (exchanges.filter Exchange.accepted).map (fun x => change? x.request) = updates.map some ∧
      List.Forall₂ (fun x u => Asks x.request u) (exchanges.filter Exchange.accepted) updates ∧
      last = { s with index := updates.foldl Index.update s.index }) ∧
    (∀ r, (last.answer r).1 =
      ((s.serve ((exchanges.filter Exchange.accepted).map Exchange.request)).2.answer r).1) ∧
    (∀ kept : List Exchange, kept.Sublist exchanges →
      kept.filter Exchange.accepted = exchanges.filter Exchange.accepted →
      (s.serve (kept.map Exchange.request)).1 = kept) := by
  intro exchanges last
  obtain ⟨updates, hchanges, hlast⟩ := exists_updates s requests
  refine ⟨fun x => Exchange.accepted_iff, ⟨updates, hchanges, forall₂_asks hchanges, hlast⟩, fun r => ?_,
    fun kept hkept haccepted => ?_⟩
  · have hfilter : s.serve ((exchanges.filter Exchange.accepted).map Exchange.request) = (_, last) :=
      serve_of_sublist List.filter_sublist (by rw [List.filter_filter]; simp [exchanges])
    rw [hfilter]
  · rw [serve_of_sublist hkept haccepted]

def examplePost (headers : List (String × String)) : Http.Request :=
  { method := "POST", target := "/index/batch", headers := ("Content-Type", "application/json") :: headers
    body := .ofList ('[' :: [','].intercalate [Json.object [("url", "v"), ("body", "b")]] ++ [']']) }

def exampleRebuildOne : Http.Request :=
  { method := "POST", target := "/index/champions?r=1", headers := [("X-Admin-Token", "secret")] }

/-- A record is posted without a token, and with it; then the champion lists are rebuilt. -/
def exampleRequests : List Http.Request :=
  [examplePost [], examplePost [("X-Admin-Token", "secret")], exampleRebuildOne]

theorem asks_examplePost {headers : List (String × String)} {u : Index.Update} (h : Asks (examplePost headers) u) :
    u = .corpus [("v", "b")] := by
  have hspells := Json.spells_array (.cons (Json.spells_object [("url", "v"), ("body", "b")]) .nil)
  have hdescribes : Document.Describes (.object ([("url", "v"), ("body", "b")].map fun f => (f.1, .text f.2)))
      ⟨"v", "b"⟩ := .object rfl rfl
  cases h with
  | batch hsteps hdocuments =>
    have hposted := hdocuments _ [] _ (String.toList_ofList.trans (List.append_nil _).symm) hspells
    obtain ⟨d, others, hd, hothers, rfl⟩ := List.forall₂_cons_left_iff.1 hposted
    obtain rfl := List.forall₂_nil_left_iff.1 hothers
    obtain rfl := hd.unique hdescribes
    rfl
  | rebuild hsteps =>
    have hbatch : (examplePost headers).steps = (examplePost []).steps := rfl
    exact absurd (hbatch.symm.trans hsteps) (by decide)

theorem asks_exampleRebuildOne {u : Index.Update} (h : Asks exampleRebuildOne u) : u = .champions 1 := by
  cases h with
  | batch hsteps => exact absurd hsteps (by decide)
  | rebuild _ hcount =>
    have hone : (count exampleRebuildOne.parameters "r" 20).toOption = some 1 := by decide +kernel
    rw [count_eq_ok_iff.2 hcount] at hone
    rw [Option.some.inj hone]

/-- The record that was posted with the token is indexed, and then the lists are rebuilt; the request without a token can
be left out. -/
theorem only_accepted_requests_count_posted :
    ((exampleService (some "secret")).serve exampleRequests).1.map (fun x => x.answer.status) = [401, 200, 200] ∧
    ((exampleService (some "secret")).serve exampleRequests).2 = { exampleService (some "secret") with
      index := ((exampleService (some "secret")).index.indexCorpus [("v", "b")]).updateChampions 1 } ∧
    ∀ r, (((exampleService (some "secret")).serve exampleRequests).2.answer r).1 =
      (((exampleService (some "secret")).serve (exampleRequests.drop 1)).2.answer r).1 := by
  have hstatus : ((exampleService (some "secret")).serve exampleRequests).1.map (fun x => x.answer.status) =
      [401, 200, 200] := by decide +kernel
  have haccepted : ((exampleService (some "secret")).serve exampleRequests).1.map Exchange.accepted =
      [false, true, true] := by decide +kernel
  have hfilter : (((exampleService (some "secret")).serve exampleRequests).1.filter Exchange.accepted).map
      Exchange.request = exampleRequests.drop 1 := by
    simp only [exampleRequests, serve_cons, List.map_cons, List.cons.injEq] at haccepted ⊢
    obtain ⟨hfirst, hsecond, hthird, -⟩ := haccepted
    simp [hfirst, hsecond, hthird, serve]
  obtain ⟨-, ⟨updates, -, hasks, hlast⟩, hanswers, -⟩ :=
    only_accepted_requests_count (exampleService (some "secret")) exampleRequests
  rw [hfilter] at hanswers
  rw [← List.forall₂_map_left_iff (f := Exchange.request) (R := Asks), hfilter] at hasks
  obtain ⟨u, more, hu, hmore, rfl⟩ := List.forall₂_cons_left_iff.1 hasks
  obtain ⟨v, rest, hv, hrest, rfl⟩ := List.forall₂_cons_left_iff.1 hmore
  obtain rfl := asks_examplePost hu
  obtain rfl := asks_exampleRebuildOne hv
  obtain rfl := List.forall₂_nil_left_iff.1 hrest
  exact ⟨hstatus, hlast, hanswers⟩

end Retrieval.Service
