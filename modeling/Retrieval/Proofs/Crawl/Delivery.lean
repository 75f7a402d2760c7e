import Retrieval.Proofs.Crawl.Ledger

/-!
# What a frontier hands out

For every host, the URLs that were taken and those that still wait are the first ones that were added for it and were
new.

* `Frontier.newFor` : the URLs added for a host without those whose text came before;
* `Frontier.takenFor` : the URLs that were taken for a host;
* `Frontier.newFor_eq`, `Frontier.takenFor_eq` : both as the ledger has them;
* `Frontier.local_run` : a URL that is taken for a host is of that host;
* `Frontier.hands_out_first_urls` : what is handed out, counted and known after any actions.
-/

namespace Retrieval.Frontier

/-! ## Added and new -/

/-- The URL that an action adds. -/
def Action.url? : Action → Option Url
  | .add url => some url
  | _ => none

theorem addedUrls_run (limits : Limits) (actions : List (Nat × Action)) :
    addedUrls (run limits actions).events = actions.filterMap (·.2.url?) := by
  induction actions using List.reverseRecOn with
  | nil => rfl
  | append_singleton actions action ih =>
    obtain ⟨now, action⟩ := action
    rw [run_append, List.filterMap_append, ← ih]
    cases action with
    | add url => exact addedUrls_added now url _
    | take =>
      unfold Run.act
      dsimp only
      split
      · exact (List.append_nil _).symm
      · exact (List.append_nil _).symm
    | release host => exact (List.append_nil _).symm

/-- The text of a URL is that of one with a host among others. -/
def Known (past : List Url) (url : Url) : Prop := ∃ earlier ∈ past, earlier.host?.isSome ∧ key earlier = key url

instance (past : List Url) (url : Url) : Decidable (Known past url) := inferInstanceAs (Decidable (∃ _ ∈ past, _))

/-- The URLs of a host without those whose text came before, `past` being what was added before all of them, latest
first. -/
def newFor (host : String) (past : List Url) : List Url → List Url
  | [] => []
  | url :: urls =>
    if url.host? = some host ∧ ¬ Known past url then url :: newFor host (url :: past) urls
    else newFor host (url :: past) urls

theorem mem_map_key_firsts_reverse {past : List Url} {url : Url} :
    key url ∈ (firsts past.reverse).map key ↔ Known past url := by
  rw [mem_map_key_firsts]
  simp only [List.mem_reverse]
  rfl

/-- One more URL is the ledger's for its host unless its text came before. -/
theorem ofHost_firsts_append_singleton (host : String) (past : List Url) (url : Url) :
    ofHost host (firsts (past.reverse ++ [url])) =
      ofHost host (firsts past.reverse) ++ if url.host? = some host ∧ ¬ Known past url then [url] else [] := by
  rw [firsts_append, sight]
  by_cases hold : url.host? = none ∨ Known past url
  · have hno : ¬ (url.host? = some host ∧ ¬ Known past url) := by
      rintro ⟨hhost, hnew⟩
      rcases hold with hnone | hold
      · cases hnone.symm.trans hhost
      · exact hnew hold
    rw [if_pos (hold.imp_right mem_map_key_firsts_reverse.2), if_neg hno, List.append_nil]
  · have hnew : ¬ Known past url := fun h => hold (Or.inr h)
    rw [if_neg fun h => hold (h.imp_right mem_map_key_firsts_reverse.1), ofHost_append, ofHost_singleton]
    simp only [hnew, not_false_eq_true, and_true]

theorem ofHost_firsts_append (host : String) (past urls : List Url) :
    ofHost host (firsts (past.reverse ++ urls)) = ofHost host (firsts past.reverse) ++ newFor host past urls := by
  induction urls generalizing past with
  | nil => rw [List.append_nil, newFor, List.append_nil]
  | cons url urls ih =>
    have hnext := ih (url :: past)
    rw [List.reverse_cons, List.append_assoc, List.singleton_append] at hnext
    rw [hnext, ofHost_firsts_append_singleton, newFor, List.append_assoc]
    split
    · rfl
    · rfl

theorem newFor_eq (host : String) (urls : List Url) : newFor host [] urls = ofHost host (firsts urls) :=
  (ofHost_firsts_append host [] urls).symm

/-! ## Taken -/

def takenFor (host : String) (events : List Event) : List Url :=
  urlsOf ((takenVisits events).filter fun visit => visit.host = host)

def Run.Local (r : Run) : Prop := ∀ visit ∈ takenVisits r.events, ∀ url ∈ visit.url.toList, url.host? = some visit.host

theorem Run.Local.act {limits : Limits} {r : Run} (hr : r.Local) (hrecorded : r.Recorded limits) (now : Nat)
    (action : Action) : (r.act limits now action).Local := by
  cases action with
  | add url => exact hr
  | take =>
    unfold Run.act
    dsimp only
    split
    · exact hr
    · next visit f htake =>
      intro other h
      rw [takenVisits_taken] at h
      rcases List.mem_append.1 h with h | h
      · exact hr other h
      · rw [List.mem_singleton.1 h]
        exact Ledger.host?_of_take hrecorded htake
  | release host => exact hr

/-- **Every run takes for a host only URLs of the host.** -/
theorem local_run (limits : Limits) (actions : List (Nat × Action)) : (run limits actions).Local := by
  induction actions using List.reverseRecOn with
  | nil => exact List.forall_mem_nil _
  | append_singleton actions action ih =>
    rw [run_append]
    exact ih.act (recorded_run limits actions) action.1 action.2

theorem urlsOf_filter {visits : List Visit}
    (h : ∀ visit ∈ visits, ∀ url ∈ visit.url.toList, url.host? = some visit.host) (host : String) :
    urlsOf (visits.filter fun visit => visit.host = host) = ofHost host (urlsOf visits) := by
  induction visits using List.reverseRecOn with
  | nil => rfl
  | append_singleton visits visit ih =>
    have hbefore := ih fun other hother => h other (List.mem_append_left _ hother)
    have hvisit : ofHost host visit.url.toList = if visit.host = host then visit.url.toList else [] := by
      have hhost : ∀ url ∈ visit.url.toList, url.host? = some visit.host :=
        h visit (List.mem_append_right _ List.mem_cons_self)
      split
      · next e => exact List.filter_eq_self.2 fun url hurl => decide_eq_true (e ▸ hhost url hurl)
      · next e =>
        refine List.filter_eq_nil_iff.2 fun url hurl => ?_
        rw [hhost url hurl, decide_eq_true_iff]
        exact fun e' => e (Option.some.inj e')
    rw [List.filter_append, urlsOf_append, ofHost_append, hvisit, ← hbefore, List.filter_singleton]
    by_cases e : visit.host = host
    · simp [e, urlsOf_append]
    · simp [e]

theorem takenFor_eq (limits : Limits) (actions : List (Nat × Action)) (host : String) :
    takenFor host (run limits actions).events = ofHost host (urlsOf (takenVisits (run limits actions).events)) :=
  urlsOf_filter (local_run limits actions) host

/-- **A frontier neither loses nor repeats nor reorders what it accepts.** After any actions at any times:
* for every host, the URLs that were taken for it, followed by those that wait for it, are the first ones that were
  added for it without those whose text came before, as many as a host may have; the share of the host is their number,
  and the host is counted just if there was such a URL;
* the known texts are those of all URLs with a host that were added;
* no two of the URLs that were taken have the same text;
* a URL without a host changes nothing. -/
theorem hands_out_first_urls (limits : Limits) (actions : List (Nat × Action)) :
    let r := run limits actions
    let added := actions.filterMap (·.2.url?)
    (∀ host,
      takenFor host r.events ++ r.frontier.queue host = (newFor host [] added).take limits.perHost ∧
      r.frontier.share host = ((newFor host [] added).take limits.perHost).length ∧
      (host ∈ r.frontier.accepted ↔ newFor host [] added ≠ [])) ∧
    (∀ k, k ∈ r.frontier.seen ↔ ∃ url ∈ added, url.host?.isSome ∧ key url = k) ∧
    ((urlsOf (takenVisits r.events)).map key).Nodup ∧
    ∀ now url, url.host? = none → r.frontier.add limits now url = r.frontier := by
  intro r added
  have hadded : addedUrls r.events = added := addedUrls_run limits actions
  have hledger : Ledger limits r.frontier added (urlsOf (takenVisits r.events)) :=
    hadded ▸ recorded_run limits actions
  refine ⟨?_, ?_, hledger.nodup_taken, ?_⟩
  · intro host
    rw [newFor_eq, takenFor_eq]
    exact ⟨hledger.queue_eq host, hledger.share_eq host, hledger.mem_accepted host⟩
  · intro k
    rw [hledger.mem_seen, mem_map_key_firsts]
  · intro now url hhost
    rw [add, hhost]

end Retrieval.Frontier
