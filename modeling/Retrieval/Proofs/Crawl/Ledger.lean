import Mathlib.Data.List.Induction
import Mathlib.Data.List.Nodup
import Mathlib.Data.List.Perm.Subperm
import Retrieval.Proofs.Crawl.Frontier
import Retrieval.Proofs.Crawl.Run

/-!
# The ledger of a frontier

What is taken from a frontier for a host, followed by what still waits there, are the first URLs that were added for the
host, as many as a host may have.

* `Frontier.firsts` : the added URLs without those whose text came before;
* `Frontier.ofHost` : the URLs of one host;
* `Frontier.Ledger` : the invariant; queues, shares and known texts, read off what was added and taken;
* `Frontier.Ledger.add`, `Frontier.Ledger.take`, `Frontier.Ledger.release` : a step keeps it;
* `Frontier.recorded_run` : every run keeps it;
* `Frontier.Ledger.nodup_taken` : no text is taken twice.
-/

namespace Retrieval.Frontier

/-! ## What is added and taken -/

def Event.url? : Event → Option Url
  | .added _ url => some url
  | _ => none

def Event.visit? : Event → Option Visit
  | .taken _ visit => some visit
  | _ => none

def addedUrls (events : List Event) : List Url := (events.filterMap Event.url?).reverse

def takenVisits (events : List Event) : List Visit := (events.filterMap Event.visit?).reverse

def urlsOf (visits : List Visit) : List Url := visits.filterMap (·.url)

theorem addedUrls_added (now : Nat) (url : Url) (events : List Event) :
    addedUrls (.added now url :: events) = addedUrls events ++ [url] := List.reverse_cons

theorem takenVisits_taken (now : Nat) (visit : Visit) (events : List Event) :
    takenVisits (.taken now visit :: events) = takenVisits events ++ [visit] := List.reverse_cons

theorem urlsOf_append (visits : List Visit) (visit : Visit) :
    urlsOf (visits ++ [visit]) = urlsOf visits ++ visit.url.toList := by
  rw [urlsOf, List.filterMap_append]
  rfl

def ofHost (host : String) (urls : List Url) : List Url := urls.filter fun url => url.host? = some host

/-- Known URLs with one more, unless it has no host or its text is known. -/
def sight (known : List Url) (url : Url) : List Url :=
  if url.host? = none ∨ key url ∈ known.map key then known else known ++ [url]

/-- The URLs with a host whose texts did not come before. -/
def firsts (urls : List Url) : List Url := urls.foldl sight []

theorem firsts_append (urls : List Url) (url : Url) : firsts (urls ++ [url]) = sight (firsts urls) url := by
  rw [firsts, List.foldl_append]
  rfl

theorem ofHost_append (host : String) (urls others : List Url) :
    ofHost host (urls ++ others) = ofHost host urls ++ ofHost host others := List.filter_append ..

theorem ofHost_singleton (host : String) (url : Url) :
    ofHost host [url] = if url.host? = some host then [url] else [] := by
  by_cases h : url.host? = some host
  · simp [ofHost, h]
  · simp [ofHost, h]

theorem mem_ofHost {host : String} {urls : List Url} {url : Url} :
    url ∈ ofHost host urls ↔ url ∈ urls ∧ url.host? = some host := by
  rw [ofHost, List.mem_filter, decide_eq_true_iff]

theorem nodup_firsts (urls : List Url) : ((firsts urls).map key).Nodup := by
  induction urls using List.reverseRecOn with
  | nil => exact List.nodup_nil
  | append_singleton urls url ih =>
    rw [firsts_append, sight]
    split
    · exact ih
    · next hnew =>
      rw [not_or] at hnew
      rw [List.map_append, List.nodup_append]
      refine ⟨ih, List.nodup_singleton _, ?_⟩
      rintro a ha b hb rfl
      rw [List.map_singleton, List.mem_singleton] at hb
      exact hnew.2 (hb ▸ ha)

theorem mem_of_mem_firsts {urls : List Url} {url : Url} (h : url ∈ firsts urls) :
    url ∈ urls ∧ url.host?.isSome := by
  induction urls using List.reverseRecOn with
  | nil => cases h
  | append_singleton urls other ih =>
    rw [firsts_append, sight] at h
    rw [List.mem_append]
    split at h
    · exact ⟨Or.inl (ih h).1, (ih h).2⟩
    · next hnew =>
      rw [not_or] at hnew
      rcases List.mem_append.1 h with h | h
      · exact ⟨Or.inl (ih h).1, (ih h).2⟩
      · rw [List.mem_singleton.1 h]
        exact ⟨Or.inr List.mem_cons_self, Option.isSome_iff_ne_none.2 hnew.1⟩

theorem mem_map_key_firsts {urls : List Url} {k : String} :
    k ∈ (firsts urls).map key ↔ ∃ url ∈ urls, url.host?.isSome ∧ key url = k := by
  induction urls using List.reverseRecOn with
  | nil => simp [firsts]
  | append_singleton urls url ih =>
    have hsplit : (∃ other ∈ urls ++ [url], other.host?.isSome ∧ key other = k) ↔
        (∃ other ∈ urls, other.host?.isSome ∧ key other = k) ∨ url.host?.isSome ∧ key url = k := by
      simp [or_and_right, exists_or]
    rw [firsts_append, sight, hsplit, ← ih]
    split
    · next hold =>
      refine (or_iff_left_of_imp ?_).symm
      rintro ⟨hhost, rfl⟩
      exact hold.resolve_left (Option.isSome_iff_ne_none.1 hhost)
    · next hnew =>
      have hhost : url.host?.isSome := Option.isSome_iff_ne_none.2 (not_or.1 hnew).1
      rw [List.map_append, List.mem_append, List.map_singleton, List.mem_singleton]
      simp [hhost, eq_comm]

/-- A URL with a host, or one with the same text, comes first. -/
theorem key_mem_firsts {urls : List Url} {url : Url} (h : url ∈ urls) (hhost : url.host?.isSome) :
    key url ∈ (firsts urls).map key :=
  mem_map_key_firsts.2 ⟨url, h, hhost, rfl⟩

/-! ## Fields of a frontier -/

section Fields
variable {limits : Limits} {now : Nat} {f : Frontier} {host h : String} {url : Url}

theorem seen_accept : (accept limits now f host url).seen = f.seen := by
  unfold accept engage
  split <;> rfl

theorem accepted_accept : (accept limits now f host url).accepted = f.accepted.insert host (f.share host + 1) := by
  unfold accept engage
  split <;> rfl

theorem share_accept : (accept limits now f host url).share h =
    if h = host then f.share host + 1 else f.share h := by
  rw [share, accepted_accept, getD_insert_ite]
  rfl

theorem share_note_eq : (f.note host url).share h = f.share h := by
  rw [share, note, getD_insert_ite]
  split
  · next e => rw [e]
  · rfl

end Fields

/-! ## The ledger -/

/-- The URLs that a host is given out of those that were added. -/
def allotted (limits : Limits) (added : List Url) (host : String) : List Url :=
  (ofHost host (firsts added)).take limits.perHost

theorem length_allotted (limits : Limits) (added : List Url) (host : String) :
    (allotted limits added host).length = min limits.perHost (ofHost host (firsts added)).length :=
  List.length_take

theorem take_append_singleton {α : Type} (l : List α) (a : α) (n : Nat) :
    (l ++ [a]).take n = if l.length < n then l.take n ++ [a] else l.take n := by
  split
  · next h => rw [List.take_of_length_le (by simp; omega), List.take_of_length_le (by omega)]
  · next h => rw [List.take_append_of_le_length (by omega)]

theorem allotted_append_first {limits : Limits} {added : List Url} {url : Url} {host : String}
    (hfirst : firsts (added ++ [url]) = firsts added ++ [url]) (hhost : url.host? = some host) (h : String) :
    allotted limits (added ++ [url]) h =
      if h = host ∧ (allotted limits added host).length < limits.perHost then allotted limits added h ++ [url]
      else allotted limits added h := by
  rw [allotted, hfirst, ofHost_append, ofHost_singleton, hhost, length_allotted]
  by_cases e : h = host
  · subst e
    rw [if_pos rfl, take_append_singleton]
    by_cases hlength : (ofHost h (firsts added)).length < limits.perHost
    · rw [if_pos hlength, if_pos ⟨rfl, by omega⟩, allotted]
    · rw [if_neg hlength, if_neg (by omega), allotted]
  · have hne : ¬ some host = some h := fun e' => e (Option.some.inj e').symm
    rw [if_neg hne, List.append_nil, if_neg fun hh => e hh.1, allotted]

/-- Queues, shares and known texts of a frontier, as what was added and taken has them. -/
structure Ledger (limits : Limits) (f : Frontier) (added taken : List Url) : Prop where
  mem_seen : ∀ k, k ∈ f.seen ↔ k ∈ (firsts added).map key
  mem_accepted : ∀ host, host ∈ f.accepted ↔ ofHost host (firsts added) ≠ []
  share_eq : ∀ host, f.share host = (allotted limits added host).length
  queue_eq : ∀ host, ofHost host taken ++ f.queue host = allotted limits added host
  hosts : ∀ url ∈ taken, url.host?.isSome

namespace Ledger

variable {limits : Limits} {now : Nat} {f g : Frontier} {added taken : List Url}

theorem empty (limits : Limits) : Ledger limits {} [] [] where
  mem_seen k := by simp [firsts]
  mem_accepted host := by simp [firsts, ofHost]
  share_eq host := by simp [allotted, firsts, ofHost, share]
  queue_eq host := by simp [allotted, firsts, ofHost, queue]
  hosts url h := by cases h

theorem mem_firsts_of_mem_queue (hf : Ledger limits f added taken) {host : String} {url : Url}
    (h : url ∈ ofHost host taken ∨ url ∈ f.queue host) : url ∈ firsts added ∧ url.host? = some host := by
  rw [← List.mem_append, hf.queue_eq] at h
  exact mem_ofHost.1 (List.mem_of_mem_take h)

theorem firsts_append_old (hf : Ledger limits f added taken) {url : Url} (hold : url.host? = none ∨ key url ∈ f.seen) :
    firsts (added ++ [url]) = firsts added := by
  rw [firsts_append, sight, if_pos]
  rwa [hf.mem_seen] at hold

theorem append_old (hf : Ledger limits f added taken) {url : Url} (hold : url.host? = none ∨ key url ∈ f.seen) :
    Ledger limits f (added ++ [url]) taken := by
  have hfirsts := hf.firsts_append_old hold
  obtain ⟨hseen, haccepted, hshare, hqueue, hhosts⟩ := hf
  refine ⟨?_, ?_, ?_, ?_, hhosts⟩
  · rwa [hfirsts]
  · rwa [hfirsts]
  · unfold allotted
    rwa [hfirsts]
  · unfold allotted
    rwa [hfirsts]

section New
variable {host : String} {url : Url}

theorem firsts_append_new (hf : Ledger limits f added taken) (hhost : url.host? = some host)
    (hnew : key url ∉ f.seen) : firsts (added ++ [url]) = firsts added ++ [url] := by
  rw [firsts_append, sight, if_neg]
  rw [hhost, ← hf.mem_seen]
  simp [hnew]

theorem mem_seen_note (hf : Ledger limits f added taken) (hhost : url.host? = some host) (hnew : key url ∉ f.seen)
    (k : String) : k ∈ (f.note host url).seen ↔ k ∈ (firsts (added ++ [url])).map key := by
  rw [note, mem_insert_iff, hf.mem_seen, hf.firsts_append_new hhost hnew, List.map_append, List.mem_append,
    List.map_singleton, List.mem_singleton]

theorem mem_accepted_note (hf : Ledger limits f added taken) (hhost : url.host? = some host)
    (hnew : key url ∉ f.seen) (h : String) :
    h ∈ (f.note host url).accepted ↔ ofHost h (firsts (added ++ [url])) ≠ [] := by
  rw [note, mem_map_insert_iff, hf.mem_accepted, hf.firsts_append_new hhost hnew, ofHost_append, ofHost_singleton,
    hhost]
  by_cases e : h = host
  · simp [e]
  · simp [e, Ne.symm e]

/-- A new URL of a host that has had its share is only known from now on. -/
theorem append_full (hf : Ledger limits f added taken) (hhost : url.host? = some host) (hnew : key url ∉ f.seen)
    (hshare : limits.perHost ≤ f.share host) : Ledger limits (f.note host url) (added ++ [url]) taken := by
  have hsame (h : String) : allotted limits (added ++ [url]) h = allotted limits added h := by
    rw [allotted_append_first (hf.firsts_append_new hhost hnew) hhost, if_neg]
    rw [← hf.share_eq]
    omega
  refine ⟨hf.mem_seen_note hhost hnew, hf.mem_accepted_note hhost hnew, ?_, ?_, hf.hosts⟩
  · intro h
    rw [share_note_eq, hsame, hf.share_eq]
  · intro h
    rw [hsame]
    exact hf.queue_eq h

theorem append_accepted (hf : Ledger limits f added taken) (hhost : url.host? = some host) (hnew : key url ∉ f.seen)
    (hshare : f.share host < limits.perHost) :
    Ledger limits (accept limits now (f.note host url) host url) (added ++ [url]) taken := by
  have hmore (h : String) : allotted limits (added ++ [url]) h =
      if h = host then allotted limits added h ++ [url] else allotted limits added h := by
    rw [allotted_append_first (hf.firsts_append_new hhost hnew) hhost, ← hf.share_eq]
    simp only [hshare, and_true]
  refine ⟨?_, ?_, ?_, ?_, hf.hosts⟩
  · rw [seen_accept]
    exact hf.mem_seen_note hhost hnew
  · intro h
    have hhere : host ∈ (f.note host url).accepted := mem_map_insert_iff.2 (Or.inr rfl)
    rw [accepted_accept, mem_map_insert_iff, ← hf.mem_accepted_note hhost hnew]
    exact ⟨fun hh => hh.elim id fun e => e ▸ hhere, Or.inl⟩
  · intro h
    rw [share_accept, share_note_eq, share_note_eq, hmore]
    split
    · next e => rw [List.length_append, List.length_singleton, hf.share_eq, e]
    · exact hf.share_eq h
  · intro h
    rw [queue_accept, hmore]
    split
    · next e =>
      rw [← hf.queue_eq, List.append_assoc, e]
      rfl
    · exact hf.queue_eq h

end New

theorem add (hf : Ledger limits f added taken) (url : Url) :
    Ledger limits (f.add limits now url) (added ++ [url]) taken := by
  obtain ⟨hold, hadd⟩ | ⟨host, hhost, hnew, ⟨hshare, hadd⟩ | ⟨hshare, hadd⟩⟩ := add_cases limits now f url
  · rw [hadd]
    exact hf.append_old hold
  · rw [hadd]
    exact hf.append_full hhost hnew hshare
  · rw [hadd]
    exact hf.append_accepted hhost hnew hshare

theorem host?_of_take (hf : Ledger limits f added taken) {visit : Visit} (ht : f.take now = some (visit, g)) :
    ∀ url ∈ visit.url.toList, url.host? = some visit.host := by
  obtain ⟨schedule, -, hurl, -⟩ := take_eq_some ht
  intro url h
  have hqueue : url ∈ f.queue visit.host := by
    rw [hurl, Option.mem_toList] at h
    exact List.mem_of_mem_head? h
  exact (hf.mem_firsts_of_mem_queue (Or.inr hqueue)).2

theorem take (hf : Ledger limits f added taken) {visit : Visit} (ht : f.take now = some (visit, g)) :
    Ledger limits g added (taken ++ visit.url.toList) := by
  have hqueue (h : String) := queue_take (h := h) ht
  have hhost := hf.host?_of_take ht
  obtain ⟨schedule, -, hurl, rfl⟩ := take_eq_some ht
  have hsplit : visit.url.toList ++ (f.queue visit.host).tail = f.queue visit.host := by
    rw [hurl]
    cases f.queue visit.host <;> rfl
  have hofHost (h : String) : ofHost h visit.url.toList = if h = visit.host then visit.url.toList else [] := by
    split
    · next e => exact List.filter_eq_self.2 fun url hurl => decide_eq_true (e ▸ hhost url hurl)
    · next e =>
      refine List.filter_eq_nil_iff.2 fun url hurl => ?_
      rw [hhost url hurl, decide_eq_true_iff]
      exact fun e' => e (Option.some.inj e').symm
  refine ⟨hf.mem_seen, hf.mem_accepted, hf.share_eq, ?_, ?_⟩
  · intro h
    rw [ofHost_append, hofHost, hqueue, ← hf.queue_eq h]
    split
    · next e => rw [List.append_assoc, e, hsplit]
    · rw [List.append_nil]
  · intro url h
    rcases List.mem_append.1 h with h | h
    · exact hf.hosts url h
    · rw [hhost url h]
      rfl

theorem release (hf : Ledger limits f added taken) (host : String) :
    Ledger limits (f.release limits now host) added taken := by
  obtain ⟨-, hrelease⟩ | ⟨-, hrelease⟩ := release_cases limits now f host
  · rw [hrelease]
    exact ⟨hf.mem_seen, hf.mem_accepted, hf.share_eq, hf.queue_eq, hf.hosts⟩
  · rw [hrelease]
    exact ⟨hf.mem_seen, hf.mem_accepted, hf.share_eq, hf.queue_eq, hf.hosts⟩

/-! ## What follows for the URLs that were taken -/

theorem length_ofHost_le (hf : Ledger limits f added taken) (host : String) :
    (ofHost host taken).length ≤ limits.perHost := by
  have hlength := congrArg List.length (hf.queue_eq host)
  rw [List.length_append, length_allotted] at hlength
  omega

theorem mem_firsts (hf : Ledger limits f added taken) {url : Url} (h : url ∈ taken) : url ∈ firsts added := by
  obtain ⟨host, hhost⟩ := Option.isSome_iff_exists.1 (hf.hosts url h)
  exact (hf.mem_firsts_of_mem_queue (Or.inl (mem_ofHost.2 ⟨h, hhost⟩))).1

/-- What is taken for each host is the beginning of what it was given, so that no URL is taken more often than it
stands in the list of first URLs. -/
theorem subperm_firsts (hf : Ledger limits f added taken) : taken.Subperm (firsts added) := by
  refine List.subperm_ext_iff.2 fun url h => ?_
  obtain ⟨host, hhost⟩ := Option.isSome_iff_exists.1 (hf.hosts url h)
  have hcount (urls : List Url) : (ofHost host urls).count url = urls.count url :=
    List.count_filter (decide_eq_true hhost)
  have hprefix : ofHost host taken <+: ofHost host (firsts added) := by
    refine List.IsPrefix.trans ⟨f.queue host, hf.queue_eq host⟩ ?_
    exact List.take_prefix _ _
  rw [← hcount taken, ← hcount (firsts added)]
  exact hprefix.sublist.count_le url

/-- **No URL is taken twice.** -/
theorem nodup_taken (hf : Ledger limits f added taken) : (taken.map key).Nodup := by
  obtain ⟨l, hperm, hsublist⟩ := hf.subperm_firsts
  exact (hperm.map key).nodup_iff.1 ((nodup_firsts added).sublist (hsublist.map key))

end Ledger

/-! ## Runs -/

/-- The ledger of a run. -/
def Run.Recorded (limits : Limits) (r : Run) : Prop :=
  Ledger limits r.frontier (addedUrls r.events) (urlsOf (takenVisits r.events))

theorem Run.Recorded.act {limits : Limits} {r : Run} (hr : r.Recorded limits) (now : Nat) (action : Action) :
    (r.act limits now action).Recorded limits := by
  unfold Run.Recorded at hr ⊢
  cases action with
  | add url =>
    unfold Run.act
    dsimp only
    rw [addedUrls_added]
    exact hr.add url
  | take =>
    unfold Run.act
    dsimp only
    split
    · exact hr
    · next visit f htake =>
      rw [takenVisits_taken, urlsOf_append]
      exact hr.take htake
  | release host => exact hr.release host

/-- **Every run keeps the ledger.** -/
theorem recorded_run (limits : Limits) (actions : List (Nat × Action)) : (run limits actions).Recorded limits := by
  induction actions using List.reverseRecOn with
  | nil => exact Ledger.empty limits
  | append_singleton actions action ih =>
    rw [run_append]
    exact ih.act action.1 action.2

end Retrieval.Frontier
