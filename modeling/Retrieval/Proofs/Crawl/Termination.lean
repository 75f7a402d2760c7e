import Mathlib.Algebra.Order.BigOperators.Group.Finset
import Retrieval.Crawl
import Retrieval.Proofs.Crawl.Holding
import Retrieval.Proofs.Crawl.Ledger

/-!
# Crawls come to an end

A crawl by one worker is a run of its frontier, in which hosts are released as soon as they have been visited and links
are added that stay on the host. So it visits only hosts of its seeds, each no more often than it may be, and if it ends
before it has enough pages, no URL is left.

* `Frontier.Run.round` : what a visit makes of a run; a host is taken, links are added, and it is released;
* `Crawl.Reaches` : the crawls that are reached, with the visits so far, at whatever times they are made;
* `Crawl.kept?`, `Crawl.followed` : the page that an answer brings, and the links that are added for it;
* `Crawl.Underway` : the invariant; the frontier is that of a run which took the visits and holds no host;
* `Crawl.Underway.visit` : a visit keeps it;
* `Crawl.Underway.length_visits_le` : how many visits there are at most;
* `Crawl.ends_and_strands_nothing` : every crawl ends, and how.
-/

namespace Retrieval

open Frontier (Visit Run Held addedUrls takenVisits urlsOf ofHost firsts key)

namespace Frontier

/-! ## Adding many URLs -/

def Run.addAll (limits : Limits) (r : Run) (now : Nat) (urls : List Url) : Run :=
  urls.foldl (fun r url => r.act limits now (.add url)) r

def Run.Reached (limits : Limits) (r : Run) : Prop := ∃ actions, run limits actions = r

variable {limits : Limits} {r : Run}

theorem Run.Reached.act (hr : r.Reached limits) (now : Nat) (action : Action) :
    (r.act limits now action).Reached limits := by
  obtain ⟨actions, rfl⟩ := hr
  exact ⟨actions ++ [(now, action)], run_append limits actions now action⟩

theorem Run.Reached.addAll (hr : r.Reached limits) (now : Nat) (urls : List Url) :
    (r.addAll limits now urls).Reached limits :=
  List.foldlRecOn urls _ hr fun _ hr url _ => hr.act now (.add url)

theorem Run.Reached.accounted (hr : r.Reached limits) : r.frontier.Accounted (Held r.events) := by
  obtain ⟨actions, rfl⟩ := hr
  exact accounted_run limits actions

theorem Run.Reached.recorded (hr : r.Reached limits) : r.Recorded limits := by
  obtain ⟨actions, rfl⟩ := hr
  exact recorded_run limits actions

theorem Run.frontier_addAll (limits : Limits) (r : Run) (now : Nat) (urls : List Url) :
    (r.addAll limits now urls).frontier = r.frontier.addAll limits now urls := by
  induction urls generalizing r with
  | nil => rfl
  | cons url urls ih => exact ih (r.act limits now (.add url))

theorem Run.takenVisits_addAll (limits : Limits) (r : Run) (now : Nat) (urls : List Url) :
    takenVisits (r.addAll limits now urls).events = takenVisits r.events :=
  List.foldlRecOn (motive := fun r' : Run => takenVisits r'.events = takenVisits r.events) urls _ rfl fun _ h _ _ => h

theorem Run.held_addAll (limits : Limits) (r : Run) (now : Nat) (urls : List Url) :
    Held (r.addAll limits now urls).events = Held r.events :=
  List.foldlRecOn (motive := fun r' : Run => Held r'.events = Held r.events) urls _ rfl fun _ h _ _ => h

theorem Run.addedUrls_addAll (limits : Limits) (r : Run) (now : Nat) (urls : List Url) :
    addedUrls (r.addAll limits now urls).events = addedUrls r.events ++ urls := by
  induction urls generalizing r with
  | nil => exact (List.append_nil _).symm
  | cons url urls ih =>
    have h := ih (r.act limits now (.add url))
    rw [Run.act, addedUrls_added, List.append_assoc] at h
    exact h

/-! ## Rounds -/

/-- A run after a visit was taken, links were added, and a host was released. -/
def Run.round (limits : Limits) (r : Run) (now later : Nat) (links : List Url) (host : String) : Run :=
  ((r.act limits now .take).addAll limits later links).act limits later (.release host)

section Round
variable {now : Nat} {visit : Visit} {f : Frontier}

theorem Run.Reached.round (hr : r.Reached limits) (now later : Nat) (links : List Url) (host : String) :
    (r.round limits now later links host).Reached limits :=
  ((hr.act now .take).addAll later links).act later (.release host)

theorem Run.act_take (ht : r.frontier.take now = some (visit, f)) :
    r.act limits now .take = ⟨f, .taken now visit :: r.events⟩ := by
  rw [Run.act, ht]

/-- The ledger while a visit is under way. -/
theorem Run.Reached.recorded_take (hr : r.Reached limits) (ht : r.frontier.take now = some (visit, f)) :
    Ledger limits f (addedUrls r.events) (urlsOf (takenVisits r.events) ++ visit.url.toList) := by
  have hrecorded := (hr.act now .take).recorded
  rwa [Run.act_take ht, Run.Recorded, takenVisits_taken, urlsOf_append] at hrecorded

theorem Run.Reached.mem_firsts_take (hr : r.Reached limits) (ht : r.frontier.take now = some (visit, f)) {url : Url}
    (hurl : visit.url = some url) : url ∈ firsts (addedUrls r.events) := by
  have hrecorded := hr.recorded_take ht
  rw [hurl] at hrecorded
  exact hrecorded.mem_firsts (List.mem_append_right _ List.mem_cons_self)

variable (ht : r.frontier.take now = some (visit, f)) (later : Nat) (links : List Url) (host : String)
include ht

theorem Run.frontier_round : (r.round limits now later links host).frontier =
    (f.addAll limits later links).release limits later host := by
  rw [Run.round, Run.act_take ht]
  exact congrArg (release limits later · host) (Run.frontier_addAll ..)

theorem Run.takenVisits_round :
    takenVisits (r.round limits now later links host).events = takenVisits r.events ++ [visit] := by
  rw [Run.round, Run.act_take ht]
  exact (Run.takenVisits_addAll ..).trans (takenVisits_taken ..)

theorem Run.addedUrls_round :
    addedUrls (r.round limits now later links host).events = addedUrls r.events ++ links := by
  rw [Run.round, Run.act_take ht]
  exact Run.addedUrls_addAll ..

theorem Run.held_round (h : String) : Held (r.round limits now later links host).events h ↔
    host ≠ h ∧ (visit.host = h ∨ Held r.events h) := by
  rw [Run.round, Run.act_take ht]
  exact and_congr_right fun _ => iff_of_eq (congrFun (Run.held_addAll ..) h)

end Round

/-! ## Few URLs -/

/-- What comes first behind other URLs came first there or is among those behind. -/
theorem mem_firsts_append {urls others : List Url} {url : Url} (h : url ∈ firsts (urls ++ others)) :
    url ∈ firsts urls ∨ url ∈ others := by
  induction others using List.reverseRecOn with
  | nil =>
    rw [List.append_nil] at h
    exact Or.inl h
  | append_singleton others other ih =>
    rw [← List.append_assoc, firsts_append, sight] at h
    rw [List.mem_append, ← or_assoc]
    split at h
    · exact Or.inl (ih h)
    · exact (List.mem_append.1 h).imp ih id

/-- URLs of few hosts, each of which has few, are few. -/
theorem length_le_mul {urls : List Url} {hosts : Finset String} {n : Nat} (hnodup : urls.Nodup)
    (hhosts : ∀ url ∈ urls, ∃ host ∈ hosts, url.host? = some host)
    (hfew : ∀ host, (ofHost host urls).length ≤ n) : urls.length ≤ hosts.card * n := by
  have hmaps : ∀ url ∈ urls.toFinset, url.host? ∈ hosts.map ⟨some, Option.some_injective _⟩ := by
    intro url h
    obtain ⟨host, hhost, he⟩ := hhosts url (List.mem_toFinset.1 h)
    rw [he]
    exact Finset.mem_map_of_mem _ hhost
  have hfiber : ∀ host? ∈ hosts.map ⟨some, Option.some_injective _⟩,
      (urls.toFinset.filter fun url => url.host? = host?).card ≤ n := by
    intro host? h
    obtain ⟨host, -, rfl⟩ := Finset.mem_map.1 h
    have hfilter : urls.toFinset.filter (fun url => url.host? = some host) = (ofHost host urls).toFinset := by
      ext url
      simp [mem_ofHost]
    exact hfilter ▸ (List.toFinset_card_le _).trans (hfew host)
  have hcard := Finset.card_le_mul_card_image_of_maps_to hmaps n hfiber
  rw [List.toFinset_card_of_nodup hnodup, Finset.card_map, Nat.mul_comm] at hcard
  exact hcard

end Frontier

/-- Whether a filter finds a text to be a near-duplicate. -/
def NearDuplicateFilter.rejects (f : NearDuplicateFilter) (text : String) : Bool :=
  match f.check text with
  | .ok (true, _) => true
  | _ => false

namespace Crawl

variable {s : Settings} {web : Web} {seeds : List Url} {visits : List Visit} {c taken : Crawl} {r : Run} {next : Visit}

/-! ## Visits -/

/-- The crawls that are reached, with the visits so far. The clock may be moved before a visit is taken, and again
before its answer is. -/
inductive Reaches (s : Settings) (web : Web) (seeds : List Url) : List Visit → Crawl → Prop
  | start : Reaches s web seeds [] (start s seeds)
  | visit {visits : List Visit} {c taken : Crawl} {next : Visit} (now later : Nat) (hc : Reaches s web seeds visits c)
      (hnext : { c with now }.next? s = some (next, taken)) :
      Reaches s web seeds (visits ++ [next]) (carryOut s web { taken with now := later } next)

theorem next?_eq_some (h : c.next? s = some (next, taken)) : c.records.size < s.maxDocs ∧
    ∃ f, c.frontier.take c.now = some (next, f) ∧ taken = { c with frontier := f } := by
  unfold next? isFull at h
  split at h
  · cases h
  · next hroom =>
    rw [decide_eq_true_iff, Nat.not_le] at hroom
    obtain ⟨⟨visit, f⟩, htake, he⟩ := Option.map_eq_some_iff.1 h
    cases he
    exact ⟨hroom, f, htake, rfl⟩

theorem next?_eq_none (h : c.next? s = none) : s.maxDocs ≤ c.records.size ∨ c.frontier.schedule.queue = [] := by
  unfold next? isFull at h
  split at h
  · next hfull => exact Or.inl (of_decide_eq_true hfull)
  · have htake := Option.map_eq_none_iff.1 h
    unfold Frontier.take at htake
    cases hpop : c.frontier.schedule.pop c.now with
    | none => exact Or.inr (Schedule.pop_eq_none hpop)
    | some popped =>
      rw [hpop] at htake
      cases htake

/-- The page that a URL is answered with, if it is kept: one that is found to be a near-duplicate is not. -/
def kept? (web : Web) (c : Crawl) (url : Url) : Option Page :=
  (web url).filter fun page => !c.filter.rejects page.body

def followed (web : Web) (c : Crawl) (url : Url) : List Url := (kept? web c url).elim [] (localLinks url)

/-- An answer brings nothing but a filter, or it is a page that is kept. -/
theorem visit_cases (s : Settings) (web : Web) (c : Crawl) (url : Url) :
    (kept? web c url = none ∧ ∃ filter, visit s web c url = { c with filter }) ∨
      ∃ page filter, kept? web c url = some page ∧ visit s web c url = keep s { c with filter } url page := by
  unfold visit kept?
  cases web url with
  | none => exact Or.inl ⟨rfl, c.filter, rfl⟩
  | some page =>
    simp only [Option.filter_some, NearDuplicateFilter.rejects]
    rcases c.filter.check page.body with error | ⟨_ | _, filter⟩
    · exact Or.inr ⟨page, c.filter, rfl, rfl⟩
    · exact Or.inr ⟨page, filter, rfl, rfl⟩
    · exact Or.inl ⟨rfl, filter, rfl⟩

theorem host?_of_mem_followed {url link : Url} (h : link ∈ followed web c url) : link.host? = url.host? := by
  unfold followed at h
  cases hkept : kept? web c url with
  | none =>
    rw [hkept] at h
    cases h
  | some page =>
    rw [hkept] at h
    exact of_decide_eq_true (List.mem_filter.1 h).2

theorem frontier_visit (s : Settings) (web : Web) (c : Crawl) (url : Url) :
    (visit s web c url).frontier = c.frontier.addAll s.limits c.now (followed web c url) ∧
      (visit s web c url).now = c.now := by
  unfold followed
  obtain ⟨hkept, filter, hvisit⟩ | ⟨page, filter, hkept, hvisit⟩ := visit_cases s web c url
  · rw [hvisit, hkept]
    exact ⟨rfl, rfl⟩
  · rw [hvisit, hkept]
    exact ⟨rfl, rfl⟩

theorem records_visit (s : Settings) (web : Web) (c : Crawl) (url : Url) :
    (visit s web c url).records.toList =
      c.records.toList ++ ((kept? web c url).map fun page => .ofPage (key url) page).toList := by
  obtain ⟨hkept, filter, hvisit⟩ | ⟨page, filter, hkept, hvisit⟩ := visit_cases s web c url
  · rw [hvisit, hkept]
    exact (List.append_nil _).symm
  · rw [hvisit, hkept]
    exact Array.toList_push

theorem size_records_visit_le (s : Settings) (web : Web) (c : Crawl) (url : Url) :
    (visit s web c url).records.size ≤ c.records.size + 1 := by
  have hlength := congrArg List.length (records_visit s web c url)
  rw [List.length_append, Array.length_toList, Array.length_toList] at hlength
  rw [hlength]
  exact Nat.add_le_add_left Option.length_toList_le _

theorem carryOut_of_url {url : Url} (h : next.url = some url) : carryOut s web c next =
    { visit s web c url with
      frontier := (visit s web c url).frontier.release s.limits (visit s web c url).now next.host
      now := (visit s web c url).now + 1 } := by
  rw [carryOut, h]

/-! ## The run of the frontier -/

/-- A crawl with its visits and the run of its frontier. The hosts of the URLs that were added are those of the
start. -/
structure Underway (s : Settings) (seeds : List Url) (visits : List Visit) (c : Crawl) (r : Run) : Prop where
  reached : r.Reached s.limits
  frontier_eq : r.frontier = c.frontier
  visits_eq : takenVisits r.events = visits
  free : ∀ host, ¬ Held r.events host
  hosts : ∀ url ∈ firsts (addedUrls r.events),
    ∃ host ∈ (start s seeds).frontier.accepted, url.host? = some host
  room : c.records.size ≤ s.maxDocs
  urls : ∀ visit ∈ visits, visit.url.isSome

theorem reached_start (s : Settings) (seeds : List Url) : (({} : Run).addAll s.limits 1 seeds).Reached s.limits :=
  Run.Reached.addAll ⟨[], rfl⟩ 1 seeds

theorem recorded_start (s : Settings) (seeds : List Url) :
    Frontier.Ledger s.limits (start s seeds).frontier seeds [] := by
  have h := (reached_start s seeds).recorded
  unfold Run.Recorded at h
  rw [Run.frontier_addAll, Run.addedUrls_addAll, Run.takenVisits_addAll] at h
  exact h

theorem underway_start (s : Settings) (seeds : List Url) :
    Underway s seeds [] (start s seeds) (({} : Run).addAll s.limits 1 seeds) where
  reached := reached_start s seeds
  frontier_eq := Run.frontier_addAll s.limits {} 1 seeds
  visits_eq := Run.takenVisits_addAll s.limits {} 1 seeds
  free host := by
    rw [Run.held_addAll]
    exact id
  hosts url h := by
    rw [Run.addedUrls_addAll] at h
    obtain ⟨host, hhost⟩ := Option.isSome_iff_exists.1 (Frontier.mem_of_mem_firsts h).2
    refine ⟨host, ((recorded_start s seeds).mem_accepted host).2 ?_, hhost⟩
    exact List.ne_nil_of_mem (Frontier.mem_ofHost.2 ⟨h, hhost⟩)
  room := Nat.zero_le _
  urls visit h := by cases h

/-- The next visit is taken from the run, and its URL is one of those that were added. -/
theorem Underway.of_next? (hr : Underway s seeds visits c r) {now : Nat}
    (hnext : { c with now }.next? s = some (next, taken)) :
    r.frontier.take now = some (next, taken.frontier) ∧
      ∃ url, next.url = some url ∧ url ∈ firsts (addedUrls r.events) := by
  obtain ⟨-, f, htake, rfl⟩ := next?_eq_some hnext
  have ht : r.frontier.take now = some (next, f) := by
    rw [hr.frontier_eq]
    exact htake
  obtain ⟨-, -, hsome⟩ := hr.reached.accounted.of_take ht
  obtain ⟨url, hurl⟩ := Option.isSome_iff_exists.1 hsome
  exact ⟨ht, url, hurl, hr.reached.mem_firsts_take ht hurl⟩

/-- A visit keeps it: its host is held while the links of its answer are added, and is released afterwards. -/
theorem Underway.visit (hr : Underway s seeds visits c r) {now : Nat}
    (hnext : { c with now }.next? s = some (next, taken)) (web : Web) (later : Nat) {url : Url}
    (hurl : next.url = some url) :
    Underway s seeds (visits ++ [next]) (carryOut s web { taken with now := later } next)
      (r.round s.limits now later (followed web { taken with now := later } url) next.host) := by
  obtain ⟨ht, -⟩ := hr.of_next? hnext
  obtain ⟨hroom, f, -, rfl⟩ := next?_eq_some hnext
  obtain ⟨hfrontier, hnow⟩ := frontier_visit s web { c with frontier := f, now := later } url
  have hsize := size_records_visit_le s web { c with frontier := f, now := later } url
  refine ⟨?_, ?_, ?_, ?_, ?_, ?_, ?_⟩
  · exact hr.reached.round now later _ next.host
  · rw [Run.frontier_round ht, carryOut_of_url hurl]
    dsimp only
    rw [hfrontier, hnow]
  · rw [Run.takenVisits_round ht, hr.visits_eq]
  · intro host hheld
    rw [Run.held_round ht] at hheld
    exact hheld.2.elim hheld.1 (hr.free host)
  · intro other h
    rw [Run.addedUrls_round ht] at h
    rcases Frontier.mem_firsts_append h with h | h
    · exact hr.hosts other h
    · rw [host?_of_mem_followed h]
      exact hr.hosts url (hr.reached.mem_firsts_take ht hurl)
  · rw [carryOut_of_url hurl]
    exact hsize.trans hroom
  · intro visit h
    rcases List.mem_append.1 h with h | h
    · exact hr.urls visit h
    · rw [List.mem_singleton.1 h, hurl]
      rfl

theorem Reaches.underway (hc : Reaches s web seeds visits c) : ∃ r, Underway s seeds visits c r := by
  induction hc with
  | start => exact ⟨_, underway_start s seeds⟩
  | visit now later _ hnext ih =>
    obtain ⟨r, hr⟩ := ih
    obtain ⟨-, url, hurl, -⟩ := hr.of_next? hnext
    exact ⟨_, hr.visit hnext web later hurl⟩

/-! ## How many visits there are -/

/-- Every visit has a URL, none has one of another, and only hosts of the start have them. -/
theorem Underway.length_visits_le (hr : Underway s seeds visits c r) :
    visits.length ≤ (start s seeds).visitBound s := by
  have hrecorded := hr.reached.recorded
  rw [Run.Recorded, hr.visits_eq] at hrecorded
  have hlength : (urlsOf visits).length = visits.length := List.filterMap_length_eq_length.2 hr.urls
  rw [← hlength, visitBound, ← card_toFinset_keys]
  refine Frontier.length_le_mul hrecorded.nodup_taken.of_map ?_ hrecorded.length_ofHost_le
  intro url h
  obtain ⟨host, hhost, he⟩ := hr.hosts url (hrecorded.mem_firsts h)
  exact ⟨host, List.mem_toFinset.2 (Std.TreeMap.mem_keys.2 hhost), he⟩

theorem mem_seeds_of_mem_accepted {host : String} (h : host ∈ (start s seeds).frontier.accepted) :
    ∃ seed ∈ seeds, seed.host? = some host := by
  rw [(recorded_start s seeds).mem_accepted] at h
  obtain ⟨seed, hseed⟩ := List.exists_mem_of_ne_nil _ h
  obtain ⟨hfirst, hhost⟩ := Frontier.mem_ofHost.1 hseed
  exact ⟨seed, (Frontier.mem_of_mem_firsts hfirst).1, hhost⟩

theorem visitBound_start_le (s : Settings) (seeds : List Url) :
    (start s seeds).visitBound s ≤ (seeds.filterMap Url.host?).toFinset.card * s.limits.perHost := by
  rw [visitBound, ← card_toFinset_keys]
  refine Nat.mul_le_mul_right _ (Finset.card_le_card fun host h => ?_)
  obtain ⟨seed, hseed, hhost⟩ := mem_seeds_of_mem_accepted (Std.TreeMap.mem_keys.1 (List.mem_toFinset.1 h))
  exact List.mem_toFinset.2 (List.mem_filterMap.2 ⟨seed, hseed, hhost⟩)

/-! ## The end -/

theorem Reaches.step_eq_none (hc : Reaches s web seeds visits c)
    (hall : visits.length = (Crawl.start s seeds).visitBound s) : c.step s web = none := by
  refine Option.map_eq_none_iff.2 (Option.eq_none_iff_forall_ne_some.2 ?_)
  rintro ⟨next, taken⟩ hnext
  obtain ⟨r, hr⟩ := (hc.visit c.now taken.now hnext).underway
  have hmore := hr.length_visits_le
  rw [List.length_append, List.length_singleton] at hmore
  omega

/-- A crawl that goes on for some visits makes them all or is at its end. -/
theorem Reaches.runFor (hc : Reaches s web seeds visits c) (fuel : Nat) :
    ∃ more, Reaches s web seeds (visits ++ more) (runFor s web fuel c) ∧
      (more.length = fuel ∨ (Crawl.runFor s web fuel c).step s web = none) := by
  induction fuel generalizing c visits with
  | zero => exact ⟨[], (List.append_nil visits).symm ▸ hc, Or.inl rfl⟩
  | succ fuel ih =>
    unfold Crawl.runFor
    split
    · next stepped hstep =>
      obtain ⟨⟨next, taken⟩, hnext, rfl⟩ := Option.map_eq_some_iff.1 hstep
      obtain ⟨more, hmore, hend⟩ := ih (hc.visit c.now taken.now hnext)
      rw [List.append_assoc, List.singleton_append] at hmore
      refine ⟨next :: more, hmore, hend.imp_left fun hlength => ?_⟩
      rw [List.length_cons, hlength]
    · next hstep => exact ⟨[], (List.append_nil visits).symm ▸ hc, Or.inr hstep⟩

theorem reaches_run (s : Settings) (web : Web) (seeds : List Url) :
    ∃ visits, Reaches s web seeds visits (run s web seeds) ∧ (run s web seeds).step s web = none := by
  have hstart : Reaches s web seeds [] (start s seeds) := Reaches.start
  obtain ⟨visits, hvisits, hend⟩ := hstart.runFor ((start s seeds).visitBound s)
  refine ⟨visits, hvisits, ?_⟩
  rcases hend with hlength | hstep
  · exact hvisits.step_eq_none hlength
  · exact hstep

/-- A crawl at its end that has room for a page has no URL left, and no host is busy. -/
theorem Underway.nothing_left (hr : Underway s seeds visits c r) (hqueue : c.frontier.schedule.queue = []) :
    (∀ host, host ∉ c.frontier.busy) ∧ ∀ host, c.frontier.queue host = [] := by
  have haccounted := hr.reached.accounted
  rw [hr.frontier_eq] at haccounted
  have hbusy : ∀ host, host ∉ c.frontier.busy := by
    intro host h
    rcases (haccounted.busy_iff host).1 h with hwaiting | hheld
    · rw [Schedule.waiting, hqueue] at hwaiting
      cases hwaiting
    · exact hr.free host hheld
  refine ⟨hbusy, fun host => ?_⟩
  by_contra hne
  exact hbusy host (haccounted.busy_of_queue host hne)

/-- **Every crawl ends and strands nothing.** The crawl that is run is at its end. Whatever crawl is reached:
* each of its visits has a URL, and no two URLs are the same up to their fragments;
* there are no more visits than the hosts of the seeds times the visits a host may have, and no more of each host;
* the URLs are of hosts of the seeds;
* if the crawl is at its end, it has kept as many pages as it may, or it has no URL left and no host is scheduled or
  busy. -/
theorem ends_and_strands_nothing (s : Settings) (web : Web) (seeds : List Url) :
    (∃ visits, Reaches s web seeds visits (run s web seeds) ∧ (run s web seeds).step s web = none) ∧
    ∀ visits c, Reaches s web seeds visits c →
      (∀ visit ∈ visits, visit.url.isSome) ∧
      visits.length ≤ (seeds.filterMap Url.host?).toFinset.card * s.limits.perHost ∧
      (∀ host, (ofHost host (urlsOf visits)).length ≤ s.limits.perHost) ∧
      (∀ url ∈ urlsOf visits, url.host?.isSome ∧ ∃ seed ∈ seeds, seed.host? = url.host?) ∧
      ((urlsOf visits).map key).Nodup ∧
      (c.step s web = none → c.records.size = s.maxDocs ∨
        c.frontier.schedule.queue = [] ∧ (∀ host, host ∉ c.frontier.busy) ∧ ∀ host, c.frontier.queue host = []) := by
  refine ⟨reaches_run s web seeds, ?_⟩
  intro visits c hc
  obtain ⟨r, hr⟩ := hc.underway
  have hrecorded := hr.reached.recorded
  rw [Run.Recorded, hr.visits_eq] at hrecorded
  refine ⟨hr.urls, hr.length_visits_le.trans (visitBound_start_le s seeds), hrecorded.length_ofHost_le, ?_,
    hrecorded.nodup_taken, ?_⟩
  · intro url h
    obtain ⟨host, hhost, he⟩ := hr.hosts url (hrecorded.mem_firsts h)
    rw [he]
    exact ⟨rfl, mem_seeds_of_mem_accepted hhost⟩
  · intro hstep
    rcases next?_eq_none (Option.map_eq_none_iff.1 hstep) with hfull | hqueue
    · exact Or.inl (Nat.le_antisymm hr.room hfull)
    · exact Or.inr ⟨hqueue, hr.nothing_left hqueue⟩

end Crawl

end Retrieval
