import Retrieval.Proofs.Crawl.Termination

/-!
# What a crawl reaches

A crawl fetches nothing that cannot be reached from its seeds through pages that it kept, and if no URL was refused for
want of a share and it was not stopped by the number of pages, it fetches all that can be reached, each URL once.

* `Frontier.refusals` : the URLs that are refused when URLs are taken in;
* `Frontier.Enough` : no host had more URLs than it may have;
* `Frontier.Ledger.enough_addAll` : it stays so while no URL is refused;
* `Crawl.Log`, `Crawl.Logged` : the crawls that are reached, with what was fetched, kept and refused;
* `Crawl.Reachable` : the URLs that seeds and links of kept pages lead to;
* `Crawl.Traced` : the invariant; the URLs that were added are the seeds and the links of kept pages;
* `Crawl.Traced.visit` : a visit keeps it;
* `Crawl.fetches_what_is_reachable` : what is fetched by the end.
-/

namespace Retrieval

namespace Frontier

variable {limits : Limits} {now : Nat} {f : Frontier} {added taken : List Url}

/-! ## Refusals -/

/-- Whether a URL is refused: it is new, but its host has had its share. -/
def refuses (limits : Limits) (f : Frontier) (url : Url) : Bool :=
  url.host?.any fun host => !f.seen.contains (key url) && decide (limits.perHost ≤ f.share host)

/-- The URLs that are refused when URLs are taken in in order. -/
def refusals (limits : Limits) (now : Nat) (f : Frontier) : List Url → List Url
  | [] => []
  | url :: urls =>
    let rest := refusals limits now (f.add limits now url) urls
    if f.refuses limits url then url :: rest else rest

/-- No host was to have more URLs than it may have. -/
def Enough (limits : Limits) (added : List Url) : Prop := ∀ host, (ofHost host (firsts added)).length ≤ limits.perHost

theorem share_lt_of_not_refuses {url : Url} {host : String} (hhost : url.host? = some host) (hnew : key url ∉ f.seen)
    (h : f.refuses limits url = false) : f.share host < limits.perHost := by
  rw [refuses, hhost, Option.any_some, Bool.and_eq_false_iff, Bool.not_eq_false', Std.TreeSet.contains_iff_mem] at h
  rcases h with hseen | hshare
  · exact absurd hseen hnew
  · exact Nat.not_le.1 (of_decide_eq_false hshare)

namespace Ledger

theorem enough_add (hf : Ledger limits f added taken) (h : Enough limits added) {url : Url}
    (hrefuse : f.refuses limits url = false) : Enough limits (added ++ [url]) := by
  intro host
  by_cases hold : url.host? = none ∨ key url ∈ f.seen
  · rw [hf.firsts_append_old hold]
    exact h host
  · obtain ⟨hhost, hnew⟩ := not_or.1 hold
    obtain ⟨other, hother⟩ := Option.ne_none_iff_exists'.1 hhost
    have hshare := share_lt_of_not_refuses hother hnew hrefuse
    rw [hf.share_eq, length_allotted] at hshare
    rw [hf.firsts_append_new hother hnew, ofHost_append, ofHost_singleton, hother, List.length_append]
    by_cases e : some other = some host
    · cases e
      rw [if_pos rfl, List.length_singleton]
      omega
    · rw [if_neg e]
      exact h host

theorem enough_addAll (hf : Ledger limits f added taken) (h : Enough limits added) {urls : List Url}
    (hrefusals : refusals limits now f urls = []) : Enough limits (added ++ urls) := by
  induction urls generalizing f added with
  | nil =>
    rw [List.append_nil]
    exact h
  | cons url urls ih =>
    rw [refusals] at hrefusals
    split at hrefusals
    · cases hrefusals
    · next hrefuse =>
      have hrest := ih (hf.add url) (hf.enough_add h (Bool.eq_false_iff.2 hrefuse)) hrefusals
      rwa [List.append_assoc, List.singleton_append] at hrest

/-- What comes first is taken once no URL waits, if no host was to have more than it may. -/
theorem mem_taken (hf : Ledger limits f added taken) (h : Enough limits added) (hqueue : ∀ host, f.queue host = [])
    {url : Url} (hurl : url ∈ firsts added) : url ∈ taken := by
  obtain ⟨host, hhost⟩ := Option.isSome_iff_exists.1 (mem_of_mem_firsts hurl).2
  have hall := hf.queue_eq host
  rw [hqueue, List.append_nil, allotted, List.take_of_length_le (h host)] at hall
  have hmem : url ∈ ofHost host taken := by
    rw [hall]
    exact mem_ofHost.2 ⟨hurl, hhost⟩
  exact (mem_ofHost.1 hmem).1

end Ledger

end Frontier

namespace Crawl

open Frontier (Visit Run addedUrls urlsOf firsts key refusals Enough)

/-! ## Logs -/

/-- What was fetched, which pages were kept, and which URLs were refused because their host has had its share, in
order. -/
structure Log where
  fetched : List Url := []
  kept : List (Url × Page) := []
  refused : List Url := []

/-- The log with a visit. -/
def Log.visit (s : Settings) (web : Web) (log : Log) (c : Crawl) (next : Visit) : Log :=
  match next.url with
  | none => log
  | some url =>
    { fetched := log.fetched ++ [url]
      kept := log.kept ++ ((kept? web c url).map (url, ·)).toList
      refused := log.refused ++ refusals s.limits c.now c.frontier (followed web c url) }

/-- The crawls that are reached, with their logs. The clock may be moved before a visit is taken, and again before its
answer is. -/
inductive Logged (s : Settings) (web : Web) (seeds : List Url) : Log → Crawl → Prop
  | start : Logged s web seeds { refused := refusals s.limits 1 {} seeds } (start s seeds)
  | visit {log : Log} {c taken : Crawl} {next : Visit} (now later : Nat) (hc : Logged s web seeds log c)
      (hnext : { c with now }.next? s = some (next, taken)) :
      Logged s web seeds (log.visit s web { taken with now := later } next)
        (carryOut s web { taken with now := later } next)

/-- The URLs that can be reached, up to their fragments: those of seeds with a host, and with the URL of a kept page
those of its links on the same host. -/
inductive Reachable (seeds : List Url) (kept : List (Url × Page)) : String → Prop
  | seed {url : Url} (h : url ∈ seeds) (hhost : url.host?.isSome) : Reachable seeds kept (key url)
  | link {url link : Url} {page : Page} (hkept : (url, page) ∈ kept) (h : Reachable seeds kept (key url))
      (hlink : link ∈ page.links) (hhost : link.host? = url.host?) : Reachable seeds kept (key link)

variable {s : Settings} {web : Web} {seeds : List Url} {log : Log} {visits : List Visit} {c taken : Crawl} {r : Run}
  {next : Visit}

theorem Reachable.mono {kept more : List (Url × Page)} {k : String} (h : Reachable seeds kept k) (hkept : kept ⊆ more) :
    Reachable seeds more k := by
  induction h with
  | seed h hhost => exact .seed h hhost
  | link hpage _ hlink hhost ih => exact .link (hkept hpage) ih hlink hhost

theorem Reaches.logged (hc : Reaches s web seeds visits c) : ∃ log, Logged s web seeds log c := by
  induction hc with
  | start => exact ⟨_, .start⟩
  | visit now later _ hnext ih =>
    obtain ⟨log, hlog⟩ := ih
    exact ⟨_, hlog.visit now later hnext⟩

/-! ## The invariant -/

def linksOf (kept : List (Url × Page)) : List Url := kept.flatMap fun p => localLinks p.1 p.2

theorem linksOf_append (kept : List (Url × Page)) (web : Web) (c : Crawl) (url : Url) :
    linksOf (kept ++ ((kept? web c url).map (url, ·)).toList) = linksOf kept ++ followed web c url := by
  rw [linksOf, List.flatMap_append, ← linksOf, followed]
  cases kept? web c url with
  | none => rfl
  | some page => exact congrArg (linksOf kept ++ ·) (List.append_nil _)

theorem mem_linksOf {kept : List (Url × Page)} {link : Url} (h : link ∈ linksOf kept) :
    ∃ p ∈ kept, link ∈ p.2.links ∧ link.host? = p.1.host? := by
  obtain ⟨p, hp, hlink⟩ := List.mem_flatMap.1 h
  obtain ⟨hmem, hhost⟩ := List.mem_filter.1 hlink
  exact ⟨p, hp, hmem, of_decide_eq_true hhost⟩

/-- A crawl with its log and the run of its frontier. -/
structure Traced (s : Settings) (web : Web) (seeds : List Url) (log : Log) (visits : List Visit) (c : Crawl)
    (r : Run) : Prop where
  underway : Underway s seeds visits c r
  fetched_eq : log.fetched = urlsOf visits
  added_eq : addedUrls r.events = seeds ++ linksOf log.kept
  kept : ∀ p ∈ log.kept, p.1 ∈ log.fetched ∧ web p.1 = some p.2
  records_eq : c.records.toList = log.kept.map fun p => .ofPage (key p.1) p.2
  reachable : ∀ url ∈ log.fetched, Reachable seeds log.kept (key url)
  enough : log.refused = [] → Enough s.limits (addedUrls r.events)

theorem traced_start (s : Settings) (web : Web) (seeds : List Url) :
    Traced s web seeds { refused := refusals s.limits 1 {} seeds } [] (start s seeds)
      (({} : Run).addAll s.limits 1 seeds) where
  underway := underway_start s seeds
  fetched_eq := rfl
  added_eq := (Run.addedUrls_addAll s.limits {} 1 seeds).trans (List.append_nil seeds).symm
  kept p h := by cases h
  records_eq := rfl
  reachable url h := by cases h
  enough h := by
    have hnone : Enough s.limits [] := fun host => Nat.zero_le _
    rw [Run.addedUrls_addAll]
    exact (Frontier.Ledger.empty s.limits).enough_addAll hnone h

theorem Traced.recorded (hr : Traced s web seeds log visits c r) :
    Frontier.Ledger s.limits r.frontier (addedUrls r.events) log.fetched := by
  have hrecorded := hr.underway.reached.recorded
  rwa [Run.Recorded, hr.underway.visits_eq, ← hr.fetched_eq] at hrecorded

theorem Traced.reachable_of_mem_firsts (hr : Traced s web seeds log visits c r) {url : Url}
    (h : url ∈ firsts (addedUrls r.events)) : Reachable seeds log.kept (key url) := by
  obtain ⟨hadded, hhost⟩ := Frontier.mem_of_mem_firsts h
  rw [hr.added_eq] at hadded
  rcases List.mem_append.1 hadded with hseed | hlink
  · exact .seed hseed hhost
  · obtain ⟨p, hp, hmem, hsame⟩ := mem_linksOf hlink
    exact .link hp (hr.reachable p.1 (hr.kept p hp).1) hmem hsame

theorem mem_kept?_toList {url : Url} {p : Url × Page} (h : p ∈ ((kept? web c url).map (url, ·)).toList) :
    p.1 = url ∧ web p.1 = some p.2 := by
  obtain ⟨page, hpage, rfl⟩ := Option.map_eq_some_iff.1 (Option.mem_toList.1 h)
  exact ⟨rfl, (Option.filter_eq_some_iff.1 hpage).1⟩

/-- A visit keeps it: its URL was added before, and its page is the only one whose links are added. -/
theorem Traced.visit (hr : Traced s web seeds log visits c r) {now : Nat}
    (hnext : { c with now }.next? s = some (next, taken)) (later : Nat) :
    ∃ r', Traced s web seeds (log.visit s web { taken with now := later } next) (visits ++ [next])
      (carryOut s web { taken with now := later } next) r' := by
  obtain ⟨ht, url, hurl, hfirst⟩ := hr.underway.of_next? hnext
  have hrecords : taken.records = c.records := by
    obtain ⟨-, f, -, rfl⟩ := next?_eq_some hnext
    rfl
  have hadded : addedUrls (r.round s.limits now later (followed web { taken with now := later } url) next.host).events =
      addedUrls r.events ++ followed web { taken with now := later } url := Run.addedUrls_round ht later _ next.host
  rw [Log.visit, hurl]
  refine ⟨_, hr.underway.visit hnext web later hurl, ?_, ?_, ?_, ?_, ?_, ?_⟩
  · dsimp only
    rw [hr.fetched_eq, Frontier.urlsOf_append, hurl]
    rfl
  · rw [hadded, hr.added_eq, List.append_assoc, linksOf_append]
  · intro p hp
    rcases List.mem_append.1 hp with hp | hp
    · obtain ⟨hmem, hweb⟩ := hr.kept p hp
      exact ⟨List.mem_append_left _ hmem, hweb⟩
    · obtain ⟨he, hweb⟩ := mem_kept?_toList hp
      exact ⟨List.mem_append_right _ (List.mem_singleton.2 he), hweb⟩
  · rw [carryOut_of_url hurl]
    dsimp only
    rw [records_visit, List.map_append, ← hr.records_eq, hrecords, ← Option.toList_map, Option.map_map]
    rfl
  · intro other h
    rcases List.mem_append.1 h with h | h
    · exact (hr.reachable other h).mono (List.subset_append_left _ _)
    · rw [List.mem_singleton.1 h]
      exact (hr.reachable_of_mem_firsts hfirst).mono (List.subset_append_left _ _)
  · intro hnone
    obtain ⟨hbefore, hnow⟩ := List.append_eq_nil_iff.1 hnone
    rw [hadded]
    exact (hr.underway.reached.recorded_take ht).enough_addAll (hr.enough hbefore) hnow

theorem Logged.traced (hc : Logged s web seeds log c) : ∃ visits r, Traced s web seeds log visits c r := by
  induction hc with
  | start => exact ⟨_, _, traced_start s web seeds⟩
  | visit now later _ hnext ih =>
    obtain ⟨visits, r, hr⟩ := ih
    exact ⟨_, hr.visit hnext later⟩

/-! ## The end -/

theorem Traced.mem_firsts_of_reachable (hr : Traced s web seeds log visits c r) {k : String}
    (h : Reachable seeds log.kept k) : k ∈ (firsts (addedUrls r.events)).map key := by
  rw [hr.added_eq]
  cases h with
  | seed hseed hhost => exact Frontier.key_mem_firsts (List.mem_append_left _ hseed) hhost
  | @link url link page hkept _ hlink hhost =>
    have hsome : url.host?.isSome := hr.recorded.hosts url (hr.kept _ hkept).1
    have hlocal : link ∈ localLinks url page := List.mem_filter.2 ⟨hlink, decide_eq_true hhost⟩
    have hfollowed : link ∈ linksOf log.kept := List.mem_flatMap.2 ⟨_, hkept, hlocal⟩
    exact Frontier.key_mem_firsts (List.mem_append_right _ hfollowed) (hhost ▸ hsome)

/-- **A crawl fetches precisely what can be reached.** The crawl that is run has a log and is at its end. Whatever crawl
is reached, with its log:
* the kept pages are pages of URLs that were fetched, and the records are theirs;
* every URL that was fetched can be reached from the seeds through kept pages;
* if the crawl is at its end with room for a page, and no URL was refused because its host has had its share, then every
  URL that can be reached was fetched, up to its fragment, and only once. -/
theorem fetches_what_is_reachable (s : Settings) (web : Web) (seeds : List Url) :
    (∃ log, Logged s web seeds log (run s web seeds) ∧ (run s web seeds).step s web = none) ∧
    ∀ log c, Logged s web seeds log c →
      (∀ p ∈ log.kept, p.1 ∈ log.fetched ∧ web p.1 = some p.2) ∧
      c.records.toList = log.kept.map (fun p => .ofPage (key p.1) p.2) ∧
      (∀ url ∈ log.fetched, Reachable seeds log.kept (key url)) ∧
      (c.step s web = none → c.records.size < s.maxDocs → log.refused = [] →
        ∀ k, Reachable seeds log.kept k → (log.fetched.map key).count k = 1) := by
  constructor
  · obtain ⟨visits, hvisits, hend⟩ := reaches_run s web seeds
    obtain ⟨log, hlog⟩ := hvisits.logged
    exact ⟨log, hlog, hend⟩
  · intro log c hc
    obtain ⟨visits, r, hr⟩ := hc.traced
    refine ⟨hr.kept, hr.records_eq, hr.reachable, ?_⟩
    intro hstep hroom hrefused k hk
    have hqueue : ∀ host, r.frontier.queue host = [] := by
      rw [hr.underway.frontier_eq]
      rcases next?_eq_none (Option.map_eq_none_iff.1 hstep) with hfull | hqueue
      · omega
      · exact (hr.underway.nothing_left hqueue).2
    obtain ⟨url, hurl, rfl⟩ := List.mem_map.1 (hr.mem_firsts_of_reachable hk)
    have hfetched : url ∈ log.fetched := hr.recorded.mem_taken (hr.enough hrefused) hqueue hurl
    exact List.count_eq_one_of_mem hr.recorded.nodup_taken (List.mem_map_of_mem hfetched)

end Crawl

end Retrieval
