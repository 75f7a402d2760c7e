import Retrieval.CommandLine.CrawlCommand
import Retrieval.Proofs.Crawl.Termination

/-!
# What a crawl starts with

A line of a file of seeds counts if it is a URL, whether or not the URL has a host. Only URLs with a host are queued.
So a crawl has something to visit at its start just if some URL of its seeds has a host; with seeds none of which has
one it starts all the same, and is at its end.

* `Crawl.HasWork` : a host is scheduled, and URLs wait for it;
* `Crawl.hasWork_start_iff` : the seeds that give a crawl work;
* `Crawl.finish_of_not_hasWork` : a crawl that starts without work ends as it starts;
* `Frontier.Credits`, `Frontier.credits_add` : what a URL that counts is good for;
* `Crawl.starts_with_work_of_host` : what becomes of a file of seeds;
* `Crawl.StartsIdle`, `Crawl.starts_without_work` : files of lines that count and give a crawl no work.
-/

namespace Retrieval

open CommandLine (CrawlCommand)

namespace Frontier

/-- What adding a URL is good for, `before` and `after` being the frontier before and after that: nothing if it has no
host; nothing either if its text is known already; else its text is known from now on, and it waits behind the URLs of
its host, unless the host has had its share. -/
inductive Credits (limits : Limits) (url : Url) (before after : Frontier) : Prop
  | noHost (hhost : url.host? = none) (hsame : after = before)
  | repeated (hseen : key url ∈ before.seen) (hsame : after = before)
  | queued (host : String) (hhost : url.host? = some host) (hseen : key url ∉ before.seen ∧ key url ∈ after.seen)
      (hshare : before.share host < limits.perHost) (hqueue : after.queue host = before.queue host ++ [url])
  | full (host : String) (hhost : url.host? = some host) (hseen : key url ∉ before.seen ∧ key url ∈ after.seen)
      (hshare : limits.perHost ≤ before.share host) (hqueue : after.queue host = before.queue host)

theorem credits_add (limits : Limits) (now : Nat) (f : Frontier) (url : Url) :
    Credits limits url f (f.add limits now url) := by
  have hnote (host : String) : key url ∈ (f.note host url).seen := mem_insert_iff.2 (.inr rfl)
  obtain ⟨hhost | hseen, hadd⟩ | ⟨host, hhost, hseen, ⟨hshare, hadd⟩ | ⟨hshare, hadd⟩⟩ := add_cases limits now f url
  · exact .noHost hhost hadd
  · exact .repeated hseen hadd
  · rw [hadd]
    exact .full host hhost ⟨hseen, hnote host⟩ hshare rfl
  · rw [hadd]
    refine .queued host hhost ⟨hseen, ?_⟩ hshare ?_
    · rw [seen_accept]
      exact hnote host
    · rw [queue_accept, if_pos rfl]
      rfl

end Frontier

namespace Crawl

open Frontier (key firsts ofHost allotted Held addedUrls)

variable {s : Settings} {seeds : List Url}

/-! ## Work -/

def HasWork (c : Crawl) : Prop := ∃ host ∈ c.frontier.schedule.waiting, c.frontier.queue host ≠ []

/-- At the start hosts are scheduled or left alone, and none is held. -/
theorem accounted_start (s : Settings) (seeds : List Url) : (start s seeds).frontier.Accounted fun _ => False := by
  have hr := underway_start s seeds
  have haccounted := hr.reached.accounted
  rw [hr.frontier_eq] at haccounted
  have hfree : Held (({} : Frontier.Run).addAll s.limits 1 seeds).events = fun _ => False := by
    funext host
    exact eq_false (hr.free host)
  rwa [hfree] at haccounted

/-- The URLs that wait for a host are those that it is given out of the seeds. -/
theorem queue_start (s : Settings) (seeds : List Url) (host : String) :
    (start s seeds).frontier.queue host = allotted s.limits seeds host :=
  (recorded_start s seeds).queue_eq host

/-- A host is scheduled at the start just if it is the host of a seed whose text did not come before. -/
theorem mem_waiting_start_iff (hshare : 1 ≤ s.limits.perHost) {host : String} :
    host ∈ (start s seeds).frontier.schedule.waiting ↔ ∃ url ∈ firsts seeds, url.host? = some host := by
  have haccounted := accounted_start s seeds
  constructor
  · intro hwaiting
    have hqueue := haccounted.queue_ne_nil host hwaiting
    rw [queue_start] at hqueue
    obtain ⟨url, hurl⟩ := List.exists_mem_of_ne_nil _ hqueue
    exact ⟨url, Frontier.mem_ofHost.1 (List.mem_of_mem_take hurl)⟩
  · rintro ⟨url, hfirst, hhost⟩
    have hmem : url ∈ ofHost host (firsts seeds) := Frontier.mem_ofHost.2 ⟨hfirst, hhost⟩
    have hqueue : (start s seeds).frontier.queue host ≠ [] := by
      rw [queue_start, allotted, ne_eq, List.take_eq_nil_iff]
      rintro (hzero | hnone)
      · omega
      · exact List.ne_nil_of_mem hmem hnone
    exact ((haccounted.busy_iff host).1 (haccounted.busy_of_queue host hqueue)).resolve_right id

/-- **A crawl starts with work just if some seed has a host.** -/
theorem hasWork_start_iff (hshare : 1 ≤ s.limits.perHost) :
    (start s seeds).HasWork ↔ ∃ url ∈ seeds, url.host? ≠ none := by
  constructor
  · rintro ⟨host, hwaiting, -⟩
    obtain ⟨url, hfirst, hhost⟩ := (mem_waiting_start_iff hshare).1 hwaiting
    refine ⟨url, (Frontier.mem_of_mem_firsts hfirst).1, ?_⟩
    rw [hhost]
    exact Option.some_ne_none host
  · rintro ⟨url, hurl, hhost⟩
    -- this URL or one with its text came first
    obtain ⟨other, hfirst, -⟩ := List.mem_map.1 (Frontier.key_mem_firsts hurl (Option.isSome_iff_ne_none.2 hhost))
    obtain ⟨host, hother⟩ := Option.isSome_iff_exists.1 (Frontier.mem_of_mem_firsts hfirst).2
    have hwaiting := (mem_waiting_start_iff hshare).2 ⟨other, hfirst, hother⟩
    exact ⟨host, hwaiting, (accounted_start s seeds).queue_ne_nil host hwaiting⟩

theorem finish_of_not_hasWork (web : Web) (h : ¬ (start s seeds).HasWork) :
    finish s web (start s seeds) = start s seeds := by
  have hwaiting : (start s seeds).frontier.schedule.waiting = [] :=
    List.eq_nil_iff_forall_not_mem.2 fun host hhost =>
      h ⟨host, hhost, (accounted_start s seeds).queue_ne_nil host hhost⟩
  have hpop : (start s seeds).frontier.schedule.pop (start s seeds).now = none := by
    rw [Schedule.pop, List.map_eq_nil_iff.1 hwaiting]
  have hstep : (start s seeds).step s web = none := by
    rw [step, next?, Frontier.take, hpop]
    split <;> rfl
  rw [finish]
  cases visitBound s (start s seeds) with
  | zero => rfl
  | succ fuel => rw [runFor, hstep]

/-! ## Files of seeds -/

theorem frontier_start_append (s : Settings) (seeds : List Url) (url : Url) :
    (start s (seeds ++ [url])).frontier = (start s seeds).frontier.add s.limits 1 url :=
  List.foldl_append

theorem crawlFrom_of_read (web : Web) (command : CrawlCommand) {bytes : List UInt8}
    (hread : Seeds.read bytes = some seeds) (hne : seeds ≠ []) :
    command.crawlFrom web bytes = .done ⟨seeds.length, finish command.settings web (start command.settings seeds)⟩ := by
  rw [CrawlCommand.crawlFrom, hread]
  cases seeds with
  | nil => exact absurd rfl hne
  | cons url rest => rfl

/-- **A crawl starts with work unless its seeds have no hosts.** Whatever file of seeds is given, if hosts may have a
URL at all:
* a file with a line that is no text is refused;
* else the seeds are the URLs of those lines that count; if there is none, the crawl is refused for that, and otherwise
  it starts, with their number;
* it has work at its start just if some seed has a host; without work it ends as it starts;
* a line that counts has a URL without a host, which is good for nothing, or its URL repeats one of the lines before, or
  it is known from now on, and waits for its host unless the host has had its share. -/
theorem starts_with_work_of_host (web : Web) (command : CrawlCommand) (bytes : List UInt8)
    (hshare : 1 ≤ command.settings.limits.perHost) :
    ((Text.lines bytes).mapM Text.decode = none →
      command.crawlFrom web bytes = .failed "stream did not contain valid UTF-8" none) ∧
    ∀ lines, (Text.lines bytes).mapM Text.decode = some lines →
      let seedsOf (lines : List String) := lines.filterMap Seeds.ofLine?
      let begun (lines : List String) := start command.settings (seedsOf lines)
      (seedsOf lines = [] → command.crawlFrom web bytes = .failed "no valid seeds" none) ∧
      (seedsOf lines ≠ [] → command.crawlFrom web bytes =
        .done ⟨(seedsOf lines).length, finish command.settings web (begun lines)⟩) ∧
      ((begun lines).HasWork ↔ ∃ url ∈ seedsOf lines, url.host? ≠ none) ∧
      (¬ (begun lines).HasWork → finish command.settings web (begun lines) = begun lines) ∧
      ∀ earlier line later url, lines = earlier ++ line :: later → Seeds.ofLine? line = some url →
        Frontier.Credits command.settings.limits url (begun earlier).frontier (begun (earlier ++ [line])).frontier := by
  constructor
  · intro hnone
    rw [CrawlCommand.crawlFrom, Seeds.read, hnone]
    rfl
  · intro lines hlines seedsOf begun
    have hread : Seeds.read bytes = some (seedsOf lines) := by
      rw [Seeds.read, hlines]
      rfl
    refine ⟨?_, ?_, hasWork_start_iff hshare, finish_of_not_hasWork web, ?_⟩
    · intro hnil
      rw [CrawlCommand.crawlFrom, hread, hnil]
    · intro hne
      exact crawlFrom_of_read web command hread hne
    · rintro earlier line later url - hurl
      have hseeds : seedsOf (earlier ++ [line]) = seedsOf earlier ++ [url] := by
        dsimp only [seedsOf]
        rw [List.filterMap_append, List.filterMap_cons_some hurl, List.filterMap_nil]
      dsimp only [begun]
      rw [hseeds, frontier_start_append]
      exact Frontier.credits_add ..

def exampleCommand : CrawlCommand := .ofArguments {}

theorem starts_with_work_of_host_schemeless :
    1 ≤ exampleCommand.settings.limits.perHost ∧
      (Text.lines (Text.utf8 "# seeds\n\nexample.com\n")).mapM Text.decode = some ["# seeds", "", "example.com"] ∧
      (start exampleCommand.settings (["# seeds", "", "example.com"].filterMap Seeds.ofLine?)).HasWork := by
  have hshare : 1 ≤ exampleCommand.settings.limits.perHost := by decide +kernel
  have hlines : (Text.lines (Text.utf8 "# seeds\n\nexample.com\n")).mapM Text.decode =
      some ["# seeds", "", "example.com"] := by decide +kernel
  refine ⟨hshare, hlines, ?_⟩
  have hwork := ((starts_with_work_of_host (fun _ => none) exampleCommand _ hshare).2 _ hlines).2.2.1
  exact hwork.2 (by decide +kernel)

/-- A crawl from a file of seeds starts, on a web without pages, and has nothing to visit. -/
def StartsIdle (command : CrawlCommand) (bytes : List UInt8) : Prop :=
  ∃ seeds, Seeds.read bytes = some seeds ∧ ¬ (start command.settings seeds).HasWork ∧
    command.crawlFrom (fun _ => none) bytes = .done ⟨seeds.length, start command.settings seeds⟩

theorem startsIdle_of_read {command : CrawlCommand} (hshare : 1 ≤ command.settings.limits.perHost)
    {bytes : List UInt8} (hread : Seeds.read bytes = some seeds) (hne : seeds ≠ [])
    (hhosts : ∀ url ∈ seeds, url.host? = none) : StartsIdle command bytes := by
  have hidle : ¬ (start command.settings seeds).HasWork := by
    rw [hasWork_start_iff hshare]
    rintro ⟨url, hmem, hhost⟩
    exact hhost (hhosts url hmem)
  refine ⟨seeds, hread, hidle, ?_⟩
  rw [crawlFrom_of_read _ command hread hne, finish_of_not_hasWork _ hidle]

/-- **A line may count and give a crawl no work.** The URL of a mail address has no host, and what stands in front of
the port of a host is read as a scheme. A crawl from a file with one of these lines starts, and has nothing to visit. -/
theorem starts_without_work :
    1 ≤ exampleCommand.settings.limits.perHost ∧
      StartsIdle exampleCommand (Text.utf8 "mailto:someone") ∧
      StartsIdle exampleCommand (Text.utf8 "localhost:8080") := by
  have hshare : 1 ≤ exampleCommand.settings.limits.perHost := by decide +kernel
  have hmail : Seeds.read (Text.utf8 "mailto:someone") = some [{ scheme := "mailto", path := .text "someone" }] := by
    decide +kernel
  have hport : Seeds.read (Text.utf8 "localhost:8080") = some [{ scheme := "localhost", path := .text "8080" }] := by
    decide +kernel
  refine ⟨hshare, startsIdle_of_read hshare hmail ?_ ?_, startsIdle_of_read hshare hport ?_ ?_⟩
  · exact List.cons_ne_nil _ _
  · simp [Url.host?]
  · exact List.cons_ne_nil _ _
  · simp [Url.host?]

end Crawl

end Retrieval
