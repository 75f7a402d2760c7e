import Retrieval.Crawl.Fetch
import Retrieval.Proofs.Crawl.Reachability
import Retrieval.Proofs.NearDuplicate.Answers

/-!
# The output of a crawl

A crawl writes one record for each page that it fetches and that its filter does not reject, in the order in which they
are fetched.

* `Crawl.pagesOf`, `Crawl.bodiesOf` : the pages that URLs are answered with, and their texts;
* `Crawl.Filtered` : the invariant; the kept pages are those that a new filter keeps out of the fetched ones;
* `Crawl.Filtered.visit` : a visit keeps it;
* `Crawl.Counted` : the loop of a crawl as a counter of the records guards it;
* `Crawl.counted_iff` : the counter is the number of records;
* `Crawl.output_is_kept_pages` : what is written by the end.
-/

namespace Retrieval

theorem NearDuplicateFilter.keptOf_sublist {α : Type} {items : List α} {answers : List Bool}
    (h : answers.length = items.length) : (keptOf items answers).Sublist items := by
  have hall : (items.zip answers).map (·.1) = items := List.map_fst_zip (Nat.le_of_eq h.symm)
  have hkept : (keptOf items answers).Sublist ((items.zip answers).map (·.1)) :=
    List.filter_sublist.map _
  rwa [hall] at hkept

namespace Crawl

open Frontier (Visit Run addedUrls urlsOf firsts key refusals)
open NearDuplicateFilter (Fed keptOf)

variable {s : Settings} {web : Web} {seeds : List Url} {log : Log} {visits : List Visit} {c taken : Crawl} {r : Run}
  {next : Visit}

/-! ## Pages -/

def pagesOf (web : Web) (urls : List Url) : List (Url × Page) := urls.filterMap fun url => (web url).map (url, ·)

def bodiesOf (pages : List (Url × Page)) : List String := pages.map (·.2.body)

theorem pagesOf_append (web : Web) (urls : List Url) (url : Url) :
    pagesOf web (urls ++ [url]) = pagesOf web urls ++ ((web url).map (url, ·)).toList := by
  rw [pagesOf, List.filterMap_append]
  cases h : web url with
  | none => simp [pagesOf, h]
  | some page => simp [pagesOf, h]

theorem map_fst_pagesOf_sublist (web : Web) (urls : List Url) : ((pagesOf web urls).map (·.1)).Sublist urls := by
  induction urls with
  | nil => exact List.Sublist.refl _
  | cons url urls ih =>
    cases h : web url with
    | none =>
      have hskip : pagesOf web (url :: urls) = pagesOf web urls := by simp [pagesOf, h]
      rw [hskip]
      exact ih.cons url
    | some page =>
      have htake : pagesOf web (url :: urls) = (url, page) :: pagesOf web urls := by simp [pagesOf, h]
      rw [htake]
      exact ih.cons_cons url

/-! ## The filter of a crawl -/

/-- A page is kept if the filter answers with `false`, and the filter is the one behind that answer. -/
theorem kept?_of_check {url : Url} {page : Page} {duplicate : Bool} {filter : NearDuplicateFilter}
    (hpage : web url = some page) (hcheck : c.filter.check page.body = .ok (duplicate, filter)) :
    kept? web c url = (if duplicate then none else some page) ∧ (visit s web c url).filter = filter := by
  have hrejects : c.filter.rejects page.body = duplicate := by
    rw [NearDuplicateFilter.rejects, hcheck]
    cases duplicate <;> rfl
  rw [kept?, hpage, Option.filter_some, hrejects, visit, hpage]
  dsimp only
  rw [hcheck]
  cases duplicate with
  | true => exact ⟨rfl, rfl⟩
  | false => exact ⟨rfl, rfl⟩

theorem length_answers {f g : NearDuplicateFilter} {pages : List (Url × Page)} {answers : List Bool}
    (h : Fed f (bodiesOf pages) answers g) : answers.length = pages.length := by
  rw [h.length_eq, bodiesOf, List.length_map]

/-- The pages that a crawl has kept are those that a new filter keeps out of the pages that were fetched, and its filter
is the one behind them. -/
def Filtered (s : Settings) (web : Web) (log : Log) (c : Crawl) : Prop :=
  ∃ answers, Fed (.new s.threshold) (bodiesOf (pagesOf web log.fetched)) answers c.filter ∧
    log.kept = keptOf (pagesOf web log.fetched) answers

theorem filtered_start (s : Settings) (web : Web) (seeds refused : List Url) :
    Filtered s web { refused } (start s seeds) :=
  ⟨[], Fed.nil _, rfl⟩

/-- A visit keeps it: its page, if there is one, is the next that the filter is given. -/
theorem Filtered.visit (hc : Filtered s web log c) (hfilter : taken.filter = c.filter) {url : Url}
    (hurl : next.url = some url) :
    Filtered s web (log.visit s web taken next) (carryOut s web taken next) := by
  obtain ⟨answers, hfed, hkept⟩ := hc
  rw [Log.visit, hurl, carryOut_of_url hurl]
  cases hpage : web url with
  | none =>
    have hnone : kept? web taken url = none := by rw [kept?, hpage, Option.filter_none]
    have hsame : (Crawl.visit s web taken url).filter = c.filter := by rw [Crawl.visit, hpage, hfilter]
    refine ⟨answers, ?_, ?_⟩
    · dsimp only
      rw [pagesOf_append, hpage, hsame, Option.map_none, Option.toList_none, List.append_nil]
      exact hfed
    · dsimp only
      rw [pagesOf_append, hpage, hnone, hkept, Option.map_none, Option.toList_none, List.append_nil, List.append_nil]
  | some page =>
    obtain ⟨duplicate, filter, hcheck⟩ : ∃ duplicate filter, c.filter.check page.body = .ok (duplicate, filter) :=
      ⟨_, _, NearDuplicateFilter.check_eq c.filter page.body⟩
    obtain ⟨hnext, hbehind⟩ := kept?_of_check (s := s) hpage (hfilter ▸ hcheck)
    refine ⟨answers ++ [duplicate], ?_, ?_⟩
    · dsimp only
      rw [pagesOf_append, hpage, hbehind, bodiesOf, List.map_append]
      cases duplicate with
      | true => exact hfed.append (Fed.rejected hcheck)
      | false => exact hfed.append (Fed.kept hcheck)
    · dsimp only
      rw [pagesOf_append, hpage, NearDuplicateFilter.keptOf_append (length_answers hfed), ← hkept, hnext]
      cases duplicate <;> rfl

theorem Logged.filtered (hc : Logged s web seeds log c) : Filtered s web log c := by
  induction hc with
  | start => exact filtered_start s web seeds _
  | visit now later hc hnext ih =>
    obtain ⟨visits, r, hr⟩ := hc.traced
    obtain ⟨-, url, hurl, -⟩ := hr.underway.of_next? hnext
    obtain ⟨-, f, -, rfl⟩ := next?_eq_some hnext
    exact ih.visit rfl hurl

/-! ## The counter of records -/

/-- How many records the answer of a visit brings: one if its page is kept. -/
def written (web : Web) (c : Crawl) (next : Visit) : Nat := if (next.url.bind (kept? web c)).isSome then 1 else 0

/-- The crawls that are reached if a counter of the records that were written guards the loop: a visit is taken while it
is below the limit, and it goes up with every record. -/
inductive Counted (s : Settings) (web : Web) (seeds : List Url) : Nat → Log → Crawl → Prop
  | start : Counted s web seeds 0 { refused := refusals s.limits 1 {} seeds } (start s seeds)
  | visit {emitted : Nat} {log : Log} {c : Crawl} {next : Visit} {f : Frontier} (now later : Nat)
      (hc : Counted s web seeds emitted log c) (hroom : emitted < s.maxDocs)
      (hnext : c.frontier.take now = some (next, f)) :
      Counted s web seeds (emitted + written web { c with frontier := f, now := later } next)
        (log.visit s web { c with frontier := f, now := later } next)
        (carryOut s web { c with frontier := f, now := later } next)

theorem size_records_carryOut (s : Settings) (web : Web) (c : Crawl) (next : Visit) :
    (carryOut s web c next).records.size = c.records.size + written web c next := by
  unfold carryOut written
  cases next.url with
  | none => rfl
  | some url =>
    have hlength := congrArg List.length (records_visit s web c url)
    rw [List.length_append, Array.length_toList, Array.length_toList] at hlength
    dsimp only
    rw [hlength, Option.bind_some]
    cases kept? web c url with
    | none => rfl
    | some page => rfl

theorem next?_of_take {f : Frontier} (hroom : c.records.size < s.maxDocs)
    (htake : c.frontier.take c.now = some (next, f)) : c.next? s = some (next, { c with frontier := f }) := by
  have hfull : c.isFull s = false := decide_eq_false (Nat.not_le.2 hroom)
  rw [next?, hfull, htake]
  rfl

/-- **A counter of the records guards the loop of a crawl**, and it is their number. -/
theorem counted_iff {emitted : Nat} :
    Counted s web seeds emitted log c ↔ Logged s web seeds log c ∧ emitted = c.records.size := by
  constructor
  · intro hc
    induction hc with
    | start => exact ⟨.start, rfl⟩
    | visit now later hc hroom hnext ih =>
      obtain ⟨hlogged, rfl⟩ := ih
      refine ⟨hlogged.visit now later (next?_of_take hroom hnext), ?_⟩
      rw [size_records_carryOut]
  · rintro ⟨hc, rfl⟩
    induction hc with
    | start => exact .start
    | visit now later hc hnext ih =>
      obtain ⟨hroom, f, htake, rfl⟩ := next?_eq_some hnext
      rw [size_records_carryOut]
      exact ih.visit now later hroom htake

/-! ## The output -/

/-- The URLs of kept pages are different, since they were fetched. -/
theorem Logged.nodup_keys (hc : Logged s web seeds log c) : (log.kept.map fun p => key p.1).Nodup := by
  obtain ⟨answers, hfed, hkept⟩ := hc.filtered
  obtain ⟨visits, r, hr⟩ := hc.traced
  have hpages : log.kept.Sublist (pagesOf web log.fetched) := by
    rw [hkept]
    exact NearDuplicateFilter.keptOf_sublist (length_answers hfed)
  have hsublist : (log.kept.map (·.1)).Sublist log.fetched :=
    (hpages.map _).trans (map_fst_pagesOf_sublist web log.fetched)
  have hnodup := hr.recorded.nodup_taken.sublist (hsublist.map key)
  rwa [List.map_map] at hnodup

/-- The page of a server is what the answer behind the redirections brings. -/
theorem exists_response_of_mem_pagesOf {server : Server} {urls : List Url} {p : Url × Page}
    (h : p ∈ pagesOf (Fetch.web server) urls) :
    ∃ response, Fetch.follow server Fetch.redirectionLimit p.1 = some response ∧
      Fetch.pageOf? p.1 response = some p.2 := by
  obtain ⟨url, -, hpage⟩ := List.mem_filterMap.1 h
  obtain ⟨page, hweb, rfl⟩ := Option.map_eq_some_iff.1 hpage
  exact Option.bind_eq_some_iff.1 hweb

/-- **The output of a crawl is its kept pages.** The crawl that is run has a log and is at its end. Whatever crawl is
reached, with its log:
* a new filter answers the texts of the pages that were fetched, in order, and the records are those of the pages that
  it answers with `false`, in the same order; each has the URL that was asked for, without its fragment, the secure hash
  of that as its name, and title and text of the page;
* if the web is that of a server, a page is what the answer behind the redirections of the URL brings;
* no two records have the same URL;
* a counter of the records that guards the loop is their number, and they are no more than the crawl may have;
* a new filter that is given the texts of the records, in order, rejects none of them. -/
theorem output_is_kept_pages (s : Settings) (web : Web) (seeds : List Url) :
    (∃ log, Logged s web seeds log (run s web seeds) ∧ (run s web seeds).step s web = none) ∧
    ∀ log c, Logged s web seeds log c →
      (∃ answers filter,
        (NearDuplicateFilter.new s.threshold).feed (bodiesOf (pagesOf web log.fetched)) = .ok (answers, filter) ∧
        c.records.toList = (keptOf (pagesOf web log.fetched) answers).map fun (url, page) =>
          { id := Hash.Sha1.hexDigest (Text.utf8 url.withoutFragment.render), title := page.title, body := page.body,
            url := url.withoutFragment.render }) ∧
      (∀ server, web = Fetch.web server → ∀ p ∈ pagesOf web log.fetched, ∃ response,
        Fetch.follow server Fetch.redirectionLimit p.1 = some response ∧ Fetch.pageOf? p.1 response = some p.2) ∧
      (c.records.toList.map (·.url)).Nodup ∧
      (∀ emitted, Counted s web seeds emitted log c ↔ emitted = c.records.size) ∧
      c.records.size ≤ s.maxDocs ∧
      ∃ filter, (NearDuplicateFilter.new s.threshold).feed (c.records.toList.map (·.body)) =
        .ok (c.records.toList.map fun _ => false, filter) := by
  constructor
  · obtain ⟨visits, hvisits, hend⟩ := reaches_run s web seeds
    obtain ⟨log, hlog⟩ := hvisits.logged
    exact ⟨log, hlog, hend⟩
  · intro log c hc
    obtain ⟨visits, r, hr⟩ := hc.traced
    obtain ⟨answers, hfed, hkept⟩ := hc.filtered
    have hbodies : c.records.toList.map (·.body) = keptOf (bodiesOf (pagesOf web log.fetched)) answers := by
      rw [hr.records_eq, hkept, bodiesOf, NearDuplicateFilter.keptOf_map, List.map_map]
      rfl
    have hurls : c.records.toList.map (·.url) = log.kept.map fun p => key p.1 := by
      rw [hr.records_eq, List.map_map]
      rfl
    refine ⟨⟨answers, c.filter, hfed.feed_eq, ?_⟩, ?_, ?_, ?_, hr.underway.room, c.filter, ?_⟩
    · rw [hr.records_eq, hkept]
      rfl
    · rintro server rfl p hp
      exact exists_response_of_mem_pagesOf hp
    · rw [hurls]
      exact hc.nodup_keys
    · intro emitted
      rw [counted_iff]
      exact and_iff_right hc
    · have hfalse : (c.records.toList.map fun _ => false) = (c.records.toList.map (·.body)).map fun _ => false := by
        rw [List.map_map]
        rfl
      rw [hfalse, hbodies]
      exact hfed.kept_eq

end Crawl

end Retrieval
