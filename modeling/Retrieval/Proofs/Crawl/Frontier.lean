import Mathlib.Data.Option.Basic
import Retrieval.Crawl.Frontier
import Retrieval.Proofs.Lookup

/-!
# Steps of a frontier

What each operation does to queues, busy hosts and schedule:

* `Frontier.add_cases`, `Frontier.take_eq_some`, `Frontier.release_cases` : all that an operation may do;
* `Frontier.pushedBy`, `Frontier.schedule_add` : the host that adding a URL pushes onto the schedule;
* `Frontier.queue_accept`, `Frontier.mem_busy_accept`, `Frontier.queue_take` : queues and busy hosts afterwards.
-/

namespace Retrieval.Frontier

variable {limits : Limits} {now : Nat} {f g : Frontier} {host h : String} {url : Url}

/-! ## Adding -/

theorem share_note : (f.note host url).share host = f.share host := by
  rw [share, note, Std.TreeMap.getD_insert_self]

/-- What adding a URL may do: nothing, mark it as seen, or take it in. -/
theorem add_cases (limits : Limits) (now : Nat) (f : Frontier) (url : Url) :
    ((url.host? = none ∨ key url ∈ f.seen) ∧ f.add limits now url = f) ∨
      ∃ host, url.host? = some host ∧ key url ∉ f.seen ∧
        ((limits.perHost ≤ f.share host ∧ f.add limits now url = f.note host url) ∨
          (f.share host < limits.perHost ∧ f.add limits now url = accept limits now (f.note host url) host url)) := by
  unfold add
  cases url.host? with
  | none => exact Or.inl ⟨Or.inl rfl, rfl⟩
  | some host =>
    by_cases hseen : key url ∈ f.seen
    · exact Or.inl ⟨Or.inr hseen, if_pos (Std.TreeSet.contains_iff_mem.2 hseen)⟩
    · refine Or.inr ⟨host, rfl, hseen, ?_⟩
      simp only [if_neg fun hc => hseen (Std.TreeSet.contains_iff_mem.1 hc), share_note]
      by_cases hshare : limits.perHost ≤ f.share host
      · exact Or.inl ⟨hshare, if_pos hshare⟩
      · exact Or.inr ⟨Nat.lt_of_not_le hshare, if_neg hshare⟩

theorem schedule_accept : (accept limits now f host url).schedule =
    if f.busy.contains host then f.schedule
    else f.schedule.push now limits.delay host (f.visited.contains host) := by
  unfold accept engage
  split <;> rfl

/-- The host that adding a URL pushes onto the schedule: the URL is new, its host is left a share and is not busy. -/
def pushedBy (limits : Limits) (f : Frontier) (url : Url) : Option String :=
  url.host?.filter fun host =>
    !f.seen.contains (key url) && decide (f.share host < limits.perHost) && !f.busy.contains host

theorem pushedBy_eq_some : f.pushedBy limits url = some host ↔
    url.host? = some host ∧ key url ∉ f.seen ∧ f.share host < limits.perHost ∧ host ∉ f.busy := by
  simp only [pushedBy, Option.filter_eq_some_iff, Bool.and_eq_true, Bool.not_eq_true', decide_eq_true_eq,
    ← Bool.not_eq_true, Std.TreeSet.contains_iff_mem, and_assoc]

/-- **Adding a URL pushes `pushedBy` and no other host.** -/
theorem schedule_add (limits : Limits) (now : Nat) (f : Frontier) (url : Url) :
    (f.add limits now url).schedule =
      match f.pushedBy limits url with
      | none => f.schedule
      | some host => f.schedule.push now limits.delay host (f.visited.contains host) := by
  have hnone (h : ∀ host, f.pushedBy limits url ≠ some host) : f.pushedBy limits url = none :=
    Option.eq_none_iff_forall_ne_some.2 h
  simp only [ne_eq, pushedBy_eq_some] at hnone
  obtain ⟨hold, hadd⟩ | ⟨host, hhost, hseen, ⟨hshare, hadd⟩ | ⟨hshare, hadd⟩⟩ := add_cases limits now f url
  · rw [hadd, hnone]
    rintro host ⟨hhost, hnew, -⟩
    rcases hold with h | h
    · cases hhost.symm.trans h
    · exact hnew h
  · rw [hadd, hnone]
    · rfl
    · rintro other ⟨hother, -, hless, -⟩
      cases hhost.symm.trans hother
      exact Nat.not_lt.2 hshare hless
  · rw [hadd, schedule_accept]
    by_cases hbusy : host ∈ f.busy
    · rw [hnone]
      · exact if_pos (Std.TreeSet.contains_iff_mem.2 hbusy)
      · rintro other ⟨hother, -, -, hfree⟩
        cases hhost.symm.trans hother
        exact hfree hbusy
    · rw [pushedBy_eq_some.2 ⟨hhost, hseen, hshare, hbusy⟩]
      exact if_neg fun hc => hbusy (Std.TreeSet.contains_iff_mem.1 hc)

theorem visited_add (limits : Limits) (now : Nat) (f : Frontier) (url : Url) :
    (f.add limits now url).visited = f.visited := by
  have haccept (host : String) : (accept limits now (f.note host url) host url).visited = f.visited := by
    unfold accept engage
    split <;> rfl
  obtain ⟨-, hadd⟩ | ⟨host, -, -, ⟨-, hadd⟩ | ⟨-, hadd⟩⟩ := add_cases limits now f url
  · rw [hadd]
  · rw [hadd, note]
  · rw [hadd, haccept]

theorem queue_accept : (accept limits now f host url).queue h =
    if h = host then f.queue host ++ [url] else f.queue h := by
  have hqueues : (accept limits now f host url).queues = f.queues.insert host (f.queue host ++ [url]) := by
    unfold accept engage
    split <;> rfl
  rw [queue, hqueues, getD_insert_ite]
  rfl

theorem mem_busy_accept : h ∈ (accept limits now f host url).busy ↔ h ∈ f.busy ∨ h = host := by
  unfold accept engage
  split
  · next hbusy =>
    have hhost : host ∈ f.busy := Std.TreeSet.contains_iff_mem.1 hbusy
    exact ⟨Or.inl, fun hh => hh.elim id fun e => e ▸ hhost⟩
  · exact mem_insert_iff

/-! ## Taking -/

/-- What is taken is the first host of the schedule and the first URL of its queue. -/
theorem take_eq_some {visit : Visit} (ht : f.take now = some (visit, g)) :
    ∃ schedule, f.schedule.pop now = some ((visit.wait, visit.host), schedule) ∧
      visit.url = (f.queue visit.host).head? ∧
      g = { f with schedule, queues := f.queues.alter visit.host fun q => q.map List.tail } := by
  rw [take] at ht
  split at ht
  · cases ht
  · next wait host schedule hpop =>
    cases ht
    exact ⟨schedule, hpop, rfl, rfl⟩

theorem queue_take {visit : Visit} (ht : f.take now = some (visit, g)) :
    g.queue h = if h = visit.host then (f.queue h).tail else f.queue h := by
  obtain ⟨schedule, -, -, rfl⟩ := take_eq_some ht
  have htail : ((f.queues[h]?).map List.tail).getD [] = (f.queue h).tail := by
    rw [queue, Std.TreeMap.getD_eq_getD_getElem?]
    cases f.queues[h]? <;> rfl
  rw [queue, getD_alter_ite, htail, queue]

/-! ## Releasing -/

/-- A host is given back to the schedule if URLs wait for it, and else is no longer busy. -/
theorem release_cases (limits : Limits) (now : Nat) (f : Frontier) (host : String) :
    (f.queue host = [] ∧ f.release limits now host =
        { f with visited := f.visited.insert host, busy := f.busy.erase host }) ∨
      (f.queue host ≠ [] ∧ f.release limits now host =
        { f with
          visited := f.visited.insert host
          schedule := f.schedule.push now limits.delay host true }) := by
  by_cases hqueue : f.queue host = []
  · exact Or.inl ⟨hqueue, if_pos hqueue⟩
  · exact Or.inr ⟨hqueue, if_neg hqueue⟩

end Retrieval.Frontier
