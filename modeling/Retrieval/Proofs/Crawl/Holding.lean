import Mathlib.Data.List.Induction
import Retrieval.Proofs.Crawl.Frontier
import Retrieval.Proofs.Crawl.Run
import Retrieval.Proofs.Crawl.Schedule

/-!
# Hosts are scheduled or held, never both

Whatever is added, taken and released, in any order and with any arguments:

* `Frontier.Accounted` : the invariant; a busy host is scheduled or held, and a host with URLs is busy;
* `Frontier.Accounted.add`, `Frontier.Accounted.take`, `Frontier.Accounted.release` : a step keeps it;
* `Frontier.accounted_run` : every run keeps it;
* `Frontier.no_host_stranded` : what follows for a frontier that is reached.
-/

namespace Retrieval.Frontier

/-- Where the hosts of a frontier are, if those in `held` are held. -/
structure Accounted (f : Frontier) (held : String → Prop) : Prop where
  valid : f.schedule.Valid
  busy_iff : ∀ host, host ∈ f.busy ↔ host ∈ f.schedule.waiting ∨ held host
  not_held : ∀ host ∈ f.schedule.waiting, ¬ held host
  queue_ne_nil : ∀ host ∈ f.schedule.waiting, f.queue host ≠ []
  busy_of_queue : ∀ host, f.queue host ≠ [] → host ∈ f.busy

namespace Accounted

variable {limits : Limits} {now : Nat} {f g : Frontier} {held : String → Prop}

theorem empty : Accounted {} fun _ => False where
  valid := Schedule.Valid.empty
  busy_iff host := by simp [Schedule.waiting, Schedule.empty]
  not_held host h := by simp [Schedule.waiting, Schedule.empty] at h
  queue_ne_nil host h := by simp [Schedule.waiting, Schedule.empty] at h
  busy_of_queue host h := by simp [queue] at h

theorem note (hf : f.Accounted held) (host : String) (url : Url) : (f.note host url).Accounted held :=
  ⟨hf.valid, hf.busy_iff, hf.not_held, hf.queue_ne_nil, hf.busy_of_queue⟩

theorem mem_waiting_accept (hf : f.Accounted held) {host h : String} {url : Url} :
    h ∈ (f.accept limits now host url).schedule.waiting ↔ h ∈ f.schedule.waiting ∨ host ∉ f.busy ∧ h = host := by
  rw [schedule_accept]
  split
  · next hbusy => simp [Std.TreeSet.contains_iff_mem.1 hbusy]
  · next hbusy =>
    have hfree : host ∉ f.busy := fun hmem => hbusy (Std.TreeSet.contains_iff_mem.2 hmem)
    rw [hf.valid.mem_waiting_push]
    simp [hfree]

theorem accept (hf : f.Accounted held) (host : String) (url : Url) :
    (f.accept limits now host url).Accounted held where
  valid := by
    rw [schedule_accept]
    split
    · exact hf.valid
    · exact hf.valid.push ..
  busy_iff h := by
    rw [mem_busy_accept, hf.mem_waiting_accept, hf.busy_iff]
    constructor
    · rintro ((hh | hh) | rfl)
      · exact Or.inl (Or.inl hh)
      · exact Or.inr hh
      · by_cases hbusy : h ∈ f.busy
        · exact ((hf.busy_iff h).1 hbusy).imp Or.inl id
        · exact Or.inl (Or.inr ⟨hbusy, rfl⟩)
    · rintro ((hh | ⟨-, hh⟩) | hh)
      · exact Or.inl (Or.inl hh)
      · exact Or.inr hh
      · exact Or.inl (Or.inr hh)
  not_held h hwaiting := by
    rcases hf.mem_waiting_accept.1 hwaiting with hh | ⟨hfree, rfl⟩
    · exact hf.not_held h hh
    · exact fun hheld => hfree ((hf.busy_iff h).2 (Or.inr hheld))
  queue_ne_nil h hwaiting := by
    rw [queue_accept]
    split
    · exact List.append_ne_nil_of_right_ne_nil _ (List.cons_ne_nil _ _)
    · next hne =>
      rcases hf.mem_waiting_accept.1 hwaiting with hh | ⟨-, hh⟩
      · exact hf.queue_ne_nil h hh
      · exact absurd hh hne
  busy_of_queue h hqueue := by
    rw [mem_busy_accept]
    rw [queue_accept] at hqueue
    split at hqueue
    · next e => exact Or.inr e
    · exact Or.inl (hf.busy_of_queue h hqueue)

theorem add (hf : f.Accounted held) (url : Url) : (f.add limits now url).Accounted held := by
  obtain ⟨-, hadd⟩ | ⟨host, -, -, ⟨-, hadd⟩ | ⟨-, hadd⟩⟩ := add_cases limits now f url
  · rw [hadd]
    exact hf
  · rw [hadd]
    exact hf.note host url
  · rw [hadd]
    exact (hf.note host url).accept host url

/-- The host that is taken waited, was not held, and has a URL. -/
theorem of_take (hf : f.Accounted held) {visit : Visit} (ht : f.take now = some (visit, g)) :
    visit.host ∈ f.schedule.waiting ∧ ¬ held visit.host ∧ visit.url.isSome := by
  obtain ⟨schedule, hpop, hurl, -⟩ := take_eq_some ht
  have hwaiting : visit.host ∈ f.schedule.waiting := by
    rw [Schedule.waiting_pop hpop]
    exact List.mem_cons_self
  refine ⟨hwaiting, hf.not_held _ hwaiting, ?_⟩
  rw [hurl, List.isSome_head?]
  exact hf.queue_ne_nil _ hwaiting

theorem take (hf : f.Accounted held) {visit : Visit} (ht : f.take now = some (visit, g)) :
    g.Accounted fun host => visit.host = host ∨ held host := by
  obtain ⟨hwaiting, -, -⟩ := hf.of_take ht
  have hqueue (h : String) := queue_take (h := h) ht
  obtain ⟨schedule, hpop, -, rfl⟩ := take_eq_some ht
  refine ⟨hf.valid.pop hpop, ?_, ?_, ?_, ?_⟩
  · intro h
    rw [hf.busy_iff, hf.valid.mem_waiting_pop hpop]
    -- the host that is taken goes from the first side of the disjunction to the second
    by_cases e : h = visit.host
    · subst e
      simp [hwaiting]
    · simp [e, Ne.symm e]
  · intro h hh
    obtain ⟨hold, hne⟩ := (hf.valid.mem_waiting_pop hpop).1 hh
    rintro (e | hheld)
    · exact hne e.symm
    · exact hf.not_held h hold hheld
  · intro h hh
    obtain ⟨hold, hne⟩ := (hf.valid.mem_waiting_pop hpop).1 hh
    rw [hqueue, if_neg hne]
    exact hf.queue_ne_nil h hold
  · intro h hh
    rw [hqueue] at hh
    apply hf.busy_of_queue h
    intro hnil
    rw [hnil] at hh
    split at hh <;> exact hh rfl

theorem release (hf : f.Accounted held) (host : String) :
    (f.release limits now host).Accounted fun h => host ≠ h ∧ held h := by
  obtain ⟨hqueue, hrelease⟩ | ⟨hqueue, hrelease⟩ := release_cases limits now f host
  · rw [hrelease]
    have hwaiting : host ∉ f.schedule.waiting := fun hh => hf.queue_ne_nil host hh hqueue
    refine ⟨hf.valid, ?_, ?_, hf.queue_ne_nil, ?_⟩
    · intro h
      rw [mem_erase_iff, hf.busy_iff]
      constructor
      · rintro ⟨hh | hh, hne⟩
        · exact Or.inl hh
        · exact Or.inr ⟨hne.symm, hh⟩
      · rintro (hh | ⟨hne, hh⟩)
        · exact ⟨Or.inl hh, fun e => hwaiting (e ▸ hh)⟩
        · exact ⟨Or.inr hh, hne.symm⟩
    · intro h hh hheld
      exact hf.not_held h hh hheld.2
    · intro h hh
      have hne : h ≠ host := fun e => hh (e ▸ hqueue)
      exact mem_erase_iff.2 ⟨hf.busy_of_queue h hh, hne⟩
  · rw [hrelease]
    have hbusy : host ∈ f.busy := hf.busy_of_queue host hqueue
    refine ⟨hf.valid.push .., ?_, ?_, ?_, hf.busy_of_queue⟩
    · intro h
      rw [hf.valid.mem_waiting_push, hf.busy_iff]
      -- here it goes back to the first side, where it may have been all along if it was not held
      by_cases e : h = host
      · subst e
        simp [(hf.busy_iff h).1 hbusy]
      · simp [e, Ne.symm e]
    · rintro h hh ⟨hne, hheld⟩
      rcases hf.valid.mem_waiting_push.1 hh with hold | e
      · exact hf.not_held h hold hheld
      · exact hne e.symm
    · intro h hh
      rcases hf.valid.mem_waiting_push.1 hh with hold | rfl
      · exact hf.queue_ne_nil h hold
      · exact hqueue

end Accounted

/-! ## Runs -/

theorem accounted_act {r : Run} (hr : r.frontier.Accounted (Held r.events)) (limits : Limits) (now : Nat)
    (action : Action) : (r.act limits now action).frontier.Accounted (Held (r.act limits now action).events) := by
  cases action with
  | add url => exact hr.add url
  | take =>
    unfold Run.act
    dsimp only
    split
    · exact hr
    · next visit f htake => exact hr.take htake
  | release host => exact hr.release host

theorem accounted_run (limits : Limits) (actions : List (Nat × Action)) :
    (run limits actions).frontier.Accounted (Held (run limits actions).events) := by
  induction actions using List.reverseRecOn with
  | nil => exact Accounted.empty
  | append_singleton actions action ih =>
    rw [run_append]
    exact accounted_act ih limits action.1 action.2

/-- **No URL is stranded and no host is worked on twice at once.** After any actions at any times:
* a host is busy just if it is scheduled or held, and it is never both;
* a scheduled host has a URL in its queue, so that a host which is taken comes with a URL;
* a host with a URL in its queue is scheduled or held;
* a host which is taken was not held;
* a host which adding a URL pushes was not scheduled, and the set of hosts of the schedule tells which are. -/
theorem no_host_stranded (limits : Limits) (actions : List (Nat × Action)) :
    let f := (run limits actions).frontier
    let held := Held (run limits actions).events
    (∀ host, (host ∈ f.busy ↔ host ∈ f.schedule.waiting ∨ held host) ∧
      ¬ (host ∈ f.schedule.waiting ∧ held host)) ∧
    (∀ host ∈ f.schedule.waiting, f.queue host ≠ []) ∧
    (∀ host, f.queue host ≠ [] → host ∈ f.schedule.waiting ∨ held host) ∧
    (∀ now visit g, f.take now = some (visit, g) → ¬ held visit.host ∧ visit.url.isSome) ∧
    (∀ host, host ∈ f.schedule.hosts ↔ host ∈ f.schedule.waiting) ∧
    (∀ url host, f.pushedBy limits url = some host → host ∉ f.schedule.hosts) ∧
    (∀ now url, (f.add limits now url).schedule =
      match f.pushedBy limits url with
      | none => f.schedule
      | some host => f.schedule.push now limits.delay host (f.visited.contains host)) := by
  intro f held
  have hf : f.Accounted held := accounted_run limits actions
  refine ⟨?_, hf.queue_ne_nil, ?_, ?_, hf.valid.mem_hosts, ?_, ?_⟩
  · intro host
    refine ⟨hf.busy_iff host, ?_⟩
    rintro ⟨hwaiting, hheld⟩
    exact hf.not_held host hwaiting hheld
  · intro host hqueue
    exact (hf.busy_iff host).1 (hf.busy_of_queue host hqueue)
  · intro now visit g htake
    exact (hf.of_take htake).2
  · intro url host hpushed
    obtain ⟨-, -, -, hfree⟩ := pushedBy_eq_some.1 hpushed
    rw [hf.valid.mem_hosts]
    intro hwaiting
    exact hfree ((hf.busy_iff host).2 (Or.inl hwaiting))
  · intro now url
    exact schedule_add limits now f url

end Retrieval.Frontier
