import Retrieval.Proofs.Crawl.Holding

/-!
# Hosts are left alone between visits

Under a clock that never goes back, and if only hosts that are held are released, a host is not visited before the
delay has passed since it was last released, and one that was never released does not wait. A host gets its delay on two
ways: it is scheduled again when it is released, or later when a URL is added for it.

* `Frontier.Orderly` : the clock never goes back, and only hosts that are held are released;
* `Frontier.Delayed` : the invariant; what the appointments of a schedule know of past releases;
* `Frontier.delayed_run` : every orderly run keeps it;
* `Frontier.take_respects_delay` : the waiting times of all visits of a run.
-/

namespace Retrieval.Frontier

/-- Every host that was released was held then. -/
def ReleasesHeld : List Event → Prop
  | [] => True
  | .released _ host :: past => Held past host ∧ ReleasesHeld past
  | .added _ _ :: past => ReleasesHeld past
  | .taken _ _ :: past => ReleasesHeld past
  | .idle _ :: past => ReleasesHeld past

instance ReleasesHeld.decidable : ∀ events, Decidable (ReleasesHeld events)
  | [] => isTrue trivial
  | .released _ host :: past =>
    have := ReleasesHeld.decidable past
    inferInstanceAs (Decidable (Held past host ∧ ReleasesHeld past))
  | .added _ _ :: past => ReleasesHeld.decidable past
  | .taken _ _ :: past => ReleasesHeld.decidable past
  | .idle _ :: past => ReleasesHeld.decidable past

/-- The clock never goes back, and only hosts that are held are released. -/
structure Orderly (limits : Limits) (actions : List (Nat × Action)) : Prop where
  clock : actions.Pairwise fun a b => a.1 ≤ b.1
  held : ReleasesHeld (run limits actions).events

theorem Orderly.init {limits : Limits} {actions : List (Nat × Action)} {now : Nat} {action : Action}
    (h : Orderly limits (actions ++ [(now, action)])) : Orderly limits actions where
  clock := (List.pairwise_append.1 h.clock).1
  held := by
    have hheld := h.held
    rw [run_append] at hheld
    cases action with
    | add url => exact hheld
    | take =>
      unfold Run.act at hheld
      dsimp only at hheld
      split at hheld <;> exact hheld
    | release host => exact hheld.2

theorem Orderly.le_last {limits : Limits} {actions : List (Nat × Action)} {now : Nat} {action : Action}
    (h : Orderly limits (actions ++ [(now, action)])) : ∀ a ∈ actions, a.1 ≤ now :=
  fun a ha => (List.pairwise_append.1 h.clock).2.2 a ha _ List.mem_cons_self

/-- The times of appointments and the hosts known as visited, as the past releases have it. -/
structure Delayed (limits : Limits) (f : Frontier) (events : List Event) : Prop where
  visited : ∀ host, host ∈ f.visited ↔ ∃ t, .released t host ∈ events
  late : ∀ a ∈ f.schedule.queue, ∀ t, .released t a.host ∈ events → t + limits.delay ≤ a.time
  early : ∀ a ∈ f.schedule.queue, (∀ t, .released t a.host ∉ events) → a.time = 0

/-- A visit waits until the delay has passed since every release of its host before, and not at all if there was
none. -/
def Waits (limits : Limits) (past : List Event) (now : Nat) (visit : Visit) : Prop :=
  (∀ t, .released t visit.host ∈ past → t + limits.delay ≤ now + visit.wait) ∧
    ((∀ t, .released t visit.host ∉ past) → visit.wait = 0)

variable {limits : Limits} {now : Nat} {f g : Frontier} {events : List Event}

theorem Delayed.empty (limits : Limits) : Delayed limits {} [] where
  visited host := by simp
  late a ha := by simp [Schedule.empty] at ha
  early a ha := by simp [Schedule.empty] at ha

theorem Delayed.cons (h : Delayed limits f events) {e : Event} (he : ∀ t host, e ≠ .released t host) :
    Delayed limits f (e :: events) := by
  have hmem (t : Nat) (host : String) : Event.released t host ∈ e :: events ↔ Event.released t host ∈ events := by
    rw [List.mem_cons, or_iff_right (he t host).symm]
  exact ⟨by simpa only [hmem] using h.visited, by simpa only [hmem] using h.late, by simpa only [hmem] using h.early⟩

theorem Delayed.congr (h : Delayed limits f events) (hvisited : g.visited = f.visited)
    (hqueue : ∀ a ∈ g.schedule.queue, a ∈ f.schedule.queue) : Delayed limits g events where
  visited := hvisited ▸ h.visited
  late a ha := h.late a (hqueue a ha)
  early a ha := h.early a (hqueue a ha)

/-! ## Steps -/

/-- A host is pushed with the delay if it has been visited: whatever releases there were, they lie in the past. -/
theorem Delayed.add (h : Delayed limits f events) (hclock : ∀ t host, .released t host ∈ events → t ≤ now)
    (url : Url) : Delayed limits (f.add limits now url) events := by
  have hvisited : (f.add limits now url).visited = f.visited := visited_add limits now f url
  have hschedule := schedule_add limits now f url
  cases hpushed : f.pushedBy limits url with
  | none =>
    rw [hpushed] at hschedule
    exact h.congr hvisited fun a ha => by rwa [hschedule] at ha
  | some host =>
    rw [hpushed] at hschedule
    refine ⟨hvisited ▸ h.visited, ?_, ?_⟩
    · intro a ha t ht
      rw [hschedule, Schedule.mem_queue_push] at ha
      rcases ha with ha | ⟨-, rfl⟩
      · exact h.late a ha t ht
      · have hmem : f.visited.contains host = true :=
          Std.TreeSet.contains_iff_mem.2 ((h.visited host).2 ⟨t, ht⟩)
        rw [if_pos hmem]
        exact Nat.add_le_add_right (hclock t host ht) _
    · intro a ha hnever
      rw [hschedule, Schedule.mem_queue_push] at ha
      rcases ha with ha | ⟨-, rfl⟩
      · exact h.early a ha hnever
      · apply if_neg
        intro hmem
        obtain ⟨t, ht⟩ := (h.visited host).1 (Std.TreeSet.contains_iff_mem.1 hmem)
        exact hnever t ht

theorem Delayed.take (h : Delayed limits f events) {visit : Visit} (ht : f.take now = some (visit, g)) :
    Delayed limits g events ∧ Waits limits events now visit := by
  obtain ⟨schedule, hpop, -, rfl⟩ := take_eq_some ht
  obtain ⟨a, hqueue, hhost, hwait, -⟩ := Schedule.pop_eq_some hpop
  have ha : a ∈ f.schedule.queue := hqueue ▸ List.mem_cons_self
  have hrest : ∀ b ∈ schedule.queue, b ∈ f.schedule.queue := fun b hb => hqueue ▸ List.mem_cons_of_mem _ hb
  refine ⟨h.congr rfl hrest, ?_, ?_⟩
  · intro t hreleased
    have hlate : t + limits.delay ≤ a.time := h.late a ha t (hhost ▸ hreleased)
    omega
  · intro hnever
    have hearly : a.time = 0 := h.early a ha fun t => hhost ▸ hnever t
    omega

/-- A host that is released is held, so that the appointments of the schedule are those of other hosts. -/
theorem Delayed.release (h : Delayed limits f events) (hclock : ∀ t host, .released t host ∈ events → t ≤ now)
    {host : String} (hwaiting : host ∉ f.schedule.waiting) :
    Delayed limits (f.release limits now host) (.released now host :: events) := by
  have hother (a : Appointment) (ha : a ∈ f.schedule.queue) (t : Nat) :
      Event.released t a.host ∈ Event.released now host :: events ↔ Event.released t a.host ∈ events := by
    rw [List.mem_cons, or_iff_right]
    intro e
    cases e
    exact hwaiting (List.mem_map_of_mem ha)
  have hvisited (other : String) : other ∈ f.visited.insert host ↔
      ∃ t, Event.released t other ∈ Event.released now host :: events := by
    rw [mem_insert_iff, h.visited]
    constructor
    · rintro (⟨t, ht⟩ | rfl)
      · exact ⟨t, List.mem_cons_of_mem _ ht⟩
      · exact ⟨now, List.mem_cons_self⟩
    · rintro ⟨t, ht⟩
      rcases List.mem_cons.1 ht with e | ht
      · cases e
        exact Or.inr rfl
      · exact Or.inl ⟨t, ht⟩
  obtain ⟨-, hrelease⟩ | ⟨-, hrelease⟩ := release_cases limits now f host
  · rw [hrelease]
    exact ⟨hvisited, fun a ha t ht => h.late a ha t ((hother a ha t).1 ht),
      fun a ha hnever => h.early a ha fun t ht => hnever t ((hother a ha t).2 ht)⟩
  · rw [hrelease]
    refine ⟨hvisited, ?_, ?_⟩
    · intro a ha t ht
      rcases Schedule.mem_queue_push.1 ha with ha | ⟨-, rfl⟩
      · exact h.late a ha t ((hother a ha t).1 ht)
      · rw [if_pos rfl]
        refine Nat.add_le_add_right ?_ _
        rcases List.mem_cons.1 ht with e | ht
        · cases e
          exact Nat.le_refl _
        · exact hclock t host ht
    · intro a ha hnever
      rcases Schedule.mem_queue_push.1 ha with ha | ⟨-, rfl⟩
      · exact h.early a ha fun t ht => hnever t ((hother a ha t).2 ht)
      · exact absurd List.mem_cons_self (hnever now)

/-! ## Runs -/

theorem released_mem_run {limits : Limits} {actions : List (Nat × Action)} {t : Nat} {host : String}
    (h : .released t host ∈ (run limits actions).events) : (t, .release host) ∈ actions := by
  induction actions using List.reverseRecOn with
  | nil => cases h
  | append_singleton actions action ih =>
    rw [run_append] at h
    rw [List.mem_append, List.mem_singleton]
    obtain ⟨now, action⟩ := action
    cases action with
    | add url => exact Or.inl (ih (by simpa [Run.act] using h))
    | take =>
      unfold Run.act at h
      dsimp only at h
      split at h <;> exact Or.inl (ih (by simpa using h))
    | release released =>
      rcases List.mem_cons.1 h with e | h
      · cases e
        exact Or.inr rfl
      · exact Or.inl (ih h)

/-- Every visit among the events waited. -/
def AllWait (limits : Limits) (events : List Event) : Prop :=
  ∀ later past now visit, events = later ++ .taken now visit :: past → Waits limits past now visit

theorem AllWait.cons (h : AllWait limits events) {e : Event}
    (he : ∀ now visit, e = .taken now visit → Waits limits events now visit) : AllWait limits (e :: events) := by
  intro later past now visit hsplit
  rcases later with _ | ⟨first, later⟩
  · cases hsplit
    exact he now visit rfl
  · rw [List.cons_append, List.cons.injEq] at hsplit
    exact h later past now visit hsplit.2

theorem delayed_run {actions : List (Nat × Action)} (h : Orderly limits actions) :
    Delayed limits (run limits actions).frontier (run limits actions).events ∧
      AllWait limits (run limits actions).events := by
  induction actions using List.reverseRecOn with
  | nil => exact ⟨Delayed.empty limits, fun later past now visit e => by cases later <;> cases e⟩
  | append_singleton actions action ih =>
    obtain ⟨now, action⟩ := action
    obtain ⟨hdelayed, hwait⟩ := ih h.init
    have hclock : ∀ t host, .released t host ∈ (run limits actions).events → t ≤ now :=
      fun t host ht => h.le_last _ (released_mem_run ht)
    rw [run_append]
    cases action with
    | add url => exact ⟨(hdelayed.add hclock url).cons (by simp), hwait.cons (by simp)⟩
    | take =>
      unfold Run.act
      dsimp only
      split
      · exact ⟨hdelayed.cons (by simp), hwait.cons (by simp)⟩
      · next visit f htake =>
        obtain ⟨hnext, hvisit⟩ := hdelayed.take htake
        refine ⟨hnext.cons (by simp), hwait.cons fun t v e => ?_⟩
        cases e
        exact hvisit
    | release host =>
      have hheld : Held (run limits actions).events host := by
        have hlast := h.held
        rw [run_append] at hlast
        exact hlast.1
      -- the appointments that are left are of other hosts, because this one is held
      have hwaiting : host ∉ (run limits actions).frontier.schedule.waiting :=
        fun hh => (accounted_run limits actions).not_held host hh hheld
      exact ⟨hdelayed.release hclock hwaiting, hwait.cons (by simp)⟩

/-- **A host is not visited before its delay has passed.** In an orderly run, a visit that is taken at time `now` waits
so long that the delay has passed since every earlier release of its host, and a host that was not released before does
not wait. -/
theorem take_respects_delay (limits : Limits) (actions : List (Nat × Action)) (h : Orderly limits actions)
    (later past : List Event) (now : Nat) (visit : Visit)
    (htaken : (run limits actions).events = later ++ .taken now visit :: past) :
    (∀ t, .released t visit.host ∈ past → t + limits.delay ≤ now + visit.wait) ∧
      ((∀ t, .released t visit.host ∉ past) → visit.wait = 0) :=
  (delayed_run h).2 later past now visit htaken

def examplePage (name : String) : Url where
  scheme := "http"
  authority := some { host := some (.name "a.example") }
  path := .steps [name]

/-- Visits to one host, which becomes idle when it is released first, and is put back when it is released again. -/
def exampleVisits : List (Nat × Action) :=
  [(0, .add (examplePage "1")), (5, .take), (9, .release "a.example"), (20, .add (examplePage "2")),
    (20, .add (examplePage "3")), (30, .take), (125, .release "a.example"), (130, .take)]

theorem take_respects_delay_idle_and_put_back :
    Orderly ⟨10, 100⟩ exampleVisits ∧
      (∃ later past, (run ⟨10, 100⟩ exampleVisits).events =
          later ++ .taken 30 ⟨"a.example", 90, some (examplePage "2")⟩ :: past ∧
        .released 9 "a.example" ∈ past ∧ 9 + 100 ≤ 30 + 90) ∧
      ∃ past, (run ⟨10, 100⟩ exampleVisits).events =
          .taken 130 ⟨"a.example", 95, some (examplePage "3")⟩ :: past ∧
        .released 125 "a.example" ∈ past ∧ 125 + 100 ≤ 130 + 95 := by
  have horderly : Orderly ⟨10, 100⟩ exampleVisits := ⟨by decide, by decide +kernel⟩
  have hidle : (run ⟨10, 100⟩ exampleVisits).events = (run ⟨10, 100⟩ exampleVisits).events.take 2 ++
      .taken 30 ⟨"a.example", 90, some (examplePage "2")⟩ :: (run ⟨10, 100⟩ exampleVisits).events.drop 3 := by
    decide +kernel
  have hback : (run ⟨10, 100⟩ exampleVisits).events =
      .taken 130 ⟨"a.example", 95, some (examplePage "3")⟩ :: (run ⟨10, 100⟩ exampleVisits).events.drop 1 := by
    decide +kernel
  have hfirst : .released 9 "a.example" ∈ (run ⟨10, 100⟩ exampleVisits).events.drop 3 := by decide +kernel
  have hsecond : .released 125 "a.example" ∈ (run ⟨10, 100⟩ exampleVisits).events.drop 1 := by decide +kernel
  exact ⟨horderly,
    ⟨_, _, hidle, hfirst, (take_respects_delay _ _ horderly _ _ _ _ hidle).1 9 hfirst⟩,
    ⟨_, hback, hsecond, (take_respects_delay _ _ horderly [] _ _ _ hback).1 125 hsecond⟩⟩

end Retrieval.Frontier
