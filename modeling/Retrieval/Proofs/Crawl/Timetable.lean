import Mathlib.Data.Finmap
import Mathlib.Data.Prod.Lex
import Retrieval.Proofs.Crawl.Schedule
import Retrieval.Proofs.Text.ByteOrder

/-!
# Schedules as timetables

A timetable is a finite map from hosts to times, with a clock. It tells what a schedule does without a queue.

* `Appointment.Precedes` : the order in which hosts are taken;
* `Timetable.Step`, `Timetable.Run` : what a timetable does, one operation after the other;
* `Timetable.Run.unique` : nothing of it is left open;
* `Timetable.Run.timesOf_scheduled` : what was scheduled for a host is what was taken, and what is waiting;
* `Timetable.Run.pairwise_taken` : hosts that are taken with none scheduled meanwhile come in order;
* `Schedule.Clocked.run` : what a schedule does with a clock;
* `Schedule.Refines` : when a schedule stands for a timetable, and `Refines.act` that every operation keeps this up;
* `Schedule.refines_timetable` : a schedule that starts empty does what a timetable does.
-/

namespace Retrieval

/-! ## The order of appointments -/

namespace Appointment

variable {a b c : Appointment}

/-- An appointment precedes the later ones, and of those at its time the ones whose hosts have greater bytes. -/
def Precedes (a b : Appointment) : Prop :=
  a.time < b.time ∨ a.time = b.time ∧ Text.utf8 a.host < Text.utf8 b.host

theorem precedes_iff_toLex_lt : a.Precedes b ↔ toLex (a.time, a.host) < toLex (b.time, b.host) := by
  rw [Precedes, Text.utf8_lt_iff, Prod.Lex.toLex_lt_toLex]

theorem before_iff_precedes : a.before b = true ↔ a.Precedes b := by
  simp only [before, Precedes, Text.utf8_lt_iff, Bool.or_eq_true, Bool.and_eq_true, decide_eq_true_eq, beq_iff_eq]

theorem Precedes.trans (h : a.Precedes b) (h' : b.Precedes c) : a.Precedes c := by
  rw [precedes_iff_toLex_lt] at *
  exact h.trans h'

theorem Precedes.asymm (h : a.Precedes b) : ¬b.Precedes a := by
  rw [precedes_iff_toLex_lt] at *
  exact h.asymm

theorem precedes_or_precedes (h : a.host ≠ b.host) : a.Precedes b ∨ b.Precedes a := by
  rw [precedes_iff_toLex_lt, precedes_iff_toLex_lt]
  exact lt_or_gt_of_ne fun e => h (Prod.ext_iff.1 (toLex_inj.1 e)).2

end Appointment

/-- What is done with scheduled hosts. -/
inductive Schedule.Operation where
  | push (host : String) (delayed : Bool)
  | pop
  | advance (ms : Nat)
deriving Repr, DecidableEq

/-- The times from which hosts may be contacted, and what the clock shows. -/
structure Timetable where
  times : Finmap fun _ : String => Nat
  now : Nat

namespace Timetable

open Schedule (Operation)

variable {delay : Nat} {m m' m'' : Timetable} {a : Appointment} {host : String} {operation : Operation}
variable {operations : List Operation}

/-! ## One operation -/

/-- What an operation brings about. -/
inductive Change where
  | scheduled (a : Appointment)
  | ignored
  | taken (a : Appointment) (wait : Nat)
  | idle
  | passed

/-- What is answered: a host, with the time left until it may be contacted. -/
def Change.answer : Change → Option (Nat × String)
  | .taken a wait => some (wait, a.host)
  | _ => none

def Change.scheduled? : Change → Option Appointment
  | .scheduled a => some a
  | _ => none

def Change.taken? : Change → Option Appointment
  | .taken a _ => some a
  | _ => none

/-- The host stands in the timetable with this time. -/
def Holds (m : Timetable) (a : Appointment) : Prop := m.times.lookup a.host = some a.time

/-- The appointment precedes all others of the timetable. -/
structure First (m : Timetable) (a : Appointment) : Prop where
  holds : m.Holds a
  precedes : ∀ b, m.Holds b → b.host ≠ a.host → a.Precedes b

/-- When a host may be contacted that is pushed now. -/
def due (m : Timetable) (delay : Nat) (delayed : Bool) : Nat := if delayed then m.now + delay else 0

/-- A host is scheduled if it is not in the timetable, the first one is taken, and the clock goes on. -/
inductive Step (delay : Nat) : Timetable → Operation → Change → Timetable → Prop
  | scheduled {m : Timetable} {host : String} (delayed : Bool) (hnew : host ∉ m.times) :
      Step delay m (.push host delayed) (.scheduled ⟨m.due delay delayed, host⟩)
        { m with times := m.times.insert host (m.due delay delayed) }
  | ignored {m : Timetable} {host : String} (delayed : Bool) (hmem : host ∈ m.times) :
      Step delay m (.push host delayed) .ignored m
  | taken {m : Timetable} {a : Appointment} (ha : m.First a) :
      Step delay m .pop (.taken a (a.time - m.now)) { m with times := m.times.erase a.host }
  | idle {m : Timetable} (hempty : m.times = ∅) : Step delay m .pop .idle m
  | passed {m : Timetable} (ms : Nat) :
      Step delay m (.advance ms) .passed { m with now := Schedule.advance m.now ms }

theorem Holds.mem (h : m.Holds a) : a.host ∈ m.times := Finmap.mem_of_lookup_eq_some h

theorem First.unique {a b : Appointment} (ha : m.First a) (hb : m.First b) : a = b := by
  by_cases hhost : a.host = b.host
  · have htimes : some a.time = some b.time := by
      rw [← ha.holds, ← hb.holds, hhost]
    rw [Option.some.injEq] at htimes
    cases a
    cases b
    cases hhost
    cases htimes
    rfl
  · have hab := ha.precedes b hb.holds (Ne.symm hhost)
    exact absurd (hb.precedes a ha.holds hhost) hab.asymm

theorem First.times_ne_empty (ha : m.First a) : m.times ≠ ∅ := by
  intro hempty
  have hmem := ha.holds.mem
  rw [hempty] at hmem
  exact Finmap.notMem_empty hmem

theorem Step.unique {change change' : Change} (h : Step delay m operation change m')
    (h' : Step delay m operation change' m'') : change = change' ∧ m' = m'' := by
  cases h with
  | scheduled delayed hnew =>
    cases h' with
    | scheduled => exact ⟨rfl, rfl⟩
    | ignored _ hmem => exact absurd hmem hnew
  | ignored delayed hmem =>
    cases h' with
    | scheduled _ hnew => exact absurd hmem hnew
    | ignored => exact ⟨rfl, rfl⟩
  | taken ha =>
    cases h' with
    | taken hb =>
      rw [ha.unique hb]
      exact ⟨rfl, rfl⟩
    | idle hempty => exact absurd hempty ha.times_ne_empty
  | idle hempty =>
    cases h' with
    | taken hb => exact absurd hempty hb.times_ne_empty
    | idle => exact ⟨rfl, rfl⟩
  | passed ms =>
    cases h' with
    | passed => exact ⟨rfl, rfl⟩

/-! ## Operations in a row -/

/-- A timetable after operations, with what each of them brought about. -/
inductive Run (delay : Nat) : Timetable → List Operation → List Change → Timetable → Prop
  | nil (m : Timetable) : Run delay m [] [] m
  | cons {m m' m'' : Timetable} {operation : Operation} {operations : List Operation} {change : Change}
      {changes : List Change} (hstep : Step delay m operation change m') (hrun : Run delay m' operations changes m'') :
      Run delay m (operation :: operations) (change :: changes) m''

theorem Run.unique {changes changes' : List Change} (h : Run delay m operations changes m')
    (h' : Run delay m operations changes' m'') : changes = changes' ∧ m' = m'' := by
  induction h generalizing changes' with
  | nil =>
    cases h' with
    | nil => exact ⟨rfl, rfl⟩
  | cons hstep _ ih =>
    cases h' with
    | cons hstep' hrun' =>
      obtain ⟨rfl, rfl⟩ := hstep.unique hstep'
      obtain ⟨rfl, rfl⟩ := ih hrun'
      exact ⟨rfl, rfl⟩

theorem Run.of_append {changes changes' : List Change} (h : Run delay m operations (changes ++ changes') m'') :
    ∃ earlier later m', Run delay m earlier changes m' ∧ Run delay m' later changes' m'' := by
  induction changes generalizing m operations with
  | nil => exact ⟨[], operations, m, .nil m, h⟩
  | cons change changes ih =>
    cases h with
    | cons hstep hrun =>
      obtain ⟨earlier, later, m', hearlier, hlater⟩ := ih hrun
      exact ⟨_ :: earlier, later, m', .cons hstep hearlier, hlater⟩

/-- The times of the appointments of a host. -/
def timesOf (host : String) (appointments : List Appointment) : List Nat :=
  (appointments.filter (·.host = host)).map (·.time)

def scheduled (changes : List Change) : List Appointment := changes.filterMap Change.scheduled?

def taken (changes : List Change) : List Appointment := changes.filterMap Change.taken?

def pending (m : Timetable) (host : String) : List Nat := (m.times.lookup host).toList

theorem timesOf_append (host : String) (as bs : List Appointment) :
    timesOf host (as ++ bs) = timesOf host as ++ timesOf host bs := by
  rw [timesOf, List.filter_append, List.map_append]
  rfl

theorem scheduled_cons (change : Change) (changes : List Change) :
    scheduled (change :: changes) = change.scheduled?.toList ++ scheduled changes := by
  cases change <;> rfl

theorem taken_cons (change : Change) (changes : List Change) :
    taken (change :: changes) = change.taken?.toList ++ taken changes := by
  cases change <;> rfl

/-- What is waiting and what is scheduled is what is taken and what is waiting then. -/
theorem Step.timesOf_scheduled {change : Change} (h : Step delay m operation change m') (host : String) :
    m.pending host ++ timesOf host change.scheduled?.toList = timesOf host change.taken?.toList ++ m'.pending host := by
  cases h with
  | @scheduled pushed delayed hnew =>
    by_cases hhost : pushed = host
    · subst hhost
      simp [pending, timesOf, Change.scheduled?, Change.taken?, Finmap.lookup_eq_none.2 hnew, Finmap.lookup_insert]
    · simp [pending, timesOf, Change.scheduled?, Change.taken?, hhost, Finmap.lookup_insert_of_ne _ (Ne.symm hhost)]
  | @taken a ha =>
    have hlookup : m.times.lookup a.host = some a.time := ha.holds
    by_cases hhost : a.host = host
    · subst hhost
      simp [pending, timesOf, Change.scheduled?, Change.taken?, hlookup]
    · simp [pending, timesOf, Change.scheduled?, Change.taken?, hhost, Finmap.lookup_erase_ne (Ne.symm hhost)]
  | ignored | idle | passed => simp [pending, timesOf, Change.scheduled?, Change.taken?]

theorem Run.timesOf_scheduled {changes : List Change} (h : Run delay m operations changes m') (host : String) :
    m.pending host ++ timesOf host (scheduled changes) = timesOf host (taken changes) ++ m'.pending host := by
  induction h with
  | nil => simp [scheduled, taken, timesOf]
  | @cons m m' m'' _ _ change changes hstep hrun ih =>
    calc m.pending host ++ timesOf host (scheduled (change :: changes))
        = m.pending host ++ timesOf host change.scheduled?.toList ++ timesOf host (scheduled changes) := by
          rw [scheduled_cons, timesOf_append, List.append_assoc]
      _ = timesOf host change.taken?.toList ++ (m'.pending host ++ timesOf host (scheduled changes)) := by
          rw [hstep.timesOf_scheduled, List.append_assoc]
      _ = timesOf host (taken (change :: changes)) ++ m''.pending host := by
          rw [ih, taken_cons, timesOf_append, List.append_assoc]

/-- Without a host that is scheduled a timetable only loses appointments. -/
theorem Step.holds_of_holds {change : Change} (h : Step delay m operation change m') (hnone : change.scheduled? = none)
    (ha : m'.Holds a) : m.Holds a := by
  cases h with
  | scheduled => cases hnone
  | @taken b hb =>
    have hhost : a.host ≠ b.host := (Finmap.mem_erase.1 ha.mem).1
    rwa [Holds, Finmap.lookup_erase_ne hhost] at ha
  | ignored | idle | passed => exact ha

theorem Step.first_of_taken {change : Change} {b : Appointment} (h : Step delay m operation change m')
    (hb : change.taken? = some b) : m.First b ∧ m'.times = m.times.erase b.host := by
  cases h with
  | taken hfirst =>
    cases hb
    exact ⟨hfirst, rfl⟩
  | scheduled | ignored | idle | passed => cases hb

theorem Run.pairwise_taken {changes : List Change} (h : Run delay m operations changes m')
    (hnone : scheduled changes = []) :
    (∀ a ∈ taken changes, m.Holds a) ∧ (taken changes).Pairwise Appointment.Precedes := by
  induction h with
  | nil => exact ⟨fun a ha => absurd ha List.not_mem_nil, List.Pairwise.nil⟩
  | @cons m m' _ _ _ change changes hstep _ ih =>
    rw [scheduled_cons, List.append_eq_nil_iff, Option.toList_eq_nil_iff] at hnone
    obtain ⟨hholds, hordered⟩ := ih hnone.2
    have hholds (a : Appointment) (ha : a ∈ taken changes) : m'.Holds a := hholds a ha
    rw [taken_cons]
    cases htaken : change.taken? with
    | none => exact ⟨fun a ha => hstep.holds_of_holds hnone.1 (hholds a ha), hordered⟩
    | some b =>
      obtain ⟨hfirst, htimes⟩ := hstep.first_of_taken htaken
      -- what is taken later stood in the timetable when this one was the first
      refine ⟨fun a ha => ?_, List.pairwise_cons.2 ⟨fun a ha => ?_, hordered⟩⟩
      · rcases List.mem_cons.1 ha with rfl | ha
        · exact hfirst.holds
        · exact hstep.holds_of_holds hnone.1 (hholds a ha)
      · have hmem := (hholds a ha).mem
        rw [htimes, Finmap.mem_erase] at hmem
        exact hfirst.precedes a (hstep.holds_of_holds hnone.1 (hholds a ha)) hmem.1

end Timetable

namespace Schedule

open Timetable (Change)

variable {delay : Nat} {m m' : Timetable} {a : Appointment} {host : String} {operation : Operation}

/-! ## A schedule with a clock -/

structure Clocked where
  schedule : Schedule := .empty
  now : Nat

def Clocked.act (delay : Nat) (c : Clocked) : Operation → Option (Nat × String) × Clocked
  | .push host delayed => (none, { c with schedule := c.schedule.push c.now delay host delayed })
  | .pop =>
    match c.schedule.pop c.now with
    | none => (none, c)
    | some (answer, schedule) => (some answer, { c with schedule })
  | .advance ms => (none, { c with now := advance c.now ms })

/-- The answers to operations, the first one first, and the schedule behind them. -/
def Clocked.run (delay : Nat) (c : Clocked) : List Operation → List (Option (Nat × String)) × Clocked
  | [] => ([], c)
  | operation :: operations =>
    let (answer, next) := c.act delay operation
    let (answers, last) := next.run delay operations
    (answer :: answers, last)

/-! ## The queue in order -/

theorem pairwise_place {queue : List Appointment} (hnew : a.host ∉ queue.map (·.host))
    (hqueue : queue.Pairwise Appointment.Precedes) : (place a queue).Pairwise Appointment.Precedes := by
  induction queue with
  | nil => exact List.pairwise_singleton _ a
  | cons b rest ih =>
    rw [List.map_cons, List.mem_cons, not_or] at hnew
    obtain ⟨hb, hrest⟩ := List.pairwise_cons.1 hqueue
    rw [place]
    split
    · next hbefore =>
      refine List.pairwise_cons.2 ⟨fun c hc => ?_, ih hnew.2 hrest⟩
      rcases List.mem_cons.1 ((place_perm a rest).mem_iff.1 hc) with rfl | hc
      · exact Appointment.before_iff_precedes.1 hbefore
      · exact hb c hc
    · next hbefore =>
      -- of appointments of different hosts one precedes the other
      have hab : a.Precedes b := (Appointment.precedes_or_precedes hnew.1).resolve_right fun h =>
        hbefore (Appointment.before_iff_precedes.2 h)
      refine List.pairwise_cons.2 ⟨fun c hc => ?_, hqueue⟩
      rcases List.mem_cons.1 hc with rfl | hc
      · exact hab
      · exact hab.trans (hb c hc)

/-! ## Schedules that stand for timetables -/

/-- The queue holds what stands in the timetable, in order and every host once. -/
structure Refines (c : Clocked) (m : Timetable) : Prop where
  valid : c.schedule.Valid
  ordered : c.schedule.queue.Pairwise Appointment.Precedes
  mem_queue : ∀ a, a ∈ c.schedule.queue ↔ m.Holds a
  now : c.now = m.now

namespace Refines

variable {c : Clocked}

theorem start (now : Nat) : Refines { now } ⟨∅, now⟩ where
  valid := .empty
  ordered := List.Pairwise.nil
  mem_queue a := by
    rw [Timetable.Holds, Finmap.lookup_empty]
    exact ⟨fun h => absurd h List.not_mem_nil, fun h => nomatch h⟩
  now := rfl

theorem mem_waiting (h : Refines c m) : host ∈ c.schedule.waiting ↔ host ∈ m.times := by
  rw [waiting, List.mem_map, Finmap.mem_iff]
  constructor
  · rintro ⟨a, ha, rfl⟩
    exact ⟨a.time, (h.mem_queue a).1 ha⟩
  · rintro ⟨time, htime⟩
    exact ⟨⟨time, host⟩, (h.mem_queue ⟨time, host⟩).2 htime, rfl⟩

theorem mem_hosts (h : Refines c m) : host ∈ c.schedule.hosts ↔ host ∈ m.times := by
  rw [h.valid.mem_hosts, h.mem_waiting]

theorem size_eq (h : Refines c m) : c.schedule.size = m.times.keys.card := by
  have hkeys : c.schedule.waiting.toFinset = m.times.keys := by
    ext host
    rw [List.mem_toFinset, h.mem_waiting, Finmap.mem_keys]
  rw [← hkeys, List.toFinset_card_of_nodup h.valid.nodup, waiting, List.length_map]
  rfl

theorem queue_eq_nil_iff (h : Refines c m) : c.schedule.queue = [] ↔ m.times = ∅ := by
  constructor
  · intro hqueue
    refine Finmap.ext_lookup fun host => ?_
    rw [Finmap.lookup_empty, Finmap.lookup_eq_none, ← h.mem_waiting, waiting, hqueue]
    exact List.not_mem_nil
  · intro hempty
    rw [List.eq_nil_iff_forall_not_mem]
    intro a ha
    have hmem := ((h.mem_queue a).1 ha).mem
    rw [hempty] at hmem
    exact Finmap.notMem_empty hmem

theorem first {rest : List Appointment} (h : Refines c m) (hqueue : c.schedule.queue = a :: rest) : m.First a where
  holds := (h.mem_queue a).1 (hqueue ▸ List.mem_cons_self)
  precedes b hb hne := by
    have hordered := h.ordered
    have hmem := (h.mem_queue b).2 hb
    rw [hqueue] at hordered hmem
    rcases List.mem_cons.1 hmem with rfl | hmem
    · exact absurd rfl hne
    · exact (List.pairwise_cons.1 hordered).1 b hmem

theorem push (h : Refines c m) (delay : Nat) (delayed : Bool) (hnew : host ∉ m.times) :
    Refines { c with schedule := c.schedule.push c.now delay host delayed }
      { m with times := m.times.insert host (m.due delay delayed) } where
  valid := h.valid.push c.now delay host delayed
  ordered := by
    have hhost : host ∉ c.schedule.waiting := fun hmem => hnew (h.mem_waiting.1 hmem)
    rw [Schedule.push, if_neg fun hc => hnew (h.mem_hosts.1 (Std.TreeSet.contains_iff_mem.1 hc))]
    exact pairwise_place hhost h.ordered
  mem_queue a := by
    have hhost : host ∉ c.schedule.hosts := fun hmem => hnew (h.mem_hosts.1 hmem)
    rw [mem_queue_push, h.mem_queue, Timetable.Holds, Timetable.Holds, and_iff_right hhost, h.now]
    by_cases he : a.host = host
    · obtain ⟨time, name⟩ := a
      subst he
      rw [Finmap.lookup_eq_none.2 hnew, Finmap.lookup_insert, Timetable.due]
      constructor
      · rintro (hnone | htime)
        · cases hnone
        · cases htime
          rfl
      · rintro htime
        cases htime
        exact Or.inr rfl
    · rw [Finmap.lookup_insert_of_ne _ he]
      exact or_iff_left fun ha => he (ha ▸ rfl)
  now := h.now

theorem pop {s : Schedule} {wait : Nat} (h : Refines c m) (hpop : c.schedule.pop c.now = some ((wait, host), s)) :
    ∃ a, m.First a ∧ host = a.host ∧ wait = a.time - m.now ∧
      Refines { c with schedule := s } { m with times := m.times.erase a.host } := by
  obtain ⟨a, hqueue, rfl, rfl, -⟩ := pop_eq_some hpop
  refine ⟨a, h.first hqueue, rfl, by rw [h.now], h.valid.pop hpop, ?_, fun b => ?_, h.now⟩
  · have hordered := h.ordered
    rw [hqueue] at hordered
    exact (List.pairwise_cons.1 hordered).2
  · have hnodup := h.valid.nodup
    rw [waiting_pop hpop, List.nodup_cons] at hnodup
    have hmem := h.mem_queue b
    rw [hqueue, List.mem_cons, Timetable.Holds] at hmem
    rw [Timetable.Holds]
    by_cases he : b.host = a.host
    · rw [he, Finmap.lookup_erase]
      exact ⟨fun hb => absurd (List.mem_map.2 ⟨b, hb, he⟩) hnodup.1, fun hb => nomatch hb⟩
    · rw [Finmap.lookup_erase_ne he, ← hmem]
      exact (or_iff_right fun e : b = a => he (congrArg (·.host) e)).symm

theorem timesOf_queue (h : Refines c m) (host : String) : Timetable.timesOf host c.schedule.queue = m.pending host := by
  have hmem (a : Appointment) : a ∈ c.schedule.queue.filter (·.host = host) ↔ m.Holds a ∧ a.host = host := by
    rw [List.mem_filter, h.mem_queue, decide_eq_true_iff]
  rw [Timetable.timesOf, Timetable.pending]
  cases hlookup : m.times.lookup host with
  | none =>
    have hnil : c.schedule.queue.filter (·.host = host) = [] := by
      rw [List.eq_nil_iff_forall_not_mem]
      intro a ha
      obtain ⟨hholds, rfl⟩ := (hmem a).1 ha
      exact Option.some_ne_none _ (hholds.symm.trans hlookup)
    rw [hnil]
    rfl
  | some time =>
    have hnodup : (c.schedule.queue.filter (·.host = host)).Nodup := (List.Nodup.of_map _ h.valid.nodup).filter _
    have hone : c.schedule.queue.filter (·.host = host) = [⟨time, host⟩] := by
      rw [← List.perm_singleton, List.perm_ext_iff_of_nodup hnodup (List.nodup_singleton _)]
      intro a
      rw [hmem, List.mem_singleton]
      constructor
      · rintro ⟨hholds, rfl⟩
        have htime : time = a.time := Option.some.inj (hlookup.symm.trans hholds)
        rw [htime]
      · rintro rfl
        exact ⟨hlookup, rfl⟩
    rw [hone]
    rfl

/-- An operation answers as the timetable does, and the schedule stands for the timetable behind it. -/
theorem act (h : Refines c m) (delay : Nat) (operation : Operation) :
    ∃ change m', Timetable.Step delay m operation change m' ∧ (c.act delay operation).1 = change.answer ∧
      Refines (c.act delay operation).2 m' := by
  cases operation with
  | push host delayed =>
    by_cases hmem : host ∈ m.times
    · refine ⟨.ignored, m, .ignored delayed hmem, rfl, ?_⟩
      rw [Clocked.act, push_of_mem (h.mem_hosts.2 hmem)]
      exact h
    · exact ⟨_, _, .scheduled delayed hmem, rfl, h.push delay delayed hmem⟩
  | pop =>
    cases hpop : c.schedule.pop c.now with
    | none =>
      refine ⟨.idle, m, .idle (h.queue_eq_nil_iff.1 (pop_eq_none hpop)), ?_, ?_⟩
      · rw [Clocked.act, hpop]
        rfl
      · rw [Clocked.act, hpop]
        exact h
    | some popped =>
      obtain ⟨⟨wait, host⟩, s⟩ := popped
      obtain ⟨a, hfirst, rfl, rfl, hrefines⟩ := h.pop hpop
      refine ⟨_, _, .taken hfirst, ?_, ?_⟩
      · rw [Clocked.act, hpop]
        rfl
      · rw [Clocked.act, hpop]
        exact hrefines
  | advance ms =>
    exact ⟨.passed, _, .passed ms, rfl, ⟨h.valid, h.ordered, h.mem_queue, congrArg (advance · ms) h.now⟩⟩

theorem run (h : Refines c m) (delay : Nat) (operations : List Operation) :
    ∃ changes m', Timetable.Run delay m operations changes m' ∧
      (c.run delay operations).1 = changes.map Change.answer ∧ Refines (c.run delay operations).2 m' := by
  induction operations generalizing c m with
  | nil => exact ⟨[], m, .nil m, rfl, h⟩
  | cons operation operations ih =>
    obtain ⟨change, m', hstep, hanswer, hact⟩ := h.act delay operation
    obtain ⟨changes, m'', hrun, hanswers, hlast⟩ := ih hact
    exact ⟨change :: changes, m'', .cons hstep hrun, congrArg₂ List.cons hanswer hanswers, hlast⟩

end Refines

/-- A schedule with a clock answers as a timetable does that starts empty, whatever is done with them, and its hosts are
those of the timetable. No host is scheduled twice. What was scheduled for a host was taken in the same order, but for
the appointment that is waiting, if there is one. Hosts that are taken with none scheduled meanwhile come in order. -/
theorem refines_timetable (delay start : Nat) (operations : List Operation) :
    ∃ changes m,
      (∀ changes' m', Timetable.Run delay ⟨∅, start⟩ operations changes' m' ↔ changes' = changes ∧ m' = m) ∧
      (Clocked.run delay { now := start } operations).1 = changes.map Change.answer ∧
      let s := (Clocked.run delay { now := start } operations).2.schedule
      (∀ host, host ∈ s.hosts ↔ host ∈ m.times) ∧
      s.size = m.times.keys.card ∧
      (s.isEmpty = true ↔ m.times = ∅) ∧
      (∀ host, host ∈ s.waiting ↔ host ∈ s.hosts) ∧
      s.waiting.Nodup ∧
      (∀ host, Timetable.timesOf host (Timetable.scheduled changes) =
        Timetable.timesOf host (Timetable.taken changes ++ s.queue)) ∧
      ∀ before stretch after, changes = before ++ stretch ++ after → Timetable.scheduled stretch = [] →
        (Timetable.taken stretch).Pairwise Appointment.Precedes := by
  obtain ⟨changes, m, hrun, hanswers, hlast⟩ := (Refines.start start).run delay operations
  refine ⟨changes, m, fun changes' m' => ⟨fun hrun' => hrun'.unique hrun, ?_⟩, hanswers, fun host => hlast.mem_hosts,
    hlast.size_eq, ?_, fun host => (hlast.valid.mem_hosts host).symm, hlast.valid.nodup, fun host => ?_, ?_⟩
  · rintro ⟨rfl, rfl⟩
    exact hrun
  · rw [isEmpty, List.isEmpty_iff, hlast.queue_eq_nil_iff]
  · rw [Timetable.timesOf_append, hlast.timesOf_queue, ← hrun.timesOf_scheduled, Timetable.pending, Finmap.lookup_empty]
    rfl
  · rintro before stretch after rfl hnone
    obtain ⟨_, _, _, hrun, -⟩ := hrun.of_append
    obtain ⟨_, _, _, -, hstretch⟩ := hrun.of_append
    exact (hstretch.pairwise_taken hnone).2

example :
    (Clocked.run 1000 { now := 10000 }
      [.push "slow.example" true, .push "slow.example" false, .push "fast.example" false, .pop, .advance 600, .pop,
        .pop]).1 =
      [none, none, none, some (0, "fast.example"), none, some (400, "slow.example"), none] := by
  decide +kernel

end Schedule

end Retrieval
