import Mathlib.Data.List.Nodup
import Retrieval.Crawl.Schedule
import Retrieval.Proofs.Lookup

/-!
# Hosts of a schedule

* `Schedule.waiting` : the hosts that are scheduled;
* `Schedule.Valid` : each of them is scheduled once, and the set of hosts is theirs;
* `Schedule.mem_queue_push` : a host that is pushed has one appointment more, unless it is scheduled already;
* `Schedule.Valid.push`, `Schedule.Valid.pop` : pushing and popping keep a schedule valid;
* `Schedule.Valid.mem_waiting_pop` : the host that is popped is scheduled no longer.
-/

namespace Retrieval.Schedule

def waiting (s : Schedule) : List String := s.queue.map (·.host)

/-- Every host is scheduled at most once, and the set of hosts is the set of those that are scheduled. -/
structure Valid (s : Schedule) : Prop where
  nodup : s.waiting.Nodup
  mem_hosts : ∀ host, host ∈ s.hosts ↔ host ∈ s.waiting

theorem Valid.empty : Valid .empty where
  nodup := List.nodup_nil
  mem_hosts host := by
    simp only [waiting, Schedule.empty, List.map_nil, List.not_mem_nil, iff_false]
    exact Std.TreeSet.not_mem_emptyc

/-! ## Pushing -/

theorem place_perm (a : Appointment) (queue : List Appointment) : (place a queue).Perm (a :: queue) := by
  induction queue with
  | nil => exact List.Perm.refl _
  | cons b rest ih =>
    rw [place]
    split
    · exact (ih.cons b).trans (List.Perm.swap a b rest)
    · exact List.Perm.refl _

theorem push_of_mem {s : Schedule} {now delay : Nat} {host : String} {delayed : Bool} (h : host ∈ s.hosts) :
    s.push now delay host delayed = s := by
  rw [push, if_pos (Std.TreeSet.contains_iff_mem.2 h)]

theorem queue_push_of_not_mem {s : Schedule} {now delay : Nat} {host : String} {delayed : Bool}
    (h : host ∉ s.hosts) :
    (s.push now delay host delayed).queue.Perm (⟨if delayed then now + delay else 0, host⟩ :: s.queue) := by
  rw [push, if_neg fun hmem => h (Std.TreeSet.contains_iff_mem.1 hmem)]
  exact place_perm _ _

theorem mem_queue_push {s : Schedule} {now delay : Nat} {host : String} {delayed : Bool} {a : Appointment} :
    a ∈ (s.push now delay host delayed).queue ↔
      a ∈ s.queue ∨ host ∉ s.hosts ∧ a = ⟨if delayed then now + delay else 0, host⟩ := by
  by_cases h : host ∈ s.hosts
  · rw [push_of_mem h]
    simp [h]
  · rw [(queue_push_of_not_mem h).mem_iff, List.mem_cons, or_comm]
    simp [h]

theorem Valid.mem_waiting_push {s : Schedule} (hs : s.Valid) {now delay : Nat} {host h : String} {delayed : Bool} :
    h ∈ (s.push now delay host delayed).waiting ↔ h ∈ s.waiting ∨ h = host := by
  by_cases hmem : host ∈ s.hosts
  · rw [push_of_mem hmem]
    have hhost : host ∈ s.waiting := (hs.mem_hosts host).1 hmem
    exact ⟨Or.inl, fun hh => hh.elim id fun e => e ▸ hhost⟩
  · rw [waiting, ((queue_push_of_not_mem hmem).map _).mem_iff, List.map_cons, List.mem_cons, or_comm, waiting]

theorem Valid.push {s : Schedule} (hs : s.Valid) (now delay : Nat) (host : String) (delayed : Bool) :
    (s.push now delay host delayed).Valid := by
  by_cases hmem : host ∈ s.hosts
  · rw [push_of_mem hmem]
    exact hs
  · refine ⟨?_, fun h => ?_⟩
    · rw [waiting, ((queue_push_of_not_mem hmem).map _).nodup_iff, List.map_cons, List.nodup_cons]
      exact ⟨fun hhost => hmem ((hs.mem_hosts host).2 hhost), hs.nodup⟩
    · rw [hs.mem_waiting_push, ← hs.mem_hosts, Schedule.push,
        if_neg fun hc => hmem (Std.TreeSet.contains_iff_mem.1 hc), mem_insert_iff]

/-! ## Popping -/

theorem pop_eq_none {s : Schedule} {now : Nat} (h : s.pop now = none) : s.queue = [] := by
  rw [pop] at h
  split at h
  · assumption
  · cases h

theorem pop_eq_some {s s' : Schedule} {now wait : Nat} {host : String} (h : s.pop now = some ((wait, host), s')) :
    ∃ a, s.queue = a :: s'.queue ∧ a.host = host ∧ wait = a.time - now ∧ s'.hosts = s.hosts.erase host := by
  rw [pop] at h
  split at h
  · cases h
  · next a rest hqueue =>
    cases h
    exact ⟨a, hqueue, rfl, rfl, rfl⟩

theorem waiting_pop {s s' : Schedule} {now wait : Nat} {host : String} (h : s.pop now = some ((wait, host), s')) :
    s.waiting = host :: s'.waiting := by
  obtain ⟨a, hqueue, rfl, -, -⟩ := pop_eq_some h
  rw [waiting, hqueue, List.map_cons, waiting]

theorem Valid.mem_waiting_pop {s s' : Schedule} (hs : s.Valid) {now wait : Nat} {host h : String}
    (hpop : s.pop now = some ((wait, host), s')) : h ∈ s'.waiting ↔ h ∈ s.waiting ∧ h ≠ host := by
  have hnodup := hs.nodup
  rw [waiting_pop hpop, List.nodup_cons] at hnodup
  rw [waiting_pop hpop, List.mem_cons]
  constructor
  · intro hh
    exact ⟨Or.inr hh, fun e => hnodup.1 (e ▸ hh)⟩
  · rintro ⟨rfl | hh, hne⟩
    · exact absurd rfl hne
    · exact hh

theorem Valid.pop {s s' : Schedule} (hs : s.Valid) {now wait : Nat} {host : String}
    (hpop : s.pop now = some ((wait, host), s')) : s'.Valid := by
  refine ⟨?_, fun h => ?_⟩
  · have hnodup := hs.nodup
    rw [waiting_pop hpop] at hnodup
    exact (List.nodup_cons.1 hnodup).2
  · obtain ⟨a, -, -, -, hhosts⟩ := pop_eq_some hpop
    rw [hs.mem_waiting_pop hpop, hhosts, mem_erase_iff, hs.mem_hosts]

end Retrieval.Schedule
