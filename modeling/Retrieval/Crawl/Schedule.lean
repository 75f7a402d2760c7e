import Std.Data.TreeSet

/-!
# The schedule of hosts

Every host that has pages waiting stands in a queue, ordered by the time from which it may be contacted
again.

* `Schedule` : the queue, with the set of hosts in it;
* `Schedule.push` : schedules a host, unless it is scheduled already;
* `Schedule.pop` : takes the host that may be contacted first, with the time left until then;
* `Schedule.size`, `Schedule.isEmpty` : how many hosts are scheduled, and whether there are any;
* `Schedule.advance` : the clock after some time.
-/

namespace Retrieval

/-- A host and the time, in milliseconds, from which it may be contacted. -/
structure Appointment where
  time : Nat
  host : String
deriving Repr, DecidableEq

namespace Appointment

/-- The order in which hosts are taken: by time, then by host. -/
def before (a b : Appointment) : Bool := a.time < b.time || (a.time == b.time && a.host < b.host)

end Appointment

/-- The scheduled hosts. `queue` is in the order in which they are taken, `hosts` tells which they are. -/
structure Schedule where
  queue : List Appointment := []
  hosts : Std.TreeSet String := ∅

namespace Schedule

def empty : Schedule := {}

def place (a : Appointment) : List Appointment → List Appointment
  | [] => [a]
  | b :: rest => if b.before a then b :: place a rest else a :: b :: rest

/-- Schedules a host `delay` milliseconds after `now` if it is delayed, else at once. A host that is scheduled
already stays as it is. The sum is taken to fit the clock. -/
def push (s : Schedule) (now delay : Nat) (host : String) (delayed : Bool) : Schedule :=
  if s.hosts.contains host then s
  else
    { queue := place ⟨if delayed then now + delay else 0, host⟩ s.queue
      hosts := s.hosts.insert host }

/-- Takes the first host, with the time that is left until it may be contacted. -/
def pop (s : Schedule) (now : Nat) : Option ((Nat × String) × Schedule) :=
  match s.queue with
  | [] => none
  | first :: rest =>
    some ((first.time - now, first.host), { queue := rest, hosts := s.hosts.erase first.host })

def size (s : Schedule) : Nat := s.queue.length

def isEmpty (s : Schedule) : Bool := s.queue.isEmpty

def clockPeriod : Nat := UInt64.size

def advance (now ms : Nat) : Nat := (now + ms) % clockPeriod

end Schedule

end Retrieval
