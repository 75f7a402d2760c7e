import Std.Data.TreeMap
import Std.Data.TreeSet
import Retrieval.Crawl.Schedule
import Retrieval.Url

/-!
# The frontier of a crawl

URLs wait in a queue for each host. A host is busy while it is scheduled or being worked on; a host that is not
busy becomes scheduled with the first URL that is added for it.

* `Frontier` : the queues, the schedule, and what has been seen;
* `Frontier.add` : takes in a URL, unless it has been seen or its host has had its share;
* `Frontier.take` : the next host with the URL that waited longest there;
* `Frontier.release` : gives a host back after a visit.
-/

namespace Retrieval

/-- How many URLs a host gets, and how long to wait between visits to it, in milliseconds. -/
structure Frontier.Limits where
  perHost : Nat
  delay : Nat

/-- URLs that wait, and hosts. `accepted` counts the URLs that each host has been given so far, `seen` are the texts
of all URLs ever added, without their fragments. -/
structure Frontier where
  queues : Std.TreeMap String (List Url) := ∅
  busy : Std.TreeSet String := ∅
  visited : Std.TreeSet String := ∅
  seen : Std.TreeSet String := ∅
  accepted : Std.TreeMap String Nat := ∅
  schedule : Schedule := .empty

namespace Frontier

/-- The text by which a URL is known: without its fragment. -/
def key (url : Url) : String := url.withoutFragment.render

def queue (f : Frontier) (host : String) : List Url := f.queues.getD host []

def share (f : Frontier) (host : String) : Nat := f.accepted.getD host 0

/-! ## Adding -/

/-- Schedules a host that is not busy. One that has been visited has to wait. -/
def engage (limits : Limits) (now : Nat) (f : Frontier) (host : String) : Frontier :=
  if f.busy.contains host then f
  else
    { f with
      busy := f.busy.insert host
      schedule := f.schedule.push now limits.delay host (f.visited.contains host) }

/-- Puts a URL at the end of the queue of its host. -/
def accept (limits : Limits) (now : Nat) (f : Frontier) (host : String) (url : Url) : Frontier :=
  engage limits now
    { f with
      accepted := f.accepted.insert host (f.share host + 1)
      queues := f.queues.insert host (f.queue host ++ [url]) }
    host

/-- Marks a URL as seen; its host is counted from now on. -/
def note (f : Frontier) (host : String) (url : Url) : Frontier :=
  { f with seen := f.seen.insert (key url), accepted := f.accepted.insert host (f.share host) }

/-- Takes in a URL at a time. One without a host changes nothing, and neither does one that has been seen; one whose
host has had its share is only marked as seen. -/
def add (limits : Limits) (now : Nat) (f : Frontier) (url : Url) : Frontier :=
  match url.host? with
  | none => f
  | some host =>
    if f.seen.contains (key url) then f
    else
      let f := f.note host url
      if limits.perHost ≤ f.share host then f else accept limits now f host url

def addAll (limits : Limits) (now : Nat) (f : Frontier) (urls : List Url) : Frontier :=
  urls.foldl (add limits now) f

/-! ## Taking and releasing -/

/-- A host that is to be visited, the time left until then, and the URL to visit there. -/
structure Visit where
  host : String
  wait : Nat
  url : Option Url
deriving Repr, DecidableEq

/-- The next host of the schedule with the first URL of its queue. -/
def take (now : Nat) (f : Frontier) : Option (Visit × Frontier) :=
  match f.schedule.pop now with
  | none => none
  | some ((wait, host), schedule) =>
    let queue := f.queue host
    some (⟨host, wait, queue.head?⟩,
      { f with schedule, queues := f.queues.alter host fun q => q.map List.tail })

/-- Gives a host back after a visit: it is scheduled again if URLs wait for it, and else is no longer busy. -/
def release (limits : Limits) (now : Nat) (f : Frontier) (host : String) : Frontier :=
  let f := { f with visited := f.visited.insert host }
  if f.queue host = [] then { f with busy := f.busy.erase host }
  else { f with schedule := f.schedule.push now limits.delay host true }

end Frontier

end Retrieval
