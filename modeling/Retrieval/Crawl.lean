import Retrieval.Crawl.Frontier
import Retrieval.Crawl.Page
import Retrieval.NearDuplicate

/-!
# Crawls

A crawl visits one URL after the other, keeps the pages that are no near-duplicates of those kept before, and follows
their links on the same host.

* `Web` : what each URL is answered with;
* `Crawl.start` : a crawl that has its seeds;
* `Crawl.next?` : what it visits next;
* `Crawl.step` : the crawl after that visit;
* `Crawl.run` : the crawl at its end.
-/

namespace Retrieval

/-- What a request for each URL brings: a page, or nothing. -/
abbrev Web := Url → Option Page

/-- When a crawl stops, how hosts are treated, and what counts as a near-duplicate. -/
structure Crawl.Settings where
  maxDocs : Nat
  limits : Frontier.Limits
  threshold : Nat

/-- A crawl under way. `records` is what has been kept, in order; `now` is the time, which moves on with every
visit. -/
structure Crawl where
  frontier : Frontier := {}
  filter : NearDuplicateFilter
  records : Array Record := #[]
  now : Nat := 1

namespace Crawl

def start (s : Settings) (seeds : List Url) : Crawl :=
  { frontier := Frontier.addAll s.limits 1 {} seeds, filter := .new s.threshold }

def localLinks (url : Url) (page : Page) : List Url :=
  page.links.filter fun link => link.host? = url.host?

def keep (s : Settings) (c : Crawl) (url : Url) (page : Page) : Crawl :=
  { c with
    frontier := c.frontier.addAll s.limits c.now (localLinks url page)
    records := c.records.push (.ofPage (Frontier.key url) page) }

/-- Takes in the answer of a URL. A page whose likeness cannot be judged is kept. -/
def visit (s : Settings) (web : Web) (c : Crawl) (url : Url) : Crawl :=
  match web url with
  | none => c
  | some page =>
    match c.filter.check page.body with
    | .ok (true, filter) => { c with filter }
    | .ok (false, filter) => keep s { c with filter } url page
    | .error _ => keep s c url page

def isFull (s : Settings) (c : Crawl) : Bool := s.maxDocs ≤ c.records.size

/-- The next visit of a crawl, taken from its frontier; nothing if the crawl is at its end. -/
def next? (s : Settings) (c : Crawl) : Option (Frontier.Visit × Crawl) :=
  if c.isFull s then none
  else (c.frontier.take c.now).map fun (next, frontier) => (next, { c with frontier })

def carryOut (s : Settings) (web : Web) (c : Crawl) (next : Frontier.Visit) : Crawl :=
  let c := match next.url with
    | some url => visit s web c url
    | none => c
  { c with frontier := c.frontier.release s.limits c.now next.host, now := c.now + 1 }

def step (s : Settings) (web : Web) (c : Crawl) : Option Crawl :=
  (c.next? s).map fun (next, c) => carryOut s web c next

/-- The crawl after `fuel` visits, or at its end if that comes first. -/
def runFor (s : Settings) (web : Web) : (fuel : Nat) → Crawl → Crawl
  | 0, c => c
  | fuel + 1, c =>
    match c.step s web with
    | some next => runFor s web fuel next
    | none => c

/-- No more visits than this take place: every host of a seed has its share. -/
def visitBound (s : Settings) (c : Crawl) : Nat := c.frontier.accepted.size * s.limits.perHost

def finish (s : Settings) (web : Web) (c : Crawl) : Crawl := runFor s web (c.visitBound s) c

def run (s : Settings) (web : Web) (seeds : List Url) : Crawl := finish s web (start s seeds)

end Crawl

end Retrieval
