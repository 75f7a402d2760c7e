import Retrieval.Crawl.Frontier

/-!
# Runs of a frontier

* `Frontier.Action`, `Frontier.Run`, `Frontier.run` : a frontier after actions at given times, with all that happened;
* `Frontier.Held` : a host that was taken and not released since.

Events are listed latest first.
-/

namespace Retrieval.Frontier

/-- What is done with a frontier. -/
inductive Action where
  | add (url : Url)
  | take
  | release (host : String)
deriving Repr, DecidableEq

/-- What happened, and when. Nothing is taken from a frontier without scheduled hosts. -/
inductive Event where
  | added (now : Nat) (url : Url)
  | taken (now : Nat) (visit : Visit)
  | idle (now : Nat)
  | released (now : Nat) (host : String)
deriving Repr, DecidableEq

/-- A frontier with what has happened to it, latest first. -/
structure Run where
  frontier : Frontier := {}
  events : List Event := []

def Run.act (limits : Limits) (r : Run) (now : Nat) : Action → Run
  | .add url => ⟨r.frontier.add limits now url, .added now url :: r.events⟩
  | .take =>
    match r.frontier.take now with
    | none => ⟨r.frontier, .idle now :: r.events⟩
    | some (visit, f) => ⟨f, .taken now visit :: r.events⟩
  | .release host => ⟨r.frontier.release limits now host, .released now host :: r.events⟩

/-- An empty frontier after actions at given times, the first one first. -/
def run (limits : Limits) (actions : List (Nat × Action)) : Run :=
  actions.foldl (fun r action => r.act limits action.1 action.2) {}

theorem run_append (limits : Limits) (actions : List (Nat × Action)) (now : Nat) (action : Action) :
    run limits (actions ++ [(now, action)]) = (run limits actions).act limits now action := by
  rw [run, List.foldl_append]
  rfl

/-- The host was taken, and it has not been released since. -/
def Held : List Event → String → Prop
  | [], _ => False
  | .taken _ visit :: past, host => visit.host = host ∨ Held past host
  | .released _ released :: past, host => released ≠ host ∧ Held past host
  | .added _ _ :: past, host => Held past host
  | .idle _ :: past, host => Held past host

instance Held.decidable : ∀ events host, Decidable (Held events host)
  | [], _ => isFalse id
  | .taken _ visit :: past, host =>
    have := Held.decidable past host
    inferInstanceAs (Decidable (visit.host = host ∨ Held past host))
  | .released _ released :: past, host =>
    have := Held.decidable past host
    inferInstanceAs (Decidable (released ≠ host ∧ Held past host))
  | .added _ _ :: past, host => Held.decidable past host
  | .idle _ :: past, host => Held.decidable past host

end Retrieval.Frontier
