/-!
# Outcomes of a command

* `Outcome` : what a command does with its arguments: refuse them, fail with an error and perhaps its cause,
  or answer.
-/

namespace Retrieval.CommandLine

inductive Outcome (α : Type) where
  | usage
  | help
  | failed (error : String) (cause : Option String)
  | done (answer : α)

def Outcome.map {α β : Type} (f : α → β) : Outcome α → Outcome β
  | .usage => .usage
  | .help => .help
  | .failed error cause => .failed error cause
  | .done answer => .done (f answer)

end Retrieval.CommandLine
