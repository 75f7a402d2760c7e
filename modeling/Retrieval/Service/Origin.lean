import Retrieval.Http.Request
import Retrieval.Text.Blank

/-!
# Which origins may read the answers

* `OriginRule` : any origin, or those of a list;
* `OriginRule.ofSetting` : the rule that a setting states;
* `OriginRule.allowed?` : the origin that an answer names.
-/

namespace Retrieval.Service

/-- Which origins are allowed. -/
inductive OriginRule where
  | any
  | only (origins : List String)
deriving Repr, DecidableEq

inductive SettingError where
  | wildcardInList
deriving Repr, DecidableEq

def SettingError.message : SettingError → String
  | .wildcardInList =>
    "Wildcard origin (`*`) cannot be passed to `AllowOrigin::list`. Use `AllowOrigin::any()` instead"

namespace OriginRule

/-- The origins of a list: its entries between commas, without blanks around them. Entries that no header can
hold are left out. -/
def entries (list : String) : List String :=
  ((Text.split ',' list.toList).map fun entry => Text.trim (.ofList entry)).filter
    (·.toList.all Http.admissible)

/-- The rule that a setting states. Without a list, and with a list that has no entries left, any origin is
allowed. -/
def ofSetting : Option String → Except SettingError OriginRule
  | none => .ok .any
  | some list =>
    match entries list with
    | [] => .ok .any
    | origins => if origins.contains "*" then .error .wildcardInList else .ok (.only origins)

/-- What an answer says about the origin of its request: any origin is allowed, or just this one, or
nothing. -/
def allowed? (rule : OriginRule) (origin : Option String) : Option String :=
  match rule with
  | .any => some "*"
  | .only origins => origin.filter origins.contains

end OriginRule

end Retrieval.Service
