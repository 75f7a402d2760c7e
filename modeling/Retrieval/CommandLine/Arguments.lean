import Retrieval.Decimal.Natural

/-!
# Arguments of a command

Options have a long name and perhaps a letter. A flag stands alone; any other option takes a value, either
behind `=`, directly behind its letter, or as the next argument, which then may not look like an option.

* `OptionSpec` : an option that a command knows;
* `Arguments.parse` : the options of a list of arguments, or why they are refused;
* `Arguments.value?`, `Arguments.flag` : what was given.
-/

namespace Retrieval.CommandLine

/-- An option that a command knows. `admits` tells which values it takes; a flag takes none. -/
structure OptionSpec where
  name : String
  letter : Option Char := none
  isFlag : Bool := false
  isRequired : Bool := false
  admits : String → Bool := fun _ => true

/-- Why arguments are refused: they are wrong, or they ask for help. -/
inductive Refusal where
  | usage
  | help
deriving Repr, DecidableEq

/-- The options that were given, with their values; the value of a flag is empty. -/
structure Arguments where
  given : List (String × String) := []

namespace Arguments

def value? (a : Arguments) (name : String) : Option String :=
  (a.given.find? (·.1 = name)).map (·.2)

def flag (a : Arguments) (name : String) : Bool := (a.value? name).isSome

/-- Takes an option with its value. No option may be given twice. -/
def take (a : Arguments) (o : OptionSpec) (value : String) : Except Refusal Arguments :=
  if a.flag o.name || !o.admits value then .error .usage
  else .ok { given := (o.name, value) :: a.given }

/-- What is known between two arguments: the options so far, and an option that waits for its value. -/
structure Progress where
  taken : Arguments
  waiting : Option OptionSpec := none
  onlyOperands : Bool := false

/-- Reads a long option, the two dashes removed. -/
def readLong (specs : List OptionSpec) (p : Progress) (body : String) : Except Refusal Progress :=
  let name := String.ofList (body.toList.takeWhile (· ≠ '='))
  let value? := match body.toList.dropWhile (· ≠ '=') with
    | [] => none
    | _ :: value => some (String.ofList value)
  match specs.find? (·.name = name), value? with
  | none, none => .error (if name = "help" then .help else .usage)
  | none, some _ => .error .usage
  | some o, none =>
    if o.isFlag then do pure { p with taken := ← p.taken.take o "" }
    else .ok { p with waiting := some o }
  | some o, some value =>
    if o.isFlag then .error .usage else do pure { p with taken := ← p.taken.take o value }

def readLetters (specs : List OptionSpec) (p : Progress) : List Char → Except Refusal Progress
  | [] => .ok p
  | c :: rest =>
    match specs.find? (·.letter = some c) with
    | none => .error (if c = 'h' then .help else .usage)
    | some o =>
      if o.isFlag then do readLetters specs { p with taken := ← p.taken.take o "" } rest
      else
        match rest with
        | [] => .ok { p with waiting := some o }
        | '=' :: value => do pure { p with taken := ← p.taken.take o (.ofList value) }
        | value => do pure { p with taken := ← p.taken.take o (.ofList value) }

def readArgument (specs : List OptionSpec) (p : Progress) (arg : String) : Except Refusal Progress :=
  if p.onlyOperands then .error .usage
  else
    match p.waiting, arg.toList with
    | none, ['-', '-'] => .ok { p with onlyOperands := true }
    | none, '-' :: '-' :: body => readLong specs p (.ofList body)
    | none, '-' :: c :: rest => readLetters specs p (c :: rest)
    | none, _ => .error .usage
    | some _, '-' :: _ :: _ => .error .usage
    | some o, _ => do pure { p with taken := ← p.taken.take o arg, waiting := none }

def parse (specs : List OptionSpec) (args : List String) : Except Refusal Arguments := do
  let p ← args.foldlM (readArgument specs) { taken := {} }
  if p.waiting.isSome || specs.any (fun o => o.isRequired && !p.taken.flag o.name) then
    .error .usage
  else pure p.taken

end Arguments

/-- An option whose value is a number below `bound`. -/
def numberOption (name : String) (bound : Nat) : OptionSpec :=
  { name, admits := fun value => (Decimal.natural? bound value).isSome }

end Retrieval.CommandLine
