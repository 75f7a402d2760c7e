import Retrieval.Url.Host

/-!
# URLs

* `Url` : scheme, authority, path, query and fragment, each in its one form;
* `Url.render` : the URL as text;
* `Url.parse?` : the URL of a text that stands for itself;
* `Url.join?` : the URL of a text in a document with a URL of its own;
* `Url.host?`, `Url.withoutFragment` : what a crawler asks of a URL.
-/

namespace Retrieval

namespace Url

/-- Who answers for a URL: a user, a host and a port. There is no host where the scheme does without. -/
structure Authority where
  user : String := ""
  password : Option String := none
  host : Option Host := none
  port : Option Nat := none
deriving Repr, DecidableEq

/-- Steps from a root, or a text without structure. -/
inductive Path where
  | steps (list : List String)
  | text (s : String)
deriving Repr, DecidableEq

end Url

/-- A URL in its one form. -/
structure Url where
  scheme : String
  authority : Option Url.Authority := none
  path : Url.Path
  query : Option String := none
  fragment : Option String := none
deriving Repr, DecidableEq

namespace Url

/-! ## Rendering -/

def Authority.render (a : Authority) : String :=
  let user := a.user ++ (match a.password with | some p => ":" ++ p | none => "")
  "//" ++ user ++ (if user = "" then "" else "@") ++ (match a.host with | some h => h.render | none => "") ++
    (match a.port with | some p => ":" ++ toString p | none => "")

def Path.render : Path → String
  | .steps list => String.join (list.map ("/" ++ ·))
  | .text s => s

/-- What keeps a path that begins with two slashes from being read as an authority. -/
def guard (u : Url) : String :=
  match u.authority, u.path with
  | none, .steps ("" :: _ :: _) => "/."
  | _, _ => ""

def renderBase (u : Url) : String :=
  u.scheme ++ ":" ++ (match u.authority with | some a => a.render | none => "") ++ u.guard ++ u.path.render ++
    (match u.query with | some q => "?" ++ q | none => "")

def render (u : Url) : String :=
  u.renderBase ++ (match u.fragment with | some f => "#" ++ f | none => "")

def host? (u : Url) : Option String := (u.authority.bind (·.host)).map Host.render

def withoutFragment (u : Url) : Url := { u with fragment := none }

/-! ## Schemes -/

/-- The schemes that the network knows, with the ports that they use if none is given. -/
def specialSchemes : List (String × Option Nat) :=
  [("http", some 80), ("https", some 443), ("ws", some 80), ("wss", some 443), ("ftp", some 21), ("file", none)]

def isSpecial (scheme : String) : Bool := specialSchemes.any (·.1 = scheme)

/-- The port that a scheme uses if none is given. -/
def defaultPort? (scheme : String) : Option Nat :=
  (specialSchemes.find? (·.1 = scheme)).bind (·.2)

/-- The characters of a scheme behind its first letter. -/
def isSchemeChar (c : Char) : Bool := c.isAlphanum || c = '+' || c = '-' || c = '.'

/-- The scheme in front of the first colon, in lower case, and the text behind it. -/
def cutScheme (s : List Char) : Option (String × List Char) :=
  match s.dropWhile isSchemeChar with
  | ':' :: rest =>
    let scheme := s.takeWhile isSchemeChar
    if scheme.head?.any Char.isAlpha then some (.ofList (scheme.map Char.toLower), rest) else none
  | _ => none

/-! ## Encoded characters -/

def fragmentEscapes (c : Char) : Bool := " \"<>`".toList.contains c

def queryEscapes (c : Char) : Bool := " \"#<>".toList.contains c

def specialQueryEscapes (c : Char) : Bool := c = '\'' || queryEscapes c

def stepEscapes (c : Char) : Bool := c = '#' || c = '?' || c = '\x7b' || c = '\x7d' || fragmentEscapes c

def userEscapes (c : Char) : Bool := "/:;=@[\\]^|".toList.contains c || stepEscapes c

def encoded (escapes : Char → Bool) (s : List Char) : String := .ofList (Text.Percent.encode escapes s)

/-! ## The end: query and fragment -/

def cutPath (s : List Char) : List Char × List Char := s.span fun c => c ≠ '?' && c ≠ '#'

def withEnd (u : Url) (s : List Char) : Url :=
  let (front, fragment) := Text.cut '#' s
  let escapes := if isSpecial u.scheme then specialQueryEscapes else queryEscapes
  let query := match front with
    | '?' :: q => some (encoded escapes q)
    | _ => none
  { u with query, fragment := fragment.map (encoded fragmentEscapes) }

/-! ## Paths -/

/-- Whether a character parts steps: the slash, and the backslash where the network knows the scheme. -/
def parts (special : Bool) (c : Char) : Bool := c = '/' || (special && c = '\\')

def cutSteps (special : Bool) (s : List Char) : List (List Char) :=
  Text.split '/' (s.map fun c => if parts special c then '/' else c)

/-- The steps of a path, the root's slash being left out. -/
def rootedSteps (special : Bool) (s : List Char) : List (List Char) :=
  match s with
  | [] => if special then [[]] else []
  | c :: rest => if parts special c then cutSteps special rest else cutSteps special (c :: rest)

def plainDots : List Char → List Char
  | '%' :: '2' :: 'e' :: rest => '.' :: plainDots rest
  | '%' :: '2' :: 'E' :: rest => '.' :: plainDots rest
  | c :: rest => c :: plainDots rest
  | [] => []

def isDrive (s : List Char) : Bool :=
  match s with
  | [letter, mark] => letter.isAlpha && (mark = ':' || mark = '|')
  | _ => false

/-- Goes up a step; the drive of a file path stays. `done` is the path so far, last first. -/
def goUp (file : Bool) (done : List String) : List String :=
  match done with
  | [only] => if file && isDrive only.toList then done else []
  | done => done.tail

/-- The text of a step; at the beginning of a file path a drive is written with a colon. -/
def stepText (file : Bool) (done : List String) (step : List Char) : String :=
  if file && done.isEmpty && isDrive step then .ofList (step.take 1 ++ [':']) else encoded stepEscapes step

/-- Follows steps; one dot stays, two dots go up. `done` is the path so far, last first. -/
def follow (file : Bool) (done : List String) : List (List Char) → List String
  | [] => done.reverse
  | step :: rest =>
    if plainDots step = ['.', '.'] then
      let up := goUp file done
      follow file (if rest.isEmpty then "" :: up else up) rest
    else if plainDots step = ['.'] then follow file (if rest.isEmpty then "" :: done else done) rest
    else follow file (stepText file done step :: done) rest

/-! ## Authorities -/

/-- The port that a text names; the port that the scheme uses anyway is not kept. -/
def portOf? (scheme : String) (s : List Char) : Option (Option Nat) :=
  if s.isEmpty then some none
  else if !s.all Char.isDigit then none
  else
    match Text.value? 10 s with
    | some n => if n < UInt16.size then some (if defaultPort? scheme = some n then none else some n) else none
    | none => none

/-- The host in front of the first colon outside of brackets, and the port behind it. -/
def cutPort (inside : Bool) : List Char → List Char × Option (List Char)
  | [] => ([], none)
  | c :: rest =>
    if c = ':' && !inside then ([], some rest)
    else
      let (host, port) := cutPort (c = '[' || (inside && c ≠ ']')) rest
      (c :: host, port)

/-- The text before the last at sign, if there is one, and the text behind it. -/
def cutUser (s : List Char) : Option (List Char) × List Char :=
  match s.reverse.dropWhile (· ≠ '@') with
  | [] => (none, s)
  | _ :: before => (some before.reverse, (s.reverse.takeWhile (· ≠ '@')).reverse)

/-- The authority of a text. Only the schemes that the network does not know do without a host, and then there is
no user and no port either. -/
def authorityOf? (scheme : String) (s : List Char) : Option Authority := do
  let (userinfo, server) := cutUser s
  let (user, password) := Text.cut ':' (userinfo.getD [])
  let password := password.filter (!·.isEmpty)
  let (hostText, portText) := cutPort false server
  let host ←
    if hostText.isEmpty then
      if isSpecial scheme || portText.isSome || !user.isEmpty || password.isSome then none else some none
    else ((if isSpecial scheme then Host.ofChars? else Host.opaque?) hostText).map some
  let port ← portOf? scheme (portText.getD [])
  pure { user := encoded userEscapes user, password := password.map (encoded userEscapes), host, port }

/-- A URL whose authority begins a text. A lone at sign is an authority only where the text ends. -/
def ofAuthority? (scheme : String) (s : List Char) : Option Url := do
  let special := isSpecial scheme
  let (front, rest) := s.span fun c => !parts special c && c ≠ '?' && c ≠ '#'
  let authority ← if front = ['@'] && !rest.isEmpty then none else authorityOf? scheme front
  let (path, rest) := cutPath rest
  pure (withEnd { scheme, authority, path := .steps (follow false [] (rootedSteps special path)) } rest)

/-! ## Files -/

/-- Drops empty steps in front of others. -/
def trimSteps : List String → List String
  | "" :: step :: rest => trimSteps (step :: rest)
  | list => list

/-- The URL of a file path on a host. A path that begins with a drive has no host. -/
def ofFilePath (host : Option Host) (s : List Char) : Url :=
  let (path, rest) := cutPath s
  let list := trimSteps (follow true [] (rootedSteps true path))
  let host := match list with
    | drive :: _ => if isDrive drive.toList then none else host
    | [] => host
  withEnd { scheme := "file", authority := some { host }, path := .steps list } rest

/-- The host of a file; the machine itself is not named. -/
def fileHost? (s : List Char) : Option (Option Host) :=
  if s.isEmpty then some none
  else (Host.ofChars? s).map fun host => if host = .name "localhost" then none else some host

def ofFile? (s : List Char) : Option Url :=
  match s with
  | a :: b :: rest =>
    if parts true a && parts true b then do
      let (front, path) := rest.span fun c => !parts true c && c ≠ '?' && c ≠ '#'
      if isDrive front then pure (ofFilePath none rest) else pure (ofFilePath (← fileHost? front) path)
    else some (ofFilePath none s)
  | s => some (ofFilePath none s)

/-! ## References -/

/-- The steps of a base path without the last one, last first. -/
def baseSteps : Path → List String
  | .steps list => list.reverse.tail
  | .text _ => []

/-- The URL that a text without a scheme stands for, seen from a base with a path of steps. -/
def refer? (base : Url) (s : List Char) : Option Url :=
  let special := isSpecial base.scheme
  match s with
  | [] => some base.withoutFragment
  | '?' :: _ => some (withEnd base s)
  | '#' :: _ => some { base with fragment := (withEnd base s).fragment }
  | c :: rest =>
    if c = '/' || c = '\\' then
      match rest with
      | d :: rest' =>
        if d = '/' || d = '\\' then
          ofAuthority? base.scheme
            (if c = '/' && d = '/' then rest' else rest'.dropWhile fun e => e = '/' || e = '\\')
        else rooted special rest
      | [] => rooted special rest
    else
      let (path, rest) := cutPath s
      let list := follow (base.scheme = "file") (baseSteps base.path) (cutSteps special path)
      some (withEnd { base with path := .steps list } rest)
where
  /-- A path from the root of the base. -/
  rooted (special : Bool) (s : List Char) : Option Url :=
    let (path, rest) := cutPath s
    some (withEnd { base with path := .steps (follow false [] (cutSteps special path)) } rest)

/-! ## Texts -/

/-- The characters that count: no control characters or spaces at the ends, no line breaks and tabs inside. -/
def significant (s : List Char) : List Char :=
  let isEdge (c : Char) : Bool := c.toNat ≤ 0x20
  (((s.dropWhile isEdge).reverse.dropWhile isEdge).reverse).filter fun c => c ≠ '\t' && c ≠ '\n' && c ≠ '\r'

/-- A URL of a scheme that the network does not know, behind the scheme. -/
def ofOther? (scheme : String) (s : List Char) : Option Url :=
  match s with
  | '/' :: '/' :: rest => ofAuthority? scheme rest
  | '/' :: rest =>
    let (path, rest) := cutPath rest
    some (withEnd { scheme, path := .steps (follow false [] (cutSteps false path)) } rest)
  | s =>
    let (path, rest) := cutPath s
    some (withEnd { scheme, path := .text (encoded (fun _ => false) path) } rest)

/-- The URL behind a scheme. A scheme that the network knows may be repeated in front of a reference. -/
def ofScheme? (base : Option Url) (scheme : String) (s : List Char) : Option Url :=
  if scheme = "file" then ofFile? s
  else if isSpecial scheme then
    let slashes := s.takeWhile (parts true)
    match base.filter fun b => b.scheme = scheme && slashes.length < 2 with
    | some base => refer? base s
    | none => ofAuthority? scheme (s.dropWhile (parts true))
  else ofOther? scheme s

def ofChars? (base : Option Url) (s : List Char) : Option Url :=
  match cutScheme s, base with
  | some (scheme, rest), base => ofScheme? base scheme rest
  | none, none => none
  | none, some base =>
    match base.path, s with
    | .text _, '#' :: _ => refer? base s
    | .text _, _ => none
    | .steps _, s => refer? base s

def parse? (text : String) : Option Url := ofChars? none (significant text.toList)

def join? (base : Url) (text : String) : Option Url := ofChars? (some base) (significant text.toList)

end Url

end Retrieval
