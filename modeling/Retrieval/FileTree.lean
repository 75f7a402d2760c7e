import Retrieval.Text.Split

/-!
# Trees of files

* `FileTree` : a file with its bytes, or a folder with named entries;
* `FileTree.find?` : what a relative path leads to;
* `FileTree.files` : the files of a tree with their paths, siblings in the order of their names;
* `FileTree.insert` : a tree put at the end of a list of names;
* `FileTree.readFile`, `FileTree.writeFile`, `FileTree.makeFolders` : what a program does with paths.
-/

namespace Retrieval

/-- A file, or a folder of named entries. -/
inductive FileTree where
  | file (bytes : List UInt8)
  | folder (entries : List (String × FileTree))

namespace FileTree

def empty : FileTree := .folder []

def isFolder : FileTree → Bool
  | .folder _ => true
  | .file _ => false

def entries : FileTree → List (String × FileTree)
  | .folder entries => entries
  | .file _ => []

def child? (tree : FileTree) (name : String) : Option FileTree :=
  (tree.entries.find? (·.1 = name)).map (·.2)

/-! ## Paths -/

def steps (path : String) : List String := (Text.split '/' path.toList).map String.ofList

/-- Follows the steps of a path; `above` holds the folders that were passed, the nearest first. -/
def walk (above : List FileTree) (tree : FileTree) : List String → Option FileTree
  | [] => some tree
  | name :: rest =>
    if !tree.isFolder then none
    else if name = "" ∨ name = "." then walk above tree rest
    else if name = ".." then
      match above with
      | [] => none
      | parent :: more => walk more parent rest
    else
      match tree.child? name with
      | some next => walk (tree :: above) next rest
      | none => none

def find? (tree : FileTree) (path : String) : Option FileTree :=
  if path = "" ∨ path.startsWith "/" then none else walk [] tree (steps path)

def join (path name : String) : String :=
  if path.endsWith "/" then path ++ name else path ++ "/" ++ name

/-- The last step of a path that is a name. A path that ends in `..` has none. -/
def fileName? (path : String) : Option String :=
  match (steps path).reverse.dropWhile (fun s => s = "" ∨ s = ".") with
  | [] => none
  | name :: _ => if name = ".." then none else some name

/-- What follows the last point of a file name, if something precedes that point. -/
def extension? (name : String) : Option String :=
  match (Text.split '.' name.toList).reverse with
  | last :: before :: more => if before = [] ∧ more.isEmpty then none else some (.ofList last)
  | _ => none

/-! ## Listing -/

mutual

/-- The files of the tree at `path`, the entries of every folder in the order of their names. -/
def files (path : String) : FileTree → List (String × List UInt8)
  | .file bytes => [(path, bytes)]
  | .folder entries =>
    ((entryFiles path entries).mergeSort (fun a b => a.1 ≤ b.1)).flatMap (·.2)

/-- The files below every entry, with the name of the entry. -/
def entryFiles (path : String) :
    List (String × FileTree) → List (String × List (String × List UInt8))
  | [] => []
  | (name, tree) :: rest => (name, files (join path name) tree) :: entryFiles path rest

end

/-! ## Writing -/

def replaceEntry (entries : List (String × FileTree)) (name : String) (tree : FileTree) :
    List (String × FileTree) :=
  if entries.any (·.1 = name) then
    entries.map fun e => if e.1 = name then (name, tree) else e
  else entries ++ [(name, tree)]

/-- Puts a tree at the end of a list of names, with the folders on the way; a file that is in the way is
replaced. -/
def insert (tree content : FileTree) : List String → FileTree
  | [] => content
  | name :: rest =>
    .folder (replaceEntry tree.entries name (((tree.child? name).getD empty).insert content rest))

/-! ## Files by path -/

inductive PathError where
  | notFound
  | notFolder
  | isFolder
deriving Repr, DecidableEq

def PathError.message : PathError → String
  | .notFound => "No such file or directory (os error 2)"
  | .notFolder => "Not a directory (os error 20)"
  | .isFolder => "Is a directory (os error 21)"

/-- What stands at the end of a list of names, the last one first. -/
def at? (tree : FileTree) : List String → Option FileTree
  | [] => some tree
  | name :: above => (tree.at? above).bind (·.child? name)

/-- The names to which steps lead, starting from the names in `here`, both last first. -/
def resolve (tree : FileTree) (here : List String) : List String → Except PathError (List String)
  | [] => .ok here
  | step :: rest =>
    match tree.at? here with
    | none => .error .notFound
    | some (.file _) => .error .notFolder
    | some (.folder _) =>
      if step = "" ∨ step = "." then tree.resolve here rest
      else if step = ".." then
        match here with
        | [] => .error .notFound
        | _ :: above => tree.resolve above rest
      else if (tree.at? (step :: here)).isSome then tree.resolve (step :: here) rest
      else .error .notFound

/-- Makes the folders that steps lead through, as far as no file is in the way. -/
def makeFolders (tree : FileTree) (here : List String) : List String → FileTree
  | [] => tree
  | step :: rest =>
    if step = "" ∨ step = "." then tree.makeFolders here rest
    else if step = ".." then tree.makeFolders here.tail rest
    else
      match tree.at? (step :: here) with
      | some (.file _) => tree
      | some (.folder _) => tree.makeFolders (step :: here) rest
      | none => (tree.insert empty (step :: here).reverse).makeFolders (step :: here) rest

/-- The steps to the folder in which the last step of a path is taken. -/
def parentSteps (path : String) : List String :=
  ((steps path).reverse.dropWhile fun s => s = "" ∨ s = ".").tail.reverse

def readFile (tree : FileTree) (path : String) : Except PathError (List UInt8) :=
  if path = "" ∨ path.startsWith "/" then .error .notFound
  else do
    match tree.at? (← tree.resolve [] (steps path)) with
    | some (.file bytes) => pure bytes
    | some (.folder _) => throw .isFolder
    | none => throw .notFound

/-- The tree after a file has been written at a path. What lies outside of the tree is taken as written. -/
def writeFile (tree : FileTree) (path : String) (bytes : List UInt8) : Except PathError FileTree :=
  if path = "" then .error .notFound
  else if path.startsWith "/" then .ok tree
  else
    match (steps path).reverse with
    | [] => .error .notFound
    | last :: front => do
      let here ← tree.resolve [] front.reverse
      if last = "" ∨ last = "." ∨ last = ".." then throw .isFolder
      match tree.at? here, tree.at? (last :: here) with
      | some (.folder _), some (.folder _) => throw .isFolder
      | some (.folder _), _ => pure (tree.insert (.file bytes) (last :: here).reverse)
      | _, _ => throw .notFolder

end FileTree

end Retrieval
