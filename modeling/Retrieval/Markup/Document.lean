import Retrieval.Markup.Tag

/-!
# Documents

A document is a tree of nodes. Its nodes are numbered in the order in which they came into being; a node that is not
in the tree keeps its number and what is below it.

* `Document.create` : a new node, which is nowhere in the tree yet;
* `Document.insert`, `Document.insertText` : put a node or a text at a place;
* `Document.detach`, `Document.moveChildren` : take nodes away from their parents;
* `Document.texts` : the texts below a node, in order;
* `Document.elements` : the elements with a name that have a parent.
-/

namespace Retrieval.Markup

inductive Language where
  | html
  | svg
  | math
deriving Repr, DecidableEq

structure ElementName where
  language : Language
  name : String
deriving Repr, DecidableEq

abbrev NodeId := Nat

inductive Content where
  | root
  | element (name : ElementName) (attributes : List Attribute)
  | text (s : String)
  | comment
deriving Repr, DecidableEq

/-- A node, its parent, and its children, the last child first. -/
structure Node where
  content : Content
  parent : Option NodeId := none
  children : List NodeId := []
deriving Repr, DecidableEq

def Node.addText (s : String) (n : Node) : Node :=
  match n with
  | ⟨.text t, parent, children⟩ => ⟨.text (t ++ s), parent, children⟩
  | n => n

/-- A tree of nodes, with nodes beside it. Node `0` is the root. -/
structure Document where
  nodes : Array Node
deriving Repr, DecidableEq

/-- Where a node may be put: as the last child of a node, or right before a node. -/
inductive Place where
  | inside (parent : NodeId)
  | before (sibling : NodeId)
deriving Repr, DecidableEq

namespace Document

def empty : Document := ⟨#[{ content := .root }]⟩

def root : NodeId := 0

def parent? (d : Document) (id : NodeId) : Option NodeId := d.nodes[id]?.bind (·.parent)

def children (d : Document) (id : NodeId) : List NodeId := (d.nodes[id]?.map (·.children)).getD []

def text? (d : Document) (id : NodeId) : Option String :=
  match d.nodes[id]? with
  | some ⟨.text s, _, _⟩ => some s
  | _ => none

def edit (d : Document) (id : NodeId) (f : Node → Node) : Document := ⟨d.nodes.modify id f⟩

def create (d : Document) (content : Content) : NodeId × Document :=
  (d.nodes.size, ⟨d.nodes.push { content }⟩)

/-! ## Places -/

def detach (d : Document) (id : NodeId) : Document :=
  match d.parent? id with
  | none => d
  | some parent =>
    (d.edit parent fun n => { n with children := n.children.erase id }).edit id fun n => { n with parent := none }

def putBehind (sibling child : NodeId) : List NodeId → List NodeId
  | [] => []
  | id :: rest => if id = sibling then id :: child :: rest else id :: putBehind sibling child rest

/-- Puts a node that has no parent at a place. There is no place before a node without a parent. -/
def attach (d : Document) (place : Place) (id : NodeId) : Document :=
  match place with
  | .inside parent =>
    (d.edit parent fun n => { n with children := id :: n.children }).edit id fun n => { n with parent := some parent }
  | .before sibling =>
    match d.parent? sibling with
    | none => d
    | some parent =>
      (d.edit parent fun n => { n with children := putBehind sibling id n.children }).edit id fun n =>
        { n with parent := some parent }

def insert (d : Document) (place : Place) (id : NodeId) : Document := (d.detach id).attach place id

/-- The node that ends right at a place. -/
def neighbour? (d : Document) : Place → Option NodeId
  | .inside parent => (d.children parent).head?
  | .before sibling => do
    let parent ← d.parent? sibling
    ((d.children parent).dropWhile (· ≠ sibling))[1]?

/-- Puts a text at a place. A text that ends there goes on with it. -/
def insertText (d : Document) (place : Place) (s : String) : Document :=
  match (d.neighbour? place).filter fun id => (d.text? id).isSome with
  | some id => d.edit id (.addText s)
  | none =>
    let (id, d) := d.create (.text s)
    d.attach place id

def moveChildren (d : Document) (source target : NodeId) : Document :=
  let moved := d.children source
  let d := d.edit source fun n => { n with children := [] }
  let d := d.edit target fun n => { n with children := moved ++ n.children }
  moved.foldl (fun d id => d.edit id fun n => { n with parent := some target }) d

/-! ## Views -/

/-- The texts of nodes and below them, in order. No more than `fuel` nodes are looked at. -/
def textsFrom (d : Document) : (fuel : Nat) → (done : List String) → List NodeId → List String
  | 0, done, _ => done.reverse
  | _ + 1, done, [] => done.reverse
  | fuel + 1, done, id :: rest =>
    let done := match d.text? id with
      | some s => s :: done
      | none => done
    d.textsFrom fuel done ((d.children id).reverseAux rest)

def texts (d : Document) (id : NodeId) : List String := d.textsFrom (d.nodes.size + 1) [] [id]

/-- The attributes of a node, if it is an element with a name, in any language, and has a parent. -/
def named? (d : Document) (name : String) (id : NodeId) : Option (List Attribute) :=
  match d.nodes[id]? with
  | some ⟨.element n attributes, some _, _⟩ => if n.name = name then some attributes else none
  | _ => none

/-- The elements with a name that have a parent, in the order in which they came into being. -/
def elements (d : Document) (name : String) : List (NodeId × List Attribute) :=
  (List.range d.nodes.size).filterMap fun id => (d.named? name id).map (id, ·)

end Document

end Retrieval.Markup
