import Retrieval.Markup.Builder

/-!
# Elements that give text its form

Elements such as links and bold text may overlap blocks and each other: one that was closed by the end of a block
opens again with the next text, and an end tag in the wrong place divides the elements between.

* `Builder.reopen` : opens again what has been closed by something else;
* `Builder.insertFormatting` : opens an element that gives text its form;
* `Builder.closeGeneric` : the end tag of an element without rules of its own;
* `Builder.closeFormatting` : the end tag of an element that gives text its form.
-/

namespace Retrieval.Markup

namespace FormattingEntry

def isOf (node : NodeId) : FormattingEntry → Bool
  | .element id _ => id == node
  | .marker => false

def ofTag? (p : Tag → Bool) : FormattingEntry → Option (NodeId × Tag)
  | .element id tag => if p tag then some (id, tag) else none
  | .marker => none

end FormattingEntry

namespace Builder

/-- The entries since the last marker, the last first. -/
def recent (b : Builder) : List FormattingEntry := b.formatting.takeWhile (· ≠ .marker)

def forget (b : Builder) (id : NodeId) : Builder := { b with formatting := b.formatting.eraseP (·.isOf id) }

def substitute (id : NodeId) (entries : List FormattingEntry) (l : List FormattingEntry) : List FormattingEntry :=
  l.flatMap fun entry => if entry.isOf id then entries else [entry]

/-! ## Opening -/

def isSettled (b : Builder) : FormattingEntry → Bool
  | .marker => true
  | .element id _ => b.stack.any (·.id == id)

/-- Opens the elements of entries, in order, and adds their entries. -/
def openAll (b : Builder) : List FormattingEntry → Builder
  | [] => b
  | .marker :: rest => b.openAll rest
  | .element _ tag :: rest =>
    let (e, b) := b.insertIn .html tag
    { b with formatting := .element e.id tag :: b.formatting }.openAll rest

/-- Opens again the elements behind the last one that is open still. -/
def reopen (b : Builder) : Builder :=
  let closed := b.formatting.takeWhile (!b.isSettled ·)
  if closed = [] then b
  else { b with formatting := b.formatting.drop closed.length }.openAll closed.reverse

/-- Forgets the oldest of three or more recent elements with the tag. -/
def limitLike (b : Builder) (tag : Tag) : Builder :=
  match b.recent.filterMap (·.ofTag? tag.isLike) with
  | first :: second :: third :: rest => b.forget ((first :: second :: third :: rest).getLast (by simp)).1
  | _ => b

/-- Opens an element that gives text its form. -/
def insertFormatting (b : Builder) (tag : Tag) : Builder :=
  let (e, b) := (b.limitLike tag).insertIn .html tag
  { b with formatting := .element e.id tag :: b.formatting }

/-! ## Closing -/

/-- The innermost element with a name, and those outside it, unless a special element comes first. -/
def phraseFrom? (name : String) : List OpenElement → Option (List OpenElement)
  | [] => none
  | e :: rest =>
    if e.name.isNamed name then some (e :: rest)
    else if e.name.isSpecial then none
    else phraseFrom? name rest

/-- The end tag of an element without rules of its own. -/
def closeGeneric (b : Builder) (name : String) : Builder :=
  match phraseFrom? name b.stack with
  | some (_ :: outer) => { b with stack := outer }
  | _ => b

/-! ## End tags of elements that overlap -/

/-- The chain of elements that are put around a block, while it is being made. `top` is the outermost of them, `kept`
are those that are open, the outermost first, and the new element of the end tag gets its entry behind that of
`anchor`. -/
structure Regrouping where
  builder : Builder
  top : NodeId
  kept : List OpenElement
  anchor : Option NodeId

/-- Puts a fresh copy of an element around the block. -/
def wrap (r : Regrouping) (block : NodeId) (e : OpenElement) (tag : Tag) : Regrouping :=
  let (copy, b) := r.builder.createElement .html tag
  let b := { b with formatting := substitute e.id [.element copy.id tag] b.formatting }
  { builder := b.withDocument (·.insert (.inside copy.id) r.top)
    top := copy.id
    kept := copy :: r.kept
    anchor := if r.top = block then some copy.id else r.anchor }

/-- Deals with the elements between a block and the element that an end tag closes, the innermost first. The first
three that give text its form are put around the block; all others are closed. -/
def regroup (r : Regrouping) (block : NodeId) : (left : Nat) → List OpenElement → Regrouping
  | _, [] => r
  | left, e :: rest =>
    let tag? := (r.builder.formatting.find? (·.isOf e.id)).bind (·.ofTag? fun _ => true)
    match left, tag? with
    | left + 1, some (_, tag) => regroup (wrap r block e tag) block left rest
    | left, _ => regroup { r with builder := r.builder.forget e.id } block (left - 1) rest

/-- The entries after the element of an end tag has been divided: the new element takes the place of the old one, or
stands behind the anchor. -/
def reenter (old : NodeId) (entry : FormattingEntry) (anchor : Option NodeId) (l : List FormattingEntry) :
    List FormattingEntry :=
  match anchor with
  | none => substitute old [entry] l
  | some id => (l.flatMap fun e => if e.isOf id then [entry, e] else [e]).eraseP (·.isOf old)

/-- Divides an element at a block inside it. `inner` are the open elements inside the block, `between` those outside
it but inside the element, `outer` those outside the element. -/
def divide (b : Builder) (e : OpenElement) (tag : Tag) (inner : List OpenElement) (block : OpenElement)
    (between outer : List OpenElement) : Builder :=
  let r := regroup ⟨b, block.id, [], none⟩ block.id 3 between
  let b := r.builder.withDocument (·.detach r.top)
  let place := match outer with
    | ancestor :: _ => b.placeIn ancestor
    | [] => .inside Document.root
  let b := b.withDocument (·.attach place r.top)
  let (copy, b) := b.createElement .html tag
  let b := b.withDocument fun d =>
    (d.moveChildren block.id copy.id).insert (.inside block.id) copy.id
  { b with
    formatting := reenter e.id (.element copy.id tag) r.anchor b.formatting
    stack := inner ++ copy :: block :: r.kept.reverse ++ outer }

/-- The open elements inside an element, and those outside it. -/
def around? (id : NodeId) (stack : List OpenElement) : Option (List OpenElement × List OpenElement) :=
  match stack.dropWhile (·.id ≠ id) with
  | [] => none
  | _ :: outer => some (stack.takeWhile (·.id ≠ id), outer)

/-- The outermost special element of some open elements, with those inside and those outside it. -/
def outermostSpecial? (l : List OpenElement) : Option (List OpenElement × OpenElement × List OpenElement) :=
  match l.reverse.dropWhile (!·.name.isSpecial) with
  | [] => none
  | block :: inner => some (inner.reverse, block, (l.reverse.takeWhile (!·.name.isSpecial)).reverse)

/-- The end tag of an element that gives text its form, for `rounds` blocks at most. -/
def closeRounds (b : Builder) (name : String) : (rounds : Nat) → Builder
  | 0 => b
  | rounds + 1 =>
    match b.recent.findSome? (·.ofTag? (·.name = name)) with
    | none => b.closeGeneric name
    | some (id, tag) =>
      match around? id b.stack with
      | none => b.forget id
      | some (inside, outer) =>
        if !reaches .standard (·.id == id) b.stack then b
        else
          match outermostSpecial? inside with
          | none => { b.forget id with stack := outer }
          | some (inner, block, between) =>
            (b.divide ⟨id, ⟨.html, tag.name⟩⟩ tag inner block between outer).closeRounds name rounds

/-- The end tag of an element that gives text its form. -/
def closeFormatting (b : Builder) (name : String) : Builder :=
  let plain := b.stack.head?.any fun e => e.name.isNamed name && !b.formatting.any (·.isOf e.id)
  if plain then b.pop else b.closeRounds name 8

end Builder

end Retrieval.Markup
