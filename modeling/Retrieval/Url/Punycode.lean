/-!
# Punycode

A label with characters beyond the seven-bit range is written with the seven-bit ones alone: first those that it
has, then, behind a hyphen, where the others go, in ascending order, as differences. Differences are numbers to
base 36 of variable length, whose digits carry a threshold that adapts.

* `encode` : the seven-bit form of a label;
* `decode?` : the label of a seven-bit form.
-/

namespace Retrieval.Url.Punycode

def threshold (k bias : Nat) : Nat :=
  if k ≤ bias then 1 else if bias + 26 ≤ k then 26 else k - bias

theorem one_le_threshold (k bias : Nat) : 1 ≤ threshold k bias := by
  unfold threshold
  split
  · omega
  · split <;> omega

/-- Divides a difference until it is small, and counts the places. -/
def settle (delta k : Nat) : Nat :=
  if 455 < delta then settle (delta / 35) (k + 36) else k + 36 * delta / (delta + 38)
termination_by delta

/-- The bias after a difference, `count` characters being placed by then. -/
def adapt (delta count : Nat) (first : Bool) : Nat :=
  let delta := if first then delta / 700 else delta / 2
  settle (delta + delta / count) 0

def initialBias : Nat := 72

/-! ## Encoding -/

def digit (d : Nat) : Char := Char.ofNat (if d < 26 then 0x61 + d else 0x30 + (d - 26))

def digits (bias k q : Nat) : List Char :=
  let t := threshold k bias
  if q < t then [digit q]
  else digit (t + (q - t) % (36 - t)) :: digits bias (k + 36) ((q - t) / (36 - t))
termination_by q
decreasing_by
  have := one_le_threshold k bias
  have := Nat.div_le_self (q - threshold k bias) (36 - threshold k bias)
  omega

/-- What has been written so far, last first, and the state of the differences. -/
structure Writer where
  done : List Char
  delta : Nat := 0
  bias : Nat := initialBias
  placed : Nat

/-- Passes a character of the label while the character `n` is being placed. -/
def Writer.pass (basic n : Nat) (w : Writer) (c : Char) : Writer :=
  if c.toNat < n then { w with delta := w.delta + 1 }
  else if c.toNat = n then
    { done := (digits w.bias 36 w.delta).reverse ++ w.done
      bias := adapt w.delta (w.placed + 1) (w.placed = basic)
      placed := w.placed + 1 }
  else w

/-- Places the characters `ns`, which are in ascending order and not below `n`. -/
def place (label : List Char) (basic : Nat) (n : Nat) (w : Writer) : List Nat → Writer
  | [] => w
  | m :: ms =>
    let w := { w with delta := w.delta + (m - n) * (w.placed + 1) }
    let w := label.foldl (Writer.pass basic m) w
    place label basic (m + 1) { w with delta := w.delta + 1 } ms

def encode (label : List Char) : List Char :=
  let basic := label.filter (·.toNat < 0x80)
  let others := ((label.filter (0x80 ≤ ·.toNat)).map Char.toNat).mergeSort.eraseDups
  let start := if basic.isEmpty then [] else '-' :: basic.reverse
  (place label basic.length 0x80 { done := start, placed := basic.length } others).done.reverse

/-! ## Decoding -/

def digitValue? (c : Char) : Option Nat :=
  let n := c.toNat
  if 0x61 ≤ n ∧ n ≤ 0x7A then some (n - 0x61)
  else if 0x41 ≤ n ∧ n ≤ 0x5A then some (n - 0x41)
  else if 0x30 ≤ n ∧ n ≤ 0x39 then some (n - 0x30 + 26)
  else none

/-- What has been read so far. The open difference is `index - start`, its next digit stands at place
`k / 36` and weighs `weight`. -/
structure Reader where
  label : List Char
  next : Nat := 0x80
  start : Nat := 0
  index : Nat := 0
  weight : Nat := 1
  k : Nat := 36
  bias : Nat := initialBias

def Reader.settled (r : Reader) : Bool := r.k = 36

def Reader.insert (r : Reader) : Option Reader :=
  let count := r.label.length + 1
  let n := r.next + r.index / count
  if n < 0x110000 ∧ ¬(0xD800 ≤ n ∧ n < 0xE000) then
    let i := r.index % count
    some
      { label := r.label.take i ++ Char.ofNat n :: r.label.drop i
        next := n
        start := i + 1
        index := i + 1
        bias := adapt (r.index - r.start) count (r.start = 0) }
  else none

def Reader.step (r : Reader) (c : Char) : Option Reader := do
  let d ← digitValue? c
  let t := threshold r.k r.bias
  let r := { r with index := r.index + d * r.weight }
  if UInt32.size ≤ r.index then none
  else if d < t then r.insert
  else some { r with weight := r.weight * (36 - t), k := r.k + 36 }

/-- The seven-bit characters of a form, and its digits: what stands before and behind the last hyphen. -/
def parts (form : List Char) : List Char × List Char :=
  match form.reverse.dropWhile (· ≠ '-') with
  | [] => ([], form)
  | _ :: basic => (basic.reverse, (form.reverse.takeWhile (· ≠ '-')).reverse)

def decode? (form : List Char) : Option (List Char) := do
  let (basic, digits) := parts form
  let r ← digits.foldlM Reader.step { label := basic }
  if r.settled then some r.label else none

end Retrieval.Url.Punycode
