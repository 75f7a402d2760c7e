import Retrieval.Proofs.Json.Magnitude
import Retrieval.Proofs.Json.Scan

/-!
# Reading the tokens of a value

A reader keeps the open containers on a stack. What it makes of the tokens of a value is what its algebra makes of the
value by recursion, whatever is on the stack and whatever follows, as long as not too many containers are open.

* `resume`, `feed_cons` : what follows one step of any reader;
* `Algebra.Computes` : what an algebra makes of a value;
* `Reader.reads_of_within`, `Reader.reads_skipping` : a reader in front of the tokens of a value;
* `Spells.read_eq` : a spelling is read as its value.
-/

namespace Retrieval.Json

open Value (Within)

/-! ## Steps -/

section Steps
variable {σ α : Type} {step : σ → Token → Progress σ α} {s : σ} {t : Token} {rest : List Token}

/-- What is read behind a step. -/
def resume (step : σ → Token → Progress σ α) (rest : List Token) : σ ⊕ α → Except Malformed (α × List Token)
  | .inl s => feed step s rest
  | .inr a => .ok (a, rest)

theorem feed_cons : feed step s (t :: rest) = (step s t).bind (resume step rest) := by
  rw [feed]
  cases step s t with
  | error e => rfl
  | ok next => cases next <;> rfl

end Steps

/-! ## Algebras -/

/-- An algebra makes `f v` of a value `v`, and calls a field with the key `s` by `name s`. -/
structure Algebra.Computes {α : Type} (a : Algebra α) (f : Value → α) (name : String → String) : Prop where
  literal : ∀ l, a.literal l = f (.literal l)
  number : ∀ s, a.number ⟨.ok s, .ok ()⟩ = .ok (f (.number s))
  text : ∀ s, a.text ⟨.ok s, .ok ()⟩ = .ok (f (.text s))
  key : ∀ s, a.key ⟨.ok s, .ok ()⟩ = .ok (name s)
  array : ∀ items, a.array (items.map f) = f (.array items)
  object : ∀ fields, a.object (fields.map fun p => (name p.1, f p.2)) = f (.object fields)

theorem computes_building : building.Computes id id where
  literal _ := rfl
  number _ := rfl
  text _ := rfl
  key _ := rfl
  array items := congrArg Value.array (List.map_id items)
  object fields := congrArg Value.object (List.map_id fields)

theorem computes_skipping : skipping.Computes (fun _ => ()) fun _ => "" where
  literal _ := rfl
  number _ := rfl
  text _ := rfl
  key _ := rfl
  array _ := rfl
  object _ := rfl

/-! ## Readers -/

namespace Reader

section Feed
variable {α : Type} {a : Algebra α} {f : Value → α} {name : String → String} {v : Value} {depth : Nat}
  {stack : List (Frame α)} {rest : List Token}

theorem descend_eq (h : ∀ m ∈ a.maxDepth, stack.length + (depth + 1) ≤ m) (due : Due) (frame : Frame α) :
    descend a stack due frame = .ok (.inl ⟨due, frame :: stack⟩) := by
  have hroom : ¬ a.maxDepth.any (· ≤ stack.length) = true := by
    rw [Option.any_eq_true]
    rintro ⟨m, hm, hle⟩
    have := h m hm
    have := of_decide_eq_true hle
    omega
  rw [descend, if_neg hroom]

/-- In front of the tokens of `v` a reader makes `f v` of them, if there is room for `depth` more containers. -/
def Reads (a : Algebra α) (f : Value → α) (depth : Nat) (v : Value) : Prop :=
  ∀ (stack : List (Frame α)) (rest : List Token), (∀ m ∈ a.maxDepth, stack.length + depth ≤ m) →
    feed (step a) ⟨.value, stack⟩ (v.tokens ++ rest) = resume (step a) rest (close stack (f v))

theorem feed_firstItem (v : Value) :
    feed (step a) ⟨.firstItem, stack⟩ (v.tokens ++ rest) = feed (step a) ⟨.value, stack⟩ (v.tokens ++ rest) := by
  cases v
  all_goals
    rw [Value.tokens]
    rfl

theorem room_inside {frame : Frame α} (h : ∀ m ∈ a.maxDepth, stack.length + (depth + 1) ≤ m) :
    ∀ m ∈ a.maxDepth, (frame :: stack).length + depth ≤ m := by
  intro m hm
  have := h m hm
  rw [List.length_cons]
  omega

/-- The items behind the first ones, and the end of their array. -/
theorem feed_items {items : List Value} (ha : a.Computes f name) (h : ∀ v ∈ items, Reads a f depth v)
    (hroom : ∀ m ∈ a.maxDepth, stack.length + (depth + 1) ≤ m) (done : List Value) :
    feed (step a) ⟨.separator, .array (done.map f).reverse :: stack⟩
        ((items.map Value.tokens).flatMap (.comma :: ·) ++ .rightBracket :: rest) =
      resume (step a) rest (close stack (f (.array (done ++ items)))) := by
  induction items generalizing done with
  | nil =>
    rw [List.append_nil, ← ha.array, List.map_nil, List.flatMap_nil, List.nil_append, feed_cons]
    change (Except.ok (close stack (a.array (done.map f).reverse.reverse))).bind _ = _
    rw [List.reverse_reverse]
    rfl
  | cons v items ih =>
    obtain ⟨hv, hitems⟩ := List.forall_mem_cons.1 h
    rw [List.map_cons, List.flatMap_cons, List.append_assoc, List.cons_append, feed_cons]
    change feed (step a) ⟨.value, .array (done.map f).reverse :: stack⟩ (v.tokens ++ _) = _
    rw [hv _ _ (room_inside hroom)]
    have hmore := ih hitems (done ++ [v])
    rw [List.append_assoc, List.singleton_append, List.map_append, List.reverse_append] at hmore
    exact hmore

theorem reads_array {items : List Value} (ha : a.Computes f name) (h : ∀ v ∈ items, Reads a f depth v) :
    Reads a f (depth + 1) (.array items) := by
  intro stack rest hroom
  rw [Value.tokens, Value.itemTokens_eq, List.append_assoc, List.cons_append, feed_cons]
  change (descend a stack .firstItem (.array [])).bind _ = _
  rw [descend_eq hroom]
  change feed (step a) ⟨.firstItem, .array [] :: stack⟩ _ = _
  cases items with
  | nil =>
    change feed (step a) ⟨.firstItem, .array [] :: stack⟩ (.rightBracket :: rest) = _
    rw [feed_cons, ← ha.array]
    rfl
  | cons v items =>
    obtain ⟨hv, hitems⟩ := List.forall_mem_cons.1 h
    rw [List.map_cons, intercalate_cons, List.append_assoc, feed_firstItem, hv _ _ (room_inside hroom)]
    exact feed_items ha hitems hroom [v]

def pairs (f : Value → α) (name : String → String) (fields : List (String × Value)) : List (String × α) :=
  fields.map fun p => (name p.1, f p.2)

/-- One field, its key being due. -/
theorem feed_field {key last : String} (ha : a.Computes f name) (hv : Reads a f depth v)
    (hroom : ∀ m ∈ a.maxDepth, stack.length + (depth + 1) ≤ m) (done : List (String × α)) :
    feed (step a) ⟨.key, .object done last :: stack⟩ (.ofText key :: .colon :: v.tokens ++ rest) =
      feed (step a) ⟨.separator, .object ((name key, f v) :: done) (name key) :: stack⟩ rest := by
  rw [List.cons_append, feed_cons]
  change ((a.key ⟨.ok key, .ok ()⟩).map _).bind _ = _
  rw [ha.key]
  change feed (step a) ⟨.colon, .object done (name key) :: stack⟩ (.colon :: (v.tokens ++ rest)) = _
  rw [feed_cons]
  change feed (step a) ⟨.value, .object done (name key) :: stack⟩ (v.tokens ++ rest) = _
  rw [hv _ _ (room_inside hroom)]
  rfl

/-- The fields behind the first ones, and the end of their object. -/
theorem feed_fields {fields : List (String × Value)} (ha : a.Computes f name) (h : ∀ p ∈ fields, Reads a f depth p.2)
    (hroom : ∀ m ∈ a.maxDepth, stack.length + (depth + 1) ≤ m) (done : List (String × Value)) (last : String) :
    feed (step a) ⟨.separator, .object (pairs f name done).reverse last :: stack⟩
        ((fields.map fun p => .ofText p.1 :: .colon :: p.2.tokens).flatMap (.comma :: ·) ++ .rightBrace :: rest) =
      resume (step a) rest (close stack (f (.object (done ++ fields)))) := by
  induction fields generalizing done last with
  | nil =>
    rw [List.append_nil, ← ha.object, List.map_nil, List.flatMap_nil, List.nil_append, feed_cons]
    change (Except.ok (close stack (a.object (pairs f name done).reverse.reverse))).bind _ = _
    rw [List.reverse_reverse]
    rfl
  | cons p fields ih =>
    obtain ⟨hp, hfields⟩ := List.forall_mem_cons.1 h
    rw [List.map_cons, List.flatMap_cons, List.append_assoc, List.cons_append, feed_cons]
    change feed (step a) ⟨.key, .object (pairs f name done).reverse last :: stack⟩ _ = _
    rw [feed_field ha hp hroom]
    have hmore := ih hfields (done ++ [p]) (name p.1)
    rw [List.append_assoc, List.singleton_append, pairs, List.map_append, List.reverse_append] at hmore
    exact hmore

theorem reads_object {fields : List (String × Value)} (ha : a.Computes f name) (h : ∀ p ∈ fields, Reads a f depth p.2) :
    Reads a f (depth + 1) (.object fields) := by
  intro stack rest hroom
  rw [Value.tokens, Value.fieldTokens_eq, List.append_assoc, List.cons_append, feed_cons]
  change (descend a stack .firstKey (.object [] "")).bind _ = _
  rw [descend_eq hroom]
  change feed (step a) ⟨.firstKey, .object [] "" :: stack⟩ _ = _
  cases fields with
  | nil =>
    change feed (step a) ⟨.firstKey, .object [] "" :: stack⟩ (.rightBrace :: rest) = _
    rw [feed_cons, ← ha.object]
    rfl
  | cons p fields =>
    obtain ⟨hp, hfields⟩ := List.forall_mem_cons.1 h
    rw [List.map_cons, intercalate_cons, List.append_assoc]
    change feed (step a) ⟨.key, .object [] "" :: stack⟩ (.ofText p.1 :: .colon :: p.2.tokens ++ _) = _
    rw [feed_field ha hp hroom]
    exact feed_fields ha hfields hroom [p] (name p.1)

theorem ofNumber_of_inRange {n : Numeral} (h : n.InRange) :
    Token.ofNumber (.ofList n.chars) = .number ⟨.ok (.ofList n.chars), .ok ()⟩ := by
  rw [Token.ofNumber, String.toList_ofList, Scan.numberToken, List.reverse_reverse,
    if_pos (Scan.spellingInRange_chars h)]

/-- **A reader makes of the tokens of a value what its algebra makes of the value.** -/
theorem reads_of_within (ha : a.Computes f name) (hv : v.Within depth) : Reads a f depth v := by
  induction hv with
  | literal depth l =>
    intro stack rest _
    rw [Value.tokens, List.singleton_append, feed_cons, ← ha.literal]
    rfl
  | number depth n hrange =>
    intro stack rest _
    rw [Value.tokens, ofNumber_of_inRange hrange, List.singleton_append, feed_cons]
    change ((a.number ⟨.ok (.ofList n.chars), .ok ()⟩).map (close stack)).bind _ = _
    rw [ha.number]
    rfl
  | text depth s =>
    intro stack rest _
    rw [Value.tokens, List.singleton_append, feed_cons]
    change ((a.text ⟨.ok s, .ok ()⟩).map (close stack)).bind _ = _
    rw [ha.text]
    rfl
  | array _ ih => exact reads_array ha ih
  | object _ _ ih => exact reads_object ha ih

end Feed

/-- **Any value is skipped**, however deep it nests and however large its numbers are. -/
theorem reads_skipping (v : Value) (depth : Nat) : Reads skipping (fun _ => ()) depth v := by
  have hroom {depth : Nat} {v : Value} (h : Reads skipping (fun _ => ()) (depth + 1) v) :
      Reads skipping (fun _ => ()) depth v :=
    fun stack rest _ => h stack rest fun _ hm => by cases hm
  cases v with
  | literal l =>
    intro stack rest _
    rw [Value.tokens, List.singleton_append, feed_cons]
    rfl
  | number spelling =>
    intro stack rest _
    rw [Value.tokens, List.singleton_append, feed_cons]
    rfl
  | text s =>
    intro stack rest _
    rw [Value.tokens, List.singleton_append, feed_cons]
    rfl
  | array items => exact hroom (reads_array computes_skipping fun v _ => reads_skipping v depth)
  | object fields =>
    refine hroom (reads_object computes_skipping ?_)
    rintro ⟨key, v⟩ hmem
    have hsmaller : sizeOf v < 1 + sizeOf fields := by
      have hpair := List.sizeOf_lt_of_mem hmem
      rw [Prod.mk.sizeOf_spec] at hpair
      omega
    exact reads_skipping v depth
termination_by v

end Reader

/-! ## Texts -/

variable {chars : List Char} {v : Value}

theorem Spells.read_eq (h : Spells chars v) (hv : v.Within buildDepth) : Value.read (chars.map some) = .ok v := by
  have hroom : ∀ m ∈ building.maxDepth, ([] : List (Frame Value)).length + buildDepth ≤ m := by
    intro m hm
    obtain rfl : buildDepth = m := Option.some.inj hm
    exact (Nat.zero_add _).le
  rw [Value.read, h.scan_eq, Reader.reads_of_within computes_building hv _ _ hroom]
  rfl

end Retrieval.Json
