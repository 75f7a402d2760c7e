import Retrieval.Proofs.Query.Walk

/-!
# What a call of the parser depends on

A call reads some tokens and looks at one more. Wherever it is made again in front of these, it returns the same, unless
there are too few levels left. Since the counter is back where it was when a term has been read, the next term has as
many levels as the one before.

* `Formula.deep_atom`, `Formula.deep_expr` : what opens too many levels is given up for that reason;
* `Formula.readTerm_again`, `Formula.readExpression_again` : what is read once is read again;
* `Walk.Call` : a call of the parser, as a walk and as the parser of formulas;
* `Walk.IsOperand`, `Walk.exists_tail` : operands that are read one by one are the parts of a chain;
* `Walk.frame_law` : what holds of every call.
-/

namespace Retrieval.Query

open Grammar

namespace Formula

/-! ## Too many levels -/

/-- An atom with a tail, one of which opens too many levels. -/
theorem deep_sequence {a : Atom} {t : Tail} {depth : Nat} {rest : List Token} (g : Formula → Formula)
    (hatom : maxDepth < depth + a.depth →
      readTerm depth (a.tokens ++ (t.tokens ++ rest)) = .error (.tooDeep maxDepth))
    (htail : ∀ left, maxDepth < depth + t.depth →
      readChain depth left (t.tokens ++ rest) = .error (.tooDeep maxDepth))
    (h : maxDepth < depth + max a.depth t.depth) :
    readTerm depth (a.tokens ++ (t.tokens ++ rest)) >>= (fun r => readChain depth (g r.1) r.2) =
      .error (.tooDeep maxDepth) := by
  by_cases ha : maxDepth < depth + a.depth
  · rw [hatom ha]
    rfl
  · rw [read_atom a (by omega)]
    exact htail _ (by omega)

/-- A negation in the place of a term. -/
theorem deep_not {n : Negation} {depth : Nat} {rest : List Token}
    (hbody : depth + 1 ≤ maxDepth → readNegated (depth + 1) (n.body ++ rest) = .error (.tooDeep maxDepth))
    (hd : depth ≤ maxDepth) : readTerm depth (.not :: (n.body ++ rest)) = .error (.tooDeep maxDepth) := by
  rw [readTerm_not]
  split
  · rfl
  · exact hbody (by omega)

mutual

theorem deep_atom : ∀ (a : Atom) {depth : Nat} {rest : List Token}, depth ≤ maxDepth → maxDepth < depth + a.depth →
    readTerm depth (a.tokens ++ rest) = .error (.tooDeep maxDepth)
  | .word _, depth, _, hd, h => by
    rw [Atom.depth] at h
    omega
  | .group e, depth, rest, hd, h => by
    rw [Atom.depth] at h
    rw [Atom.tokens, List.cons_append, readTerm_left, List.append_assoc]
    split
    · rfl
    · rw [deep_expr e (by omega) (by omega)]
      rfl

theorem deep_tail : ∀ (t : Tail) {depth : Nat} {left : Formula} {rest : List Token}, depth ≤ maxDepth →
    maxDepth < depth + t.depth → readChain depth left (t.tokens ++ rest) = .error (.tooDeep maxDepth)
  | .done, depth, _, _, hd, h => by
    rw [Tail.depth] at h
    omega
  | .atom op a t, depth, left, rest, hd, h => by
    rw [Tail.depth] at h
    rw [Tail.tokens, List.cons_append, List.append_assoc, readChain_join, if_neg (by simp [a.tokens_ne_nil])]
    exact deep_sequence (join op left) (deep_atom a hd) (fun _ => deep_tail t hd) h
  | .negation op n, depth, left, rest, hd, h => by
    rw [Tail.depth] at h
    rw [Tail.tokens, List.cons_append, List.cons_append, readChain_join, if_neg (by simp),
      deep_not (fun hd' => deep_negation n hd' (by omega)) hd]
    rfl

theorem deep_negation : ∀ (n : Negation) {depth : Nat} {rest : List Token}, depth ≤ maxDepth →
    maxDepth < depth + n.depth → readNegated depth (n.body ++ rest) = .error (.tooDeep maxDepth)
  | .first a t, depth, rest, hd, h => by
    rw [Negation.depth] at h
    rw [Negation.body, List.append_assoc, readNegated_eq]
    exact deep_sequence .not (deep_atom a hd) (fun _ => deep_tail t hd) h
  | .whole n, depth, rest, hd, h => by
    rw [Negation.depth] at h
    rw [Negation.body, List.cons_append, readNegated_eq, deep_not (fun hd' => deep_negation n hd' (by omega)) hd]
    rfl

/-- **What opens too many levels is given up for that reason**, whatever stands behind it. -/
theorem deep_expr : ∀ (e : Expr) {depth : Nat} {rest : List Token}, depth ≤ maxDepth → maxDepth < depth + e.depth →
    readExpression depth (e.tokens ++ rest) = .error (.tooDeep maxDepth)
  | .plain a t, depth, rest, hd, h => by
    rw [Expr.depth] at h
    rw [Expr.tokens, List.append_assoc, readExpression_plain (a.tokens_append_ne_not _)]
    exact deep_sequence id (deep_atom a hd) (fun _ => deep_tail t hd) h
  | .negated n, depth, rest, hd, h => by
    rw [Expr.depth] at h
    rw [Expr.tokens, List.cons_append, readExpression_not]
    exact deep_negation n hd h

end

/-! ## Reading again -/

theorem stops_of_head?_eq {tokens other : List Token} (h : other.head? = tokens.head?) (hs : Stops tokens) :
    Stops other := by
  rw [stops_iff, h]
  exact stops_iff.1 hs

/-- What is read at a depth is read again in front of the same next token at any other, if there are enough levels. -/
def ReadAgain (read : Nat → List Token → Read) (depth : Nat) (tokens : List Token) : Prop :=
  ∀ f rest, read depth tokens = .ok (f, rest) → ∃ used, tokens = used ++ rest ∧
    ∀ depth' ≤ maxDepth, ∀ rest' : List Token, rest'.head? = rest.head? →
      read depth' (used ++ rest') = .ok (f, rest') ∨
        depth < depth' ∧ read depth' (used ++ rest') = .error (.tooDeep maxDepth)

theorem readTerm_again {depth : Nat} (hd : depth ≤ maxDepth) (tokens : List Token) :
    ReadAgain readTerm depth tokens := by
  intro f rest hread
  rcases (derived tokens depth hd).1 f rest hread with ⟨a, rfl, rfl, ha⟩ | ⟨n, rfl, rfl, hn, hs⟩
  · refine ⟨a.tokens, rfl, fun depth' hd' rest' _ => ?_⟩
    by_cases hdeep : maxDepth < depth' + a.depth
    · exact .inr ⟨by omega, deep_atom a hd' hdeep⟩
    · exact .inl (read_atom a (by omega))
  · refine ⟨.not :: n.body, rfl, fun depth' hd' rest' hhead => ?_⟩
    rw [List.cons_append]
    by_cases hdeep : maxDepth < depth' + 1 + n.depth
    · exact .inr ⟨by omega, deep_not (fun hd'' => deep_negation n hd'' hdeep) hd'⟩
    · rw [readTerm_not, if_neg (by omega)]
      exact .inl (read_negation n (by omega) (stops_of_head?_eq hhead hs))

theorem readExpression_again {depth : Nat} (hd : depth ≤ maxDepth) (tokens : List Token) :
    ReadAgain readExpression depth tokens := by
  intro f rest hread
  obtain ⟨e, rfl, rfl, he, hs⟩ := (derived tokens depth hd).2.2.2 f rest hread
  refine ⟨e.tokens, rfl, fun depth' hd' rest' hhead => ?_⟩
  by_cases hdeep : maxDepth < depth' + e.depth
  · exact .inr ⟨by omega, deep_expr e hd' hdeep⟩
  · exact .inl (read_expr e (by omega) (stops_of_head?_eq hhead hs))

end Formula

/-- A list that agrees with another to the end of its first part, and on what comes next. -/
theorem exists_append_of_agree {α : Type} {used rest other : List α}
    (h : ∀ i ≤ used.length, other[i]? = (used ++ rest)[i]?) :
    ∃ rest', other = used ++ rest' ∧ rest'.head? = rest.head? := by
  induction used generalizing other with
  | nil =>
    refine ⟨other, rfl, ?_⟩
    rw [List.head?_eq_getElem?, List.head?_eq_getElem?]
    exact h 0 (Nat.le_refl 0)
  | cons a used ih =>
    obtain ⟨tail, rfl⟩ : ∃ tail, other = a :: tail := List.head?_eq_some_iff.1 (by
      rw [List.head?_eq_getElem?, h 0 (Nat.zero_le _)]
      rfl)
    have htail : ∀ i ≤ used.length, tail[i]? = (used ++ rest)[i]? := fun i hi => h (i + 1) (Nat.succ_le_succ hi)
    obtain ⟨rest', rfl, hhead⟩ := ih htail
    exact ⟨rest', rfl, hhead⟩

namespace Walk

/-! ## Calls -/

/-- What can be called. -/
inductive Call where
  | expression
  | term
deriving Repr, DecidableEq

/-- The call as a walk, with at most `n` calls under way at a time. -/
def Call.walk (index : Index) (n : Nat) : Call → Walk DocSet
  | .expression => Walk.expression index n
  | .term => Walk.term index n

def Call.parse : Call → Nat → (tokens : List Token) → Except QueryError (Formula.Parsed tokens)
  | .expression => Formula.expression
  | .term => Formula.term

def Call.read (call : Call) (depth : Nat) (tokens : List Token) : Formula.Read :=
  (call.parse depth tokens).map Formula.Parsed.view

/-- The call returns at a cursor. -/
def Call.ReturnsAt (index : Index) (call : Call) (s : Cursor) (result : Except QueryError DocSet) (t : Cursor) : Prop :=
  Returns (fun n => call.walk index n s) result t

variable {index : Index} {call : Call} {s t : Cursor} {f : Formula}

theorem Call.ends (index : Index) (call : Call) (s : Cursor) (hd : s.depth ≤ maxDepth) :
    Ends index s (call.read s.depth s.rest) fun n => call.walk index n s := by
  obtain ⟨hterm, -, -, hexpr⟩ := Walk.ends index s hd
  cases call with
  | expression => exact hexpr
  | term => exact hterm

theorem Call.read_again (call : Call) {depth : Nat} (hd : depth ≤ maxDepth) (tokens : List Token) :
    Formula.ReadAgain call.read depth tokens := by
  cases call with
  | expression => exact Formula.readExpression_again hd tokens
  | term => exact Formula.readTerm_again hd tokens

theorem Call.shorter {depth : Nat} {tokens rest : List Token} (h : call.read depth tokens = .ok (f, rest)) :
    rest.length < tokens.length := Formula.shorter_of_view h

theorem Call.parse_map (call : Call) (depth : Nat) (tokens : List Token) :
    (call.parse depth tokens).map (fun p => (p.formula.eval index, p.rest)) =
      (call.read depth tokens).map fun r => (r.1.eval index, r.2) := by
  rw [Call.read]
  cases call.parse depth tokens <;> rfl

theorem positions_of_rest (hframed : s.Framed t) (h : t.rest.length < s.rest.length) :
    s.position < t.position ∧ t.position ≤ s.tokens.length ∧
      s.rest.length = t.position - s.position + t.rest.length := by
  have hle := hframed.position_le
  have hge := hframed.le_position
  rw [Cursor.length_rest, Cursor.length_rest, hframed.tokens_eq] at h ⊢
  omega

/-- **A call that has returned returns again** wherever the cursor is in front of the same tokens, the one behind those
that it has used included: with the same documents and as many tokens used, unless there are fewer levels left and they
are too few. -/
theorem Call.again (hd : s.depth ≤ maxDepth) (hread : call.read s.depth s.rest = .ok (f, t.rest))
    (hframed : s.Framed t) {other : Cursor} (hother : other.depth ≤ maxDepth)
    (hagree : ∀ i ≤ t.position - s.position, other.tokens[other.position + i]? = s.tokens[s.position + i]?) :
    (∃ u, call.ReturnsAt index other (.ok (f.eval index)) u ∧
      u.position = other.position + (t.position - s.position)) ∨
    s.depth < other.depth ∧ ∃ u, call.ReturnsAt index other (.error (.tooDeep maxDepth)) u := by
  obtain ⟨-, -, hlength⟩ := positions_of_rest hframed (Call.shorter hread)
  obtain ⟨used, hused, hagain⟩ := call.read_again hd s.rest f t.rest hread
  have hsize : used.length = t.position - s.position := by
    rw [hused, List.length_append] at hlength
    omega
  obtain ⟨rest', hrest', hhead⟩ : ∃ rest', other.rest = used ++ rest' ∧ rest'.head? = t.rest.head? := by
    refine exists_append_of_agree fun i hi => ?_
    rw [← hused, Cursor.rest, Cursor.rest, List.getElem?_drop, List.getElem?_drop]
    exact hagree i (by omega)
  have hends := call.ends index other hother
  rw [hrest'] at hends
  rcases hagain other.depth hother rest' hhead with hok | ⟨hlt, hdeep⟩
  · rw [hok] at hends
    obtain ⟨u, hwalk, hframed', hrest⟩ := hends.of_ok
    have hshorter : u.rest.length < other.rest.length := by
      rw [hrest, hrest']
      exact Call.shorter hok
    obtain ⟨hlt, -, hlength'⟩ := positions_of_rest hframed' hshorter
    rw [hrest', List.length_append, hrest] at hlength'
    exact .inl ⟨u, hwalk, by omega⟩
  · rw [hdeep] at hends
    obtain ⟨u, hwalk, -⟩ := hends.of_error
    exact .inr ⟨hlt, u, hwalk⟩

/-! ## Siblings -/

/-- Tokens that a call of `term` reads to their end from a depth, as the documents `found`. -/
def IsOperand (index : Index) (depth : Nat) (tokens : List Token) (found : DocSet) : Prop :=
  ∃ t, Call.term.ReturnsAt index { tokens, depth } (.ok found) t ∧ t.rest = []

/-- An operand with the operator before it. -/
structure Sibling where
  op : Join
  tokens : List Token
  found : DocSet

/-- The tokens of a sibling with its operator. -/
def Sibling.all (o : Sibling) : List Token := o.op.token :: o.tokens

def joinAll (index : Index) (found : DocSet) (siblings : List Sibling) : DocSet :=
  siblings.foldl (fun found o => index.reading.join o.op found o.found) found

theorem isOperand_iff {depth : Nat} {tokens : List Token} {found : DocSet} (hd : depth ≤ maxDepth) :
    IsOperand index depth tokens found ↔ ∃ f, Formula.readTerm depth tokens = .ok (f, []) ∧ f.eval index = found := by
  have hends : Ends index { tokens, depth } (Formula.readTerm depth tokens) fun n => term index n { tokens, depth } :=
    (Walk.ends index { tokens, depth } hd).1
  constructor
  · rintro ⟨t, hwalk, hrest⟩
    cases hread : Formula.readTerm depth tokens with
    | error e =>
      rw [hread] at hends
      obtain ⟨u, hwalk', -⟩ := hends.of_error
      cases (hwalk.unique hwalk').1
    | ok r =>
      rw [hread] at hends
      obtain ⟨u, hwalk', -, hrest'⟩ := hends.of_ok
      obtain ⟨hfound, rfl⟩ := hwalk.unique hwalk'
      cases hfound
      exact ⟨r.1, by rw [← hrest, hrest'], rfl⟩
  · rintro ⟨f, hread, rfl⟩
    rw [hread] at hends
    obtain ⟨t, hwalk, -, hrest⟩ := hends.of_ok
    exact ⟨t, hwalk, hrest⟩

theorem IsOperand.cases {depth : Nat} {tokens : List Token} {found : DocSet} (hd : depth ≤ maxDepth)
    (h : IsOperand index depth tokens found) :
    (∃ a : Atom, a.tokens = tokens ∧ a.read index.reading = found ∧ depth + a.depth ≤ maxDepth) ∨
      ∃ n : Negation, .not :: n.body = tokens ∧ n.read index.reading = found ∧ depth + 1 + n.depth ≤ maxDepth := by
  obtain ⟨f, hread, rfl⟩ := (isOperand_iff hd).1 h
  rcases (Formula.derived tokens depth hd).1 f [] hread with ⟨a, htokens, rfl, ha⟩ | ⟨n, htokens, rfl, hn, -⟩
  · exact .inl ⟨a, by simpa using htokens.symm, (index.eval_read (.plain a .done)).symm, ha⟩
  · exact .inr ⟨n, by simpa using htokens.symm, (index.eval_read (.negated n)).symm, hn⟩

/-- **Operands that are read one by one are a tail, which needs no more levels than they do.** Only the last of them may
be a negation, since a negation goes on as long as operators follow. -/
theorem exists_tail {depth : Nat} (hd : depth ≤ maxDepth) {siblings : List Sibling}
    (h : ∀ o ∈ siblings, IsOperand index depth o.tokens o.found)
    (hnot : ∀ o ∈ siblings.dropLast, o.tokens.head? ≠ some .not) :
    ∃ t : Tail, t.tokens = siblings.flatMap Sibling.all ∧ depth + t.depth ≤ maxDepth ∧
      ∀ found, t.read index.reading found = joinAll index found siblings := by
  induction siblings with
  | nil => exact ⟨.done, rfl, hd, fun _ => rfl⟩
  | cons o siblings ih =>
    obtain ⟨ho, hsiblings⟩ := List.forall_mem_cons.1 h
    rcases ho.cases hd with ⟨a, htokens, hread, ha⟩ | ⟨n, htokens, hread, hn⟩
    · have hlater : ∀ p ∈ siblings.dropLast, p.tokens.head? ≠ some .not := by
        intro p hp
        refine hnot p ?_
        cases siblings with
        | nil => cases hp
        | cons q siblings => exact List.mem_cons_of_mem _ hp
      obtain ⟨t, ht, hdepth, hjoin⟩ := ih hsiblings hlater
      refine ⟨.atom o.op a t, ?_, ?_, fun found => ?_⟩
      · rw [Tail.tokens, ht, htokens, List.flatMap_cons, Sibling.all, List.cons_append]
      · rw [Tail.depth]
        omega
      · rw [Tail.read, hread, hjoin]
        rfl
    · cases siblings with
      | nil =>
        refine ⟨.negation o.op n, ?_, ?_, fun found => ?_⟩
        · rw [Tail.tokens, htokens, List.flatMap_singleton, Sibling.all]
        · rw [Tail.depth]
          omega
        · rw [Tail.read, hread]
          rfl
      | cons p siblings =>
        have hfirst := hnot o List.mem_cons_self
        rw [← htokens] at hfirst
        exact absurd rfl hfirst

/-- **Siblings do not add up.** Operands that can be read one by one from a depth can be read together from there. -/
theorem expression_of_operands (hd : s.depth ≤ maxDepth) {first behind : List Token} {found : DocSet}
    {siblings : List Sibling} (hrest : s.rest = first ++ (siblings.flatMap Sibling.all ++ behind))
    (hs : Stops behind) (hfirst : IsOperand index s.depth first found)
    (h : ∀ o ∈ siblings, IsOperand index s.depth o.tokens o.found) (hplain : first.head? ≠ some .not)
    (hnot : ∀ o ∈ siblings.dropLast, o.tokens.head? ≠ some .not) :
    ∃ t, Call.expression.ReturnsAt index s (.ok (joinAll index found siblings)) t ∧ t.rest = behind ∧ s.Framed t := by
  rcases hfirst.cases hd with ⟨a, rfl, rfl, ha⟩ | ⟨n, rfl, -⟩
  · obtain ⟨t, ht, hdepth, hjoin⟩ := exists_tail hd h hnot
    have hread : Formula.readExpression s.depth s.rest = .ok ((Expr.plain a t).read Formula.reading, behind) := by
      rw [hrest, ← ht, ← List.append_assoc]
      exact Formula.read_expr (.plain a t) (by rw [Expr.depth]; omega) hs
    have hends : ExprEnds index s := (Walk.ends index s hd).2.2.2
    rw [ExprEnds, hread] at hends
    obtain ⟨u, hwalk, hframed, hbehind⟩ := hends.of_ok
    rw [index.eval_read, Expr.read, hjoin] at hwalk
    exact ⟨u, hwalk, hbehind, hframed⟩
  · exact absurd rfl hplain

/-! ## The frame law -/

/-- **The frame law of the parser.** For every index, tokens, position and depth up to the bound, a call of `expression`
or `term` ends and agrees with the parser of formulas. Whether it fails or not, the counter is back where it was and has
not been above the bound, and the position has not gone back. If there is a result, tokens have been used, and the call
depends on these and the next one only: a call in front of the same tokens returns the same result and uses as many of
them from every depth that is not greater, and from a greater one it does so too or opens too many levels. So any number
of operands can be read together from a depth from which they can be read one by one. -/
theorem frame_law (index : Index) (call : Call) (s : Cursor) (hd : s.depth ≤ maxDepth) :
    (∃ result t, call.ReturnsAt index s result t ∧
      (call.parse s.depth s.rest).map (fun p => (p.formula.eval index, p.rest)) =
        result.map (fun found => (found, t.rest)) ∧
      s.Framed t ∧
      ∀ found, result = .ok found →
        s.position < t.position ∧ t.position ≤ s.tokens.length ∧
        ∀ other : Cursor, other.depth ≤ maxDepth →
          (∀ i ≤ t.position - s.position, other.tokens[other.position + i]? = s.tokens[s.position + i]?) →
          (∃ u, call.ReturnsAt index other (.ok found) u ∧
            u.position = other.position + (t.position - s.position)) ∨
          s.depth < other.depth ∧ ∃ u, call.ReturnsAt index other (.error (.tooDeep maxDepth)) u) ∧
    ∀ (first behind : List Token) (found : DocSet) (siblings : List Sibling),
      s.rest = first ++ (siblings.flatMap Sibling.all ++ behind) → Stops behind →
      IsOperand index s.depth first found → (∀ o ∈ siblings, IsOperand index s.depth o.tokens o.found) →
      first.head? ≠ some .not → (∀ o ∈ siblings.dropLast, o.tokens.head? ≠ some .not) →
      ∃ t, Call.expression.ReturnsAt index s (.ok (joinAll index found siblings)) t ∧ t.rest = behind ∧ s.Framed t := by
  refine ⟨?_, fun first behind found siblings hrest hs hfirst h hplain hnot =>
    expression_of_operands hd hrest hs hfirst h hplain hnot⟩
  have hends := call.ends index s hd
  cases hread : call.read s.depth s.rest with
  | error e =>
    rw [hread] at hends
    obtain ⟨t, hwalk, hframed⟩ := hends.of_error
    refine ⟨.error e, t, hwalk, ?_, hframed, fun found hfound => by cases hfound⟩
    rw [Call.parse_map, hread]
    rfl
  | ok r =>
    rw [hread] at hends
    obtain ⟨t, hwalk, hframed, hrest⟩ := hends.of_ok
    obtain ⟨f, rest⟩ := r
    subst hrest
    refine ⟨.ok (f.eval index), t, hwalk, ?_, hframed, fun found hfound => ?_⟩
    · rw [Call.parse_map, hread]
      rfl
    · cases hfound
      obtain ⟨hlt, hle, -⟩ := positions_of_rest hframed (Call.shorter hread)
      exact ⟨hlt, hle, fun other hother hagree => Call.again hd hread hframed hother hagree⟩

/-- An index without documents. -/
def exampleIndex : Index := {}

/-- A cursor before `( a OR NOT b )`, which opens two levels. -/
def exampleCursor (depth : Nat) : Cursor :=
  { tokens := [.right, .left, .word "a", .or, .not, .word "b", .right, .and], position := 1, depth }

/-- The same tokens with others around them. -/
def exampleElsewhere : Cursor := { tokens := [.left, .word "a", .or, .not, .word "b", .right, .and, .word "c"] }

def exampleGroup : List Token := [.left, .word "a", .right]

/-- Operands that open a level each, the last of them as a negation. -/
def exampleSiblings : List Sibling :=
  [⟨.or, exampleGroup, exampleIndex.lookup "a"⟩,
   ⟨.and, [.not, .word "b"], exampleIndex.vocabulary.docs \ exampleIndex.lookup "b"⟩]

def exampleOperands : Cursor :=
  { tokens := exampleGroup ++ (exampleSiblings.flatMap Sibling.all ++ [.right]), depth := 255 }

theorem frame_law_nested :
    (∃ found t u, Call.term.ReturnsAt exampleIndex (exampleCursor 254) (.ok found) t ∧ t.position = 7 ∧ t.depth = 254 ∧
      t.peak ≤ 256 ∧ Call.term.ReturnsAt exampleIndex exampleElsewhere (.ok found) u ∧ u.position = 6) ∧
    (∃ t, Call.term.ReturnsAt exampleIndex (exampleCursor 255) (.error (.tooDeep 256)) t ∧ t.depth = 255 ∧
      t.peak ≤ 256) ∧
    ∃ found t, Call.expression.ReturnsAt exampleIndex exampleOperands (.ok found) t ∧ t.rest = [.right] ∧
      t.depth = 255 := by
  refine ⟨?_, ?_, ?_⟩
  · obtain ⟨⟨result, t, hwalk, hread, hframed, hok⟩, -⟩ := frame_law exampleIndex .term (exampleCursor 254) (by decide)
    have hparse : Call.term.read 254 (exampleCursor 254).rest = .ok (.or (.word "a") (.not (.word "b")), [.and]) := by
      cbv
    rw [Call.parse_map, show (exampleCursor 254).depth = 254 from rfl, hparse] at hread
    cases result with
    | error e => cases hread
    | ok found =>
      have hrest : [Token.and] = t.rest := congrArg Prod.snd (Except.ok.inj hread)
      have hposition : t.position = 7 := by
        have hlength := t.length_rest
        rw [← hrest, hframed.tokens_eq] at hlength
        simp only [exampleCursor, List.length_cons, List.length_nil] at hlength
        omega
      obtain ⟨-, -, hagain⟩ := hok found rfl
      rw [hposition] at hagain
      rcases hagain exampleElsewhere (by decide) (by decide) with ⟨u, hwalk', hposition'⟩ | ⟨hdepth, -⟩
      · exact ⟨found, t, u, hwalk, hposition, hframed.depth_eq, hframed.peak_le, hwalk', hposition'⟩
      · exact absurd hdepth (by decide)
  · obtain ⟨⟨result, t, hwalk, hread, hframed, -⟩, -⟩ := frame_law exampleIndex .term (exampleCursor 255) (by decide)
    have hparse : Call.term.read 255 (exampleCursor 255).rest = .error (.tooDeep 256) := by cbv
    rw [Call.parse_map, show (exampleCursor 255).depth = 255 from rfl, hparse] at hread
    cases result with
    | error e =>
      obtain rfl : QueryError.tooDeep 256 = e := Except.error.inj hread
      exact ⟨t, hwalk, hframed.depth_eq, hframed.peak_le⟩
    | ok found => cases hread
  · obtain ⟨-, hsiblings⟩ := frame_law exampleIndex .expression exampleOperands (by decide)
    have ha : IsOperand exampleIndex 255 exampleGroup (exampleIndex.lookup "a") :=
      (isOperand_iff (by decide)).2 ⟨.word "a", by cbv, rfl⟩
    have hb : IsOperand exampleIndex 255 [.not, .word "b"]
        (exampleIndex.vocabulary.docs \ exampleIndex.lookup "b") :=
      (isOperand_iff (by decide)).2 ⟨.not (.word "b"), by cbv, rfl⟩
    obtain ⟨t, hwalk, hrest, hframed⟩ := hsiblings exampleGroup [.right] (exampleIndex.lookup "a") exampleSiblings rfl
      (Stops.right []) ha (by simpa [exampleSiblings] using ⟨ha, hb⟩) (by decide)
      (by simp [exampleSiblings, exampleGroup])
    exact ⟨_, t, hwalk, hrest, hframed.depth_eq⟩

end Walk

end Retrieval.Query
