import Retrieval.Proofs.Query.Evaluation

/-!
# Walks through the tokens of a query

The parser of formulas hands over the tokens that are left, and is told how many levels are open. A query is answered
just as well by a walk: a cursor goes through its tokens, a counter goes up where a level opens and down where it is
left, and documents take the place of formulas.

* `Cursor`, `Walk` : a place in the tokens with the counter, and what can be done there;
* `Cursor.Framed` : what every call keeps of the cursor, whether it fails or not;
* `Walk.expression`, `Walk.chain`, `Walk.term`, `Walk.nested` : the parser as a walk, which does not return where too
  many calls would be under way;
* `Walk.Returns` : a call returns if enough calls may be under way;
* `Walk.Ends` : a call returns, keeps the frame and agrees with the parser of formulas;
* `Walk.ends` : every call does;
* `Walk.answer_eq` : the walk through a query is its evaluation.
-/

namespace Retrieval.Query

open Grammar

/-! ## Cursors -/

/-- A place in the tokens of a query, which may be behind the last one, the number of levels that are open there, and
the largest number that has been open so far. -/
structure Cursor where
  tokens : List Token
  position : Nat := 0
  depth : Nat := 0
  peak : Nat := depth
deriving Repr, DecidableEq

namespace Cursor

/-- The tokens that are left. -/
def rest (s : Cursor) : List Token := s.tokens.drop s.position

def next? (s : Cursor) : Option Token := s.tokens[s.position]?

def advance (s : Cursor) : Cursor := { s with position := s.position + 1 }

def enter (s : Cursor) : Cursor := { s with depth := s.depth + 1, peak := max s.peak (s.depth + 1) }

def leave (s : Cursor) : Cursor := { s with depth := s.depth - 1 }

variable {s t u : Cursor} {token : Token} {tokens : List Token}

theorem next?_eq_head? (s : Cursor) : s.next? = s.rest.head? := List.head?_drop.symm

theorem rest_advance (h : s.rest = token :: tokens) : s.advance.rest = tokens := by
  show s.tokens.drop (s.position + 1) = tokens
  rw [← List.drop_drop, ← rest, h, List.drop_one, List.tail_cons]

theorem rest_enter (s : Cursor) : s.enter.rest = s.rest := rfl

theorem length_rest (s : Cursor) : s.rest.length = s.tokens.length - s.position := List.length_drop

theorem position_lt_of_rest (h : s.rest = token :: tokens) : s.position < s.tokens.length := by
  have hlength := congrArg List.length h
  rw [length_rest, List.length_cons] at hlength
  omega

/-! ## What a call keeps -/

/-- A call may begin at `s` and return at `t`: the tokens are the same, the counter is where it was and has not been
above the bound in between, and the position has not gone back, nor beyond the tokens. -/
structure Framed (s t : Cursor) : Prop where
  tokens_eq : t.tokens = s.tokens
  depth_eq : t.depth = s.depth
  le_peak : s.peak ≤ t.peak
  peak_le : t.peak ≤ max s.peak maxDepth
  le_position : s.position ≤ t.position
  position_le : t.position ≤ max s.position s.tokens.length

namespace Framed

theorem refl (s : Cursor) : Framed s s where
  tokens_eq := rfl
  depth_eq := rfl
  le_peak := Nat.le_refl _
  peak_le := Nat.le_max_left _ _
  le_position := Nat.le_refl _
  position_le := Nat.le_max_left _ _

theorem trans (h : Framed s t) (h' : Framed t u) : Framed s u := by
  have hle := h.position_le
  have hle' := h'.position_le
  have hpeak := h.peak_le
  have hpeak' := h'.peak_le
  rw [h.tokens_eq] at hle'
  exact {
    tokens_eq := h'.tokens_eq.trans h.tokens_eq
    depth_eq := h'.depth_eq.trans h.depth_eq
    le_peak := h.le_peak.trans h'.le_peak
    peak_le := by omega
    le_position := h.le_position.trans h'.le_position
    position_le := by omega }

theorem advance (h : s.rest = token :: tokens) : Framed s s.advance where
  tokens_eq := rfl
  depth_eq := rfl
  le_peak := Nat.le_refl _
  peak_le := Nat.le_max_left _ _
  le_position := Nat.le_succ _
  position_le := by
    have hlt := position_lt_of_rest h
    show s.position + 1 ≤ max s.position s.tokens.length
    omega

theorem leave (hd : s.depth < maxDepth) (h : Framed s.enter t) : Framed s t.leave where
  tokens_eq := h.tokens_eq
  depth_eq := by
    have hdepth : t.depth = s.depth + 1 := h.depth_eq
    show t.depth - 1 = s.depth
    omega
  le_peak := (Nat.le_max_left _ _).trans h.le_peak
  peak_le := by
    have hpeak : t.peak ≤ max (max s.peak (s.depth + 1)) maxDepth := h.peak_le
    show t.peak ≤ max s.peak maxDepth
    omega
  le_position := h.le_position
  position_le := h.position_le

end Framed

end Cursor

/-! ## Walks -/

/-- What is done at a cursor. It need not return, which is `none`; if it does there is a result or an error, with the
cursor that is left behind in either case. -/
abbrev Walk := ExceptT QueryError (StateT Cursor Option)

/-- The operator that a token is. -/
def joinOf? : Token → Option Join
  | .and => some .and
  | .or => some .or
  | _ => none

theorem joinOf?_eq_some_iff {token : Token} {op : Join} : joinOf? token = some op ↔ token = op.token := by
  cases token <;> cases op <;> simp [joinOf?, Join.token]

theorem joinOf?_eq_none {token : Token} (h : token.joins = false) : joinOf? token = none := by
  cases token with
  | and | or => cases h
  | _ => rfl

theorem bind_joinOf?_eq_none {tokens : List Token} (hs : Stops tokens) : tokens.head?.bind joinOf? = none :=
  Option.bind_eq_none_iff.2 fun t ht => joinOf?_eq_none (stops_iff.1 hs t ht)

namespace Walk

def peek : Walk (Option Token) := return (← get).next?

def take : Walk (Option Token) := do
  match (← get).next? with
  | none => return none
  | some token =>
    modify Cursor.advance
    return some token

def word (index : Index) : Walk DocSet := do
  match ← take with
  | some (.word text) => return index.lookup text
  | some token => throw (.unexpectedToken token)
  | none => throw .unexpectedEnd

def close (found : DocSet) : Walk DocSet := do
  match ← take with
  | some .right => return found
  | _ => throw .missingRightParen

def finish (found : DocSet) : Walk DocSet := do
  match ← take with
  | none => return found
  | some .right => throw .unexpectedRightParen
  | some token => throw (.unexpectedToken token)

/-- Does something one level deeper, and comes back whether it fails or not. -/
def nested (walk : Walk DocSet) : Walk DocSet := fun s =>
  if s.depth = maxDepth then some (.error (.tooDeep maxDepth), s)
  else do
    let (result, t) ← walk s.enter
    return (result, t.leave)

mutual

/-- Reads an expression, with at most `n` calls under way at a time. -/
def expression (index : Index) (n : Nat) : Walk DocSet :=
  match n with
  | 0 => fun _ => none
  | n + 1 => do
    if (← peek) = some .not then
      let _ ← take
      let found ← term index n
      chain index n (index.vocabulary.docs \ found)
    else
      let found ← term index n
      chain index n found

/-- Reads the operators and terms behind a term that means `found`. -/
def chain (index : Index) (n : Nat) (found : DocSet) : Walk DocSet :=
  match n with
  | 0 => fun _ => none
  | n + 1 => do
    match (← peek).bind joinOf? with
    | none => return found
    | some op =>
      let some operator ← take | throw .unexpectedEnd
      if (← peek) = none then throw (.danglingOperator operator)
      let other ← term index n
      chain index n (index.reading.join op found other)

def term (index : Index) (n : Nat) : Walk DocSet :=
  match n with
  | 0 => fun _ => none
  | n + 1 => do
    match ← peek with
    | none => throw .unexpectedEnd
    | some .not => nested (expression index n)
    | some .right => throw .unexpectedRightParen
    | some .left =>
      let _ ← take
      let found ← nested (expression index n)
      close found
    | some _ => word index

end

def answer (index : Index) (n : Nat) : Walk DocSet := do
  if (← peek) = none then throw .emptyQuery
  let found ← expression index n
  finish found

/-! ## Steps of a walk -/

section Steps
variable {α β : Type} {s t : Cursor} {token : Token} {tokens : List Token}

theorem bind_of_ok {x : Walk α} {a : α} (h : x s = some (.ok a, t)) (f : α → Walk β) : (x >>= f) s = f a t := by
  show (x s).bind _ = _
  rw [h]
  rfl

theorem bind_of_error {x : Walk α} {e : QueryError} (h : x s = some (.error e, t)) (f : α → Walk β) :
    (x >>= f) s = some (.error e, t) := by
  show (x s).bind _ = _
  rw [h]
  rfl

theorem peek_eq (s : Cursor) : peek s = some (.ok s.rest.head?, s) := by
  rw [← s.next?_eq_head?]
  rfl

theorem take_cons (h : s.rest = token :: tokens) : take s = some (.ok (some token), s.advance) := by
  have hnext : s.next? = some token := by rw [s.next?_eq_head?, h, List.head?_cons]
  rw [take, bind_of_ok (a := s) (t := s) rfl, hnext]
  rfl

theorem take_nil (h : s.rest = []) : take s = some (.ok none, s) := by
  have hnext : s.next? = none := by rw [s.next?_eq_head?, h, List.head?_nil]
  rw [take, bind_of_ok (a := s) (t := s) rfl, hnext]
  rfl

variable {index : Index} {n : Nat} {found : DocSet}

def negated (index : Index) (n : Nat) : Walk DocSet :=
  term index n >>= fun found => chain index n (index.vocabulary.docs \ found)

theorem expression_not (h : s.rest = .not :: tokens) : expression index (n + 1) s = negated index n s.advance := by
  rw [expression, bind_of_ok (peek_eq s), h, List.head?_cons, if_pos rfl, bind_of_ok (take_cons h)]
  rfl

theorem expression_plain (h : ∀ tokens, s.rest ≠ .not :: tokens) :
    expression index (n + 1) s = (term index n >>= chain index n) s := by
  have hne : s.rest.head? ≠ some .not := by
    intro hhead
    obtain ⟨tokens, htokens⟩ := List.head?_eq_some_iff.1 hhead
    exact h tokens htokens
  rw [expression, bind_of_ok (peek_eq s), if_neg hne]

theorem chain_stop (hs : Stops s.rest) : chain index (n + 1) found s = some (.ok found, s) := by
  rw [chain, bind_of_ok (peek_eq s), bind_joinOf?_eq_none hs]
  rfl

theorem chain_join {op : Join} (h : s.rest = op.token :: tokens) :
    chain index (n + 1) found s =
      if tokens.isEmpty then some (.error (.danglingOperator op.token), s.advance)
      else (term index n >>= fun other => chain index n (index.reading.join op found other)) s.advance := by
  rw [chain, bind_of_ok (peek_eq s), h, List.head?_cons, Option.bind_some, joinOf?_eq_some_iff.2 rfl]
  dsimp only
  rw [bind_of_ok (take_cons h)]
  dsimp only
  rw [bind_of_ok (peek_eq s.advance), Cursor.rest_advance h]
  cases tokens with
  | nil => exact bind_of_error rfl _
  | cons token tokens => rfl

theorem term_nil (h : s.rest = []) : term index (n + 1) s = some (.error .unexpectedEnd, s) := by
  rw [term, bind_of_ok (peek_eq s), h]
  rfl

theorem term_word {text : String} (h : s.rest = .word text :: tokens) :
    term index (n + 1) s = some (.ok (index.lookup text), s.advance) := by
  rw [term, bind_of_ok (peek_eq s), h]
  exact bind_of_ok (take_cons h) _

theorem term_right (h : s.rest = .right :: tokens) : term index (n + 1) s = some (.error .unexpectedRightParen, s) := by
  rw [term, bind_of_ok (peek_eq s), h]
  rfl

theorem term_join (op : Join) (h : s.rest = op.token :: tokens) :
    term index (n + 1) s = some (.error (.unexpectedToken op.token), s.advance) := by
  rw [term, bind_of_ok (peek_eq s), h]
  cases op <;> exact bind_of_ok (take_cons h) _

theorem term_not (h : s.rest = .not :: tokens) : term index (n + 1) s = nested (expression index n) s := by
  rw [term, bind_of_ok (peek_eq s), h]
  rfl

theorem term_left (h : s.rest = .left :: tokens) :
    term index (n + 1) s = (nested (expression index n) >>= close) s.advance := by
  rw [term, bind_of_ok (peek_eq s), h]
  exact bind_of_ok (take_cons h) _

theorem close_right (h : s.rest = .right :: tokens) : close found s = some (.ok found, s.advance) := by
  rw [close, bind_of_ok (take_cons h)]
  rfl

theorem close_nil (h : s.rest = []) : close found s = some (.error .missingRightParen, s) := by
  rw [close, bind_of_ok (take_nil h)]
  rfl

theorem close_other (h : s.rest = token :: tokens) (hne : token ≠ .right) :
    close found s = some (.error .missingRightParen, s.advance) := by
  rw [close, bind_of_ok (take_cons h)]
  cases token with
  | right => exact absurd rfl hne
  | _ => rfl

variable {walk : Walk DocSet}

theorem nested_deep (hd : s.depth = maxDepth) : nested walk s = some (.error (.tooDeep maxDepth), s) := by
  rw [nested, if_pos hd]

theorem nested_enter {result : Except QueryError DocSet} (hd : s.depth ≠ maxDepth)
    (h : walk s.enter = some (result, t)) : nested walk s = some (result, t.leave) := by
  rw [nested, if_neg hd, h]
  rfl

end Steps

/-! ## Calls end -/

section Ends
variable {index : Index} {s t : Cursor} {read : Formula.Read} {e : QueryError} {f : Formula} {rest : List Token}
variable {result : Except QueryError DocSet} {call other : Nat → Option (Except QueryError DocSet × Cursor)}

/-- A call returns if enough calls may be under way, and then it does not matter how many more may be. -/
def Returns (call : Nat → Option (Except QueryError DocSet × Cursor)) (result : Except QueryError DocSet) (t : Cursor) :
    Prop :=
  ∃ n, ∀ m ≥ n, call m = some (result, t)

theorem Returns.unique {result' : Except QueryError DocSet} {t' : Cursor} (h : Returns call result t)
    (h' : Returns call result' t') : result = result' ∧ t = t' := by
  obtain ⟨n, hn⟩ := h
  obtain ⟨n', hn'⟩ := h'
  have heq := (hn (max n n') (Nat.le_max_left n n')).symm.trans (hn' (max n n') (Nat.le_max_right n n'))
  simpa using heq

theorem Returns.succ (h : Returns call result t) (heq : ∀ n, other (n + 1) = call n) : Returns other result t := by
  obtain ⟨n, hn⟩ := h
  refine ⟨n + 1, fun m hm => ?_⟩
  obtain ⟨m, rfl⟩ : ∃ m', m = m' + 1 := ⟨m - 1, by omega⟩
  rw [heq]
  exact hn m (by omega)

theorem Returns.bind {x : Nat → Walk DocSet} {k : Nat → DocSet → Walk DocSet} {found : DocSet} {u : Cursor}
    (h : Returns (fun n => x n s) (.ok found) t) (hnext : Returns (fun n => k n found t) result u) :
    Returns (fun n => (x n >>= k n) s) result u := by
  obtain ⟨n, hn⟩ := h
  obtain ⟨n', hn'⟩ := hnext
  refine ⟨max n n', fun m hm => ?_⟩
  exact (bind_of_ok (hn m (by omega)) _).trans (hn' m (by omega))

theorem Returns.bind_error {x : Nat → Walk DocSet} (h : Returns (fun n => x n s) (.error e) t)
    (k : Nat → DocSet → Walk DocSet) : Returns (fun n => (x n >>= k n) s) (.error e) t := by
  obtain ⟨n, hn⟩ := h
  exact ⟨n, fun m hm => bind_of_error (hn m hm) _⟩

/-- A call at `s` returns and keeps the frame. It fails as the parser of formulas does on the tokens that are left, or
it returns the documents of the formula that is read there, with the same tokens behind it. -/
def Ends (index : Index) (s : Cursor) (read : Formula.Read)
    (call : Nat → Option (Except QueryError DocSet × Cursor)) : Prop :=
  ∃ result t, Returns call result t ∧ s.Framed t ∧
    read.map (fun r => (r.1.eval index, r.2)) = result.map fun found => (found, t.rest)

theorem Ends.ok (hf : s.Framed t) (hrest : t.rest = rest) :
    Ends index s (.ok (f, rest)) (fun _ => some (.ok (f.eval index), t)) :=
  ⟨_, t, ⟨0, fun _ _ => rfl⟩, hf, by rw [← hrest]; rfl⟩

theorem Ends.error (e : QueryError) (hf : s.Framed t) : Ends index s (.error e) (fun _ => some (.error e, t)) :=
  ⟨_, t, ⟨0, fun _ _ => rfl⟩, hf, rfl⟩

theorem Ends.of_framed (hf : s.Framed t) (h : Ends index t read call) : Ends index s read call := by
  obtain ⟨result, u, hcall, hframed, hread⟩ := h
  exact ⟨result, u, hcall, hf.trans hframed, hread⟩

theorem Ends.succ (h : Ends index s read call) (heq : ∀ n, other (n + 1) = call n) : Ends index s read other := by
  obtain ⟨result, t, hcall, h⟩ := h
  exact ⟨result, t, hcall.succ heq, h⟩

theorem Ends.of_error (h : Ends index s (.error e) call) : ∃ t, Returns call (.error e) t ∧ s.Framed t := by
  obtain ⟨result, t, hcall, hframed, hread⟩ := h
  cases result with
  | error e' =>
    cases hread
    exact ⟨t, hcall, hframed⟩
  | ok found => cases hread

theorem Ends.of_ok (h : Ends index s (.ok (f, rest)) call) :
    ∃ t, Returns call (.ok (f.eval index)) t ∧ s.Framed t ∧ t.rest = rest := by
  obtain ⟨result, t, hcall, hframed, hread⟩ := h
  cases result with
  | error e => cases hread
  | ok found =>
    simp only [Except.map, Except.ok.injEq, Prod.mk.injEq] at hread
    obtain ⟨rfl, rfl⟩ := hread
    exact ⟨t, hcall, hframed, rfl⟩

theorem Ends.bind {x : Nat → Walk DocSet} {k : Nat → DocSet → Walk DocSet} {next : Formula × List Token → Formula.Read}
    (h : Ends index s read fun n => x n s)
    (hnext : ∀ f t, read = .ok (f, t.rest) → s.Framed t →
      Ends index t (next (f, t.rest)) fun n => k n (f.eval index) t) :
    Ends index s (read >>= next) fun n => (x n >>= k n) s := by
  cases read with
  | error e =>
    obtain ⟨t, hx, hframed⟩ := h.of_error
    exact ⟨.error e, t, hx.bind_error k, hframed, rfl⟩
  | ok r =>
    obtain ⟨t, hx, hframed, hrest⟩ := h.of_ok
    obtain ⟨f, rest⟩ := r
    subst hrest
    obtain ⟨result, u, hk, hframed', hread⟩ := hnext f t rfl hframed
    exact ⟨result, u, hx.bind hk, hframed.trans hframed', hread⟩

theorem Ends.nested {x : Nat → Walk DocSet} (hd : s.depth < maxDepth)
    (h : Ends index s.enter read fun n => x n s.enter) : Ends index s read fun n => Walk.nested (x n) s := by
  obtain ⟨result, t, ⟨n, hx⟩, hframed, hread⟩ := h
  exact ⟨result, t.leave, ⟨n, fun m hm => nested_enter (by omega) (hx m hm)⟩, hframed.leave hd, hread⟩

theorem ends_close (f : Formula) (s : Cursor) :
    Ends index s (Formula.close (f, s.rest)) fun _ => close (f.eval index) s := by
  cases hrest : s.rest with
  | nil =>
    rw [close_nil hrest]
    exact .error _ (.refl s)
  | cons token tokens =>
    by_cases hright : token = .right
    · subst hright
      rw [close_right hrest]
      exact .ok (.advance hrest) (Cursor.rest_advance hrest)
    · have hclose : Formula.close (f, token :: tokens) = .error .missingRightParen := by
        cases token with
        | right => exact absurd rfl hright
        | _ => rfl
      rw [close_other hrest hright, hclose]
      exact .error _ (.advance hrest)

end Ends

/-! ## Every call ends -/

section Calls
variable {index : Index} {s : Cursor}

/-- A term is read as the parser of formulas does. -/
def TermEnds (index : Index) (s : Cursor) : Prop :=
  Ends index s (Formula.readTerm s.depth s.rest) fun n => term index n s

def ChainEnds (index : Index) (s : Cursor) : Prop :=
  ∀ left : Formula, Ends index s (Formula.readChain s.depth left s.rest) fun n => chain index n (left.eval index) s

def NegatedEnds (index : Index) (s : Cursor) : Prop :=
  Ends index s (Formula.readNegated s.depth s.rest) fun n => negated index n s

def ExprEnds (index : Index) (s : Cursor) : Prop :=
  Ends index s (Formula.readExpression s.depth s.rest) fun n => expression index n s

/-- What holds wherever fewer tokens are left than at `s`, whatever the depth is up to the bound. -/
def Ahead (s : Cursor) (P : Cursor → Prop) : Prop :=
  ∀ t : Cursor, t.rest.length < s.rest.length → t.depth ≤ maxDepth → P t

theorem Ahead.mono {t : Cursor} {P : Cursor → Prop} (h : Ahead s P) (hlt : t.rest.length < s.rest.length) : Ahead t P :=
  fun u hu => h u (hu.trans hlt)

theorem eval_join (index : Index) (op : Join) (f g : Formula) :
    (Formula.join op f g).eval index = index.reading.join op (f.eval index) (g.eval index) := by
  cases op <;> rfl

/-- A term with a chain behind it, which begins where the term ends and at the same depth. -/
theorem ends_sequence {g : Formula → Formula} {G : DocSet → DocSet} (hg : ∀ f, (g f).eval index = G (f.eval index))
    (hd : s.depth ≤ maxDepth) (hterm : TermEnds index s) (hchain : Ahead s (ChainEnds index)) :
    Ends index s (Formula.readTerm s.depth s.rest >>= fun r => Formula.readChain s.depth (g r.1) r.2)
      fun n => (term index n >>= fun found => chain index n (G found)) s := by
  refine Ends.bind hterm fun f t hread hframed => ?_
  have h := hchain t (Formula.readTerm_shorter hread) (hframed.depth_eq ▸ hd) (g f)
  rwa [hframed.depth_eq, hg] at h

theorem negated_ends (hd : s.depth ≤ maxDepth) (hterm : TermEnds index s) (hchain : Ahead s (ChainEnds index)) :
    NegatedEnds index s := by
  unfold NegatedEnds
  rw [Formula.readNegated_eq]
  exact ends_sequence (fun _ => rfl) hd hterm hchain

/-- A negation may begin with its `NOT`. -/
theorem ends_not {tokens : List Token} (hrest : s.rest = .not :: tokens) (h : NegatedEnds index s.advance) :
    ExprEnds index s := by
  unfold ExprEnds
  rw [hrest, Formula.readExpression_not]
  rw [NegatedEnds, Cursor.rest_advance hrest] at h
  exact (h.of_framed (.advance hrest)).succ fun _ => expression_not hrest

theorem expr_ends (hd : s.depth ≤ maxDepth) (hterm : TermEnds index s) (hchain : Ahead s (ChainEnds index))
    (hnegated : Ahead s (NegatedEnds index)) : ExprEnds index s := by
  by_cases hnot : ∃ tokens, s.rest = .not :: tokens
  · obtain ⟨tokens, hrest⟩ := hnot
    exact ends_not hrest (hnegated s.advance (by simp [Cursor.rest_advance hrest, hrest]) hd)
  · have hplain : ∀ tokens, s.rest ≠ .not :: tokens := fun tokens h => hnot ⟨tokens, h⟩
    unfold ExprEnds
    rw [Formula.readExpression_plain hplain]
    exact (ends_sequence (g := id) (G := id) (fun _ => rfl) hd hterm hchain).succ fun _ => expression_plain hplain

theorem chain_ends (hd : s.depth ≤ maxDepth) (hterm : Ahead s (TermEnds index)) (hchain : Ahead s (ChainEnds index)) :
    ChainEnds index s := by
  intro left
  obtain hs | ⟨op, tokens, hrest⟩ := stops_or_join s.rest
  · rw [Formula.readChain_stop hs]
    exact (Ends.ok (.refl s) rfl).succ fun _ => chain_stop hs
  · have hadvance : s.advance.rest = tokens := Cursor.rest_advance hrest
    rw [hrest, Formula.readChain_join]
    refine Ends.succ ?_ fun _ => chain_join hrest
    split
    · exact .error _ (.advance hrest)
    · have hlt : s.advance.rest.length < s.rest.length := by simp [hadvance, hrest]
      have h := ends_sequence (s := s.advance) (fun f => eval_join index op left f) hd (hterm _ hlt hd)
        (hchain.mono hlt)
      rw [hadvance] at h
      exact h.of_framed (.advance hrest)

theorem join_ends (op : Join) {tokens : List Token} (hrest : s.rest = op.token :: tokens) : TermEnds index s := by
  rw [TermEnds, hrest, Formula.readTerm_join]
  exact (Ends.error _ (.advance hrest)).succ fun _ => term_join op hrest

/-- A `NOT` is not taken before a level is entered, so that it is the deeper expression that takes it. -/
theorem term_ends (hd : s.depth ≤ maxDepth) (hexpr : Ahead s (ExprEnds index))
    (hnegated : Ahead s (NegatedEnds index)) : TermEnds index s := by
  match hrest : s.rest with
  | [] =>
    rw [TermEnds, hrest, Formula.readTerm_nil]
    exact (Ends.error _ (.refl s)).succ fun _ => term_nil hrest
  | .word text :: tokens =>
    rw [TermEnds, hrest, Formula.readTerm_word]
    exact (Ends.ok (f := .word text) (.advance hrest) (Cursor.rest_advance hrest)).succ fun _ => term_word hrest
  | .right :: tokens =>
    rw [TermEnds, hrest, Formula.readTerm_right]
    exact (Ends.error _ (.refl s)).succ fun _ => term_right hrest
  | .and :: tokens =>
    exact join_ends .and hrest
  | .or :: tokens =>
    exact join_ends .or hrest
  | .not :: tokens =>
    rw [TermEnds, hrest, Formula.readTerm_not]
    refine Ends.succ ?_ fun _ => term_not hrest
    split
    · next hdepth =>
      simp only [nested_deep hdepth]
      exact .error _ (.refl s)
    · next hdepth =>
      have hadvance : s.enter.advance.rest = tokens := Cursor.rest_advance hrest
      have h : ExprEnds index s.enter := ends_not (s := s.enter) hrest
        (hnegated s.enter.advance (by simp [hadvance, hrest]) (show s.depth + 1 ≤ maxDepth by omega))
      rw [ExprEnds, Cursor.rest_enter, hrest, Formula.readExpression_not] at h
      exact h.nested (by omega)
  | .left :: tokens =>
    rw [TermEnds, hrest, Formula.readTerm_left]
    refine Ends.succ ?_ fun _ => term_left hrest
    have hadvance : s.advance.rest = tokens := Cursor.rest_advance hrest
    split
    · next hdepth =>
      simp only [bind_of_error (nested_deep (s := s.advance) hdepth)]
      exact .error _ (.advance hrest)
    · next hdepth =>
      have h := hexpr s.advance.enter (by simp [Cursor.rest_enter, hadvance, hrest])
        (show s.depth + 1 ≤ maxDepth by omega)
      rw [ExprEnds, Cursor.rest_enter, hadvance] at h
      have hnested := Ends.nested (s := s.advance) (show s.depth < maxDepth by omega) h
      exact (hnested.bind fun f t _ _ => ends_close f t).of_framed (.advance hrest)

/-- All four at once, by the number of tokens that are left. -/
theorem ends (index : Index) (s : Cursor) (hd : s.depth ≤ maxDepth) :
    TermEnds index s ∧ ChainEnds index s ∧ NegatedEnds index s ∧ ExprEnds index s := by
  induction hn : s.rest.length using Nat.strong_induction_on generalizing s with
  | _ n ih =>
    subst hn
    have hchain : Ahead s (ChainEnds index) := fun t ht h => (ih _ ht t h rfl).2.1
    have hnegated : Ahead s (NegatedEnds index) := fun t ht h => (ih _ ht t h rfl).2.2.1
    have hterm : TermEnds index s := term_ends hd (fun t ht h => (ih _ ht t h rfl).2.2.2) hnegated
    exact ⟨hterm, chain_ends hd (fun t ht h => (ih _ ht t h rfl).1) hchain, negated_ends hd hterm hchain,
      expr_ends hd hterm hchain hnegated⟩

end Calls

/-! ## Whole queries -/

theorem finish_eq (index : Index) (f : Formula) (s : Cursor) :
    ∃ t, finish (f.eval index) s = some ((Formula.finish (f, s.rest)).map (·.eval index), t) := by
  cases hrest : s.rest with
  | nil =>
    refine ⟨s, ?_⟩
    rw [finish, bind_of_ok (take_nil hrest)]
    rfl
  | cons token tokens =>
    refine ⟨s.advance, ?_⟩
    rw [finish, bind_of_ok (take_cons hrest)]
    cases token <;> rfl

theorem answer_returns (index : Index) (s : Cursor) (hd : s.depth = 0) :
    ∃ t, Returns (fun n => answer index n s) ((Formula.ofTokens s.rest).map (·.eval index)) t := by
  have hstep (n : Nat) : answer index n s = if s.rest = [] then some (.error .emptyQuery, s)
      else (expression index n >>= finish) s := by
    rw [answer, bind_of_ok (peek_eq s)]
    cases s.rest with
    | nil => exact bind_of_error rfl _
    | cons token tokens => rfl
  simp only [hstep, Formula.ofTokens_eq, List.isEmpty_iff]
  split
  · exact ⟨s, 0, fun _ _ => rfl⟩
  · have hexpr : ExprEnds index s := (ends index s (by omega)).2.2.2
    rw [ExprEnds, hd] at hexpr
    cases hread : Formula.readExpression 0 s.rest with
    | error e =>
      rw [hread] at hexpr
      obtain ⟨t, hwalk, -⟩ := hexpr.of_error
      exact ⟨t, hwalk.bind_error fun _ => finish⟩
    | ok r =>
      rw [hread] at hexpr
      obtain ⟨t, hwalk, -, hrest⟩ := hexpr.of_ok
      obtain ⟨u, hfinish⟩ := finish_eq index r.1 t
      rw [hrest] at hfinish
      exact ⟨u, hwalk.bind ⟨0, fun _ _ => hfinish⟩⟩

/-- **The walk through a query is its evaluation.** -/
theorem answer_eq (index : Index) (query : String) :
    ∃ t, Returns (fun n => answer index n { tokens := Token.lex query }) (index.evaluate query) t :=
  answer_returns index { tokens := Token.lex query } rfl

end Walk

end Retrieval.Query
