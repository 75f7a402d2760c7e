import Retrieval.Proofs.Query.Acceptance
import Retrieval.Query.Evaluation

/-!
# Why a query fails

A query fails at the first token that cannot stand where it does. One pass over the tokens finds it, with the levels
that are open on a stack and no recursion.

* `Pass.State`, `Pass.step`, `Pass.ending` : the open levels and what has just been read, what a token makes of them,
  and whether the query may end there;
* `Pass.verdict`, `Pass.check` : the first fault behind a state, and of a whole query;
* `Pass.verdict_of_stops_not`, `Pass.verdict_of_stops_paren` : where a level ends, it may be left;
* `Pass.simulated` : every function of the parser goes the way of the pass, a stack standing for each depth;
* `Index.evaluate_fails_at_first_fault` : evaluation fails just if the pass does, and for the same reason.
-/

namespace Retrieval.Query

open Grammar

namespace Pass

/-! ## The pass -/

/-- What opens a level: a parenthesis, or a `NOT` where an expression does not begin. -/
inductive Level where
  | paren
  | not
deriving Repr, DecidableEq

/-- Where a pass is. A term is expected everywhere but behind a complete term. -/
inductive Place where
  | start
  | behindNot
  | behind (op : Join)
  | complete
deriving Repr, DecidableEq

/-- The open levels, the innermost first, and the place of a pass. -/
structure State where
  levels : List Level := []
  place : Place := .start
deriving Repr, DecidableEq

def open? (level : Level) (levels : List Level) (place : Place) : Except QueryError State :=
  if levels.length = maxDepth then .error (.tooDeep maxDepth) else .ok ⟨level :: levels, place⟩

/-- The levels around the innermost parenthesis, which is closed with every `NOT` inside of it. -/
def around? : List Level → Option (List Level)
  | [] => none
  | .not :: levels => around? levels
  | .paren :: levels => some levels

def expect (levels : List Level) (place : Place) : Token → Except QueryError State
  | .word _ => .ok ⟨levels, .complete⟩
  | .left => open? .paren levels .start
  | .not => if place = .start then .ok ⟨levels, .behindNot⟩ else open? .not levels .behindNot
  | .right => .error .unexpectedRightParen
  | .and => .error (.unexpectedToken .and)
  | .or => .error (.unexpectedToken .or)

/-- What a token makes of a state whose term is complete. -/
def proceed (levels : List Level) : Token → Except QueryError State
  | .and => .ok ⟨levels, .behind .and⟩
  | .or => .ok ⟨levels, .behind .or⟩
  | .right =>
    match around? levels with
    | some outer => .ok ⟨outer, .complete⟩
    | none => .error .unexpectedRightParen
  | token => .error (if .paren ∈ levels then .missingRightParen else .unexpectedToken token)

/-- The state behind a token, or why the token cannot stand there. -/
def step (s : State) (token : Token) : Except QueryError State :=
  if s.place = .complete then proceed s.levels token else expect s.levels s.place token

/-- Why a query cannot end in a state. -/
def ending (s : State) : Except QueryError Unit :=
  match s.place with
  | .start | .behindNot => .error .unexpectedEnd
  | .behind op => .error (.danglingOperator op.token)
  | .complete => if .paren ∈ s.levels then .error .missingRightParen else .ok ()

/-- The first fault of tokens behind a state. -/
def verdict (s : State) (tokens : List Token) : Except QueryError Unit := tokens.foldlM step s >>= ending

def check (tokens : List Token) : Except QueryError Unit :=
  if tokens.isEmpty then .error .emptyQuery else verdict {} tokens

theorem verdict_nil (s : State) : verdict s [] = ending s := rfl

theorem verdict_cons (s : State) (token : Token) (rest : List Token) :
    verdict s (token :: rest) = step s token >>= fun t => verdict t rest := by
  unfold verdict
  rw [List.foldlM_cons, bind_assoc]

theorem verdict_expect {place : Place} (h : place ≠ .complete) (levels : List Level) (token : Token)
    (rest : List Token) : verdict ⟨levels, place⟩ (token :: rest) =
      expect levels place token >>= fun t => verdict t rest := by
  rw [verdict_cons, step, if_neg h]

theorem verdict_proceed (levels : List Level) (token : Token) (rest : List Token) :
    verdict ⟨levels, .complete⟩ (token :: rest) = proceed levels token >>= fun t => verdict t rest := by
  rw [verdict_cons, step, if_pos rfl]

theorem verdict_join (levels : List Level) (op : Join) (rest : List Token) :
    verdict ⟨levels, .complete⟩ (op.token :: rest) = verdict ⟨levels, .behind op⟩ rest := by
  rw [verdict_proceed]
  cases op <;> rfl

theorem verdict_open (level : Level) (levels : List Level) (place : Place) (rest : List Token) :
    (open? level levels place >>= fun t => verdict t rest) =
      if levels.length = maxDepth then .error (.tooDeep maxDepth) else verdict ⟨level :: levels, place⟩ rest := by
  unfold open?
  split <;> rfl

/-! ## The end of a level -/

/-- What can follow a level is read alike inside of a `NOT` and outside, since only operators keep it open. -/
theorem verdict_of_stops_not {rest : List Token} (hs : Stops rest) (levels : List Level) :
    verdict ⟨.not :: levels, .complete⟩ rest = verdict ⟨levels, .complete⟩ rest := by
  have hparen : Level.paren ∈ Level.not :: levels ↔ Level.paren ∈ levels := by simp
  cases rest with
  | nil => simp only [verdict_nil, ending, hparen]
  | cons token rest =>
    rw [verdict_proceed, verdict_proceed]
    cases token with
    | and => exact absurd rfl (hs .and rest)
    | or => exact absurd rfl (hs .or rest)
    | right => rfl
    | word text => simp only [proceed, hparen]
    | not => simp only [proceed, hparen]
    | left => simp only [proceed, hparen]

/-- An expression in parentheses is followed by the parenthesis that closes it. -/
theorem verdict_of_stops_paren {rest : List Token} (hs : Stops rest) (levels : List Level) (f : Formula) :
    verdict ⟨.paren :: levels, .complete⟩ rest =
      Formula.close (f, rest) >>= fun r => verdict ⟨levels, .complete⟩ r.2 := by
  have hparen : Level.paren ∈ Level.paren :: levels := List.mem_cons_self
  cases rest with
  | nil =>
    rw [verdict_nil, ending, if_pos hparen]
    rfl
  | cons token rest =>
    rw [verdict_proceed]
    cases token with
    | and => exact absurd rfl (hs .and rest)
    | or => exact absurd rfl (hs .or rest)
    | right => rfl
    | word text =>
      simp only [proceed, if_pos hparen]
      rfl
    | not =>
      simp only [proceed, if_pos hparen]
      rfl
    | left =>
      simp only [proceed, if_pos hparen]
      rfl

/-- Nothing follows an expression that is in no parentheses. -/
theorem verdict_of_stops_top {rest : List Token} (hs : Stops rest) (f : Formula) :
    verdict ⟨[], .complete⟩ rest = (Formula.finish (f, rest)).map fun _ => () := by
  cases rest with
  | nil => rfl
  | cons token rest =>
    rw [verdict_proceed]
    cases token with
    | and => exact absurd rfl (hs .and rest)
    | or => exact absurd rfl (hs .or rest)
    | right => rfl
    | word text => rfl
    | not => rfl
    | left => rfl

/-! ## The parser goes the way of the pass -/

open Formula in
/-- What a function of the parser leaves is looked through as a pass does behind a complete term. -/
def after (levels : List Level) (r : Read) : Except QueryError Unit :=
  r >>= fun r => verdict ⟨levels, .complete⟩ r.2

/-- A term can be read in the place: at the beginning of an expression a `NOT` is none, and the end of a query has a
fault of its own behind an operator. -/
def Place.Expects (tokens : List Token) : Place → Prop
  | .start => ∀ rest, tokens ≠ .not :: rest
  | .behindNot => True
  | .behind _ => tokens ≠ []
  | .complete => False

theorem Place.Expects.ne_complete {tokens : List Token} {place : Place} (h : place.Expects tokens) :
    place ≠ .complete := by
  rintro rfl
  exact h

/-- A term is read as a pass goes through it, wherever one is expected. -/
def TermSimulated (levels : List Level) (tokens : List Token) : Prop :=
  ∀ place : Place, place.Expects tokens →
    verdict ⟨levels, place⟩ tokens = after levels (Formula.readTerm levels.length tokens)

/-- A chain is read as a pass goes on behind a complete term. -/
def ChainSimulated (levels : List Level) (tokens : List Token) : Prop :=
  ∀ left, verdict ⟨levels, .complete⟩ tokens = after levels (Formula.readChain levels.length left tokens)

def NegatedSimulated (levels : List Level) (tokens : List Token) : Prop :=
  verdict ⟨levels, .behindNot⟩ tokens = after levels (Formula.readNegated levels.length tokens)

def ExprSimulated (levels : List Level) (tokens : List Token) : Prop :=
  verdict ⟨levels, .start⟩ tokens = after levels (Formula.readExpression levels.length tokens)

theorem bind_congr_ok {ε α β : Type} {x : Except ε α} {f g : α → Except ε β} (h : ∀ a, x = .ok a → f a = g a) :
    x >>= f = x >>= g := by
  cases x with
  | error e => rfl
  | ok a => exact h a rfl

theorem after_error (levels : List Level) (e : QueryError) : after levels (.error e) = .error e := rfl

theorem after_ok (levels : List Level) (f : Formula) (rest : List Token) :
    after levels (.ok (f, rest)) = verdict ⟨levels, .complete⟩ rest := rfl

theorem after_sequence {levels : List Level} {tokens : List Token} (g : Formula → Formula)
    (hchain : ∀ r, r.length < tokens.length → ChainSimulated levels r) :
    after levels (Formula.readTerm levels.length tokens) =
      after levels (Formula.readTerm levels.length tokens >>= fun r =>
        Formula.readChain levels.length (g r.1) r.2) := by
  unfold after
  rw [bind_assoc]
  refine bind_congr_ok fun r hr => ?_
  exact hchain r.2 (Formula.readTerm_shorter hr) (g r.1)

theorem negated_simulated {levels : List Level} {tokens : List Token} (hterm : TermSimulated levels tokens)
    (hchain : ∀ r, r.length < tokens.length → ChainSimulated levels r) : NegatedSimulated levels tokens := by
  unfold NegatedSimulated
  rw [hterm .behindNot trivial, Formula.readNegated_eq]
  exact after_sequence .not hchain

theorem expr_simulated {levels : List Level} {tokens : List Token} (hterm : TermSimulated levels tokens)
    (hchain : ∀ r, r.length < tokens.length → ChainSimulated levels r)
    (hnegated : ∀ r, r.length < tokens.length → NegatedSimulated levels r) : ExprSimulated levels tokens := by
  unfold ExprSimulated
  by_cases hnot : ∃ r, tokens = .not :: r
  · obtain ⟨r, rfl⟩ := hnot
    rw [Formula.readExpression_not, ← hnegated r (Nat.lt_succ_self _), verdict_expect (by decide)]
    rfl
  · have hplain : ∀ r, tokens ≠ .not :: r := fun r hr => hnot ⟨r, hr⟩
    rw [hterm .start hplain, Formula.readExpression_plain hplain]
    exact after_sequence id hchain

theorem chain_simulated {levels : List Level} {tokens : List Token}
    (hterm : ∀ r, r.length < tokens.length → TermSimulated levels r)
    (hchain : ∀ r, r.length < tokens.length → ChainSimulated levels r) : ChainSimulated levels tokens := by
  intro left
  obtain hs | ⟨op, r, rfl⟩ := stops_or_join tokens
  · rw [Formula.readChain_stop hs, after_ok]
  · rw [verdict_join, Formula.readChain_join]
    have hr : r.length < (op.token :: r).length := Nat.lt_succ_self _
    split
    · next hempty =>
      rw [List.isEmpty_iff.1 hempty]
      rfl
    · next hrest =>
      have hne : r ≠ [] := fun h => hrest (List.isEmpty_iff.2 h)
      rw [hterm r hr (.behind op) hne]
      exact after_sequence (Formula.join op left) fun s hs => hchain s (hs.trans hr)

/-- A level more is a depth more. What is read inside of it ends where a level may end. -/
theorem term_simulated {levels : List Level} {tokens : List Token} (hd : levels.length ≤ maxDepth)
    (hexpr : ∀ r, r.length < tokens.length → levels.length + 1 ≤ maxDepth → ExprSimulated (.paren :: levels) r)
    (hnegated : ∀ r, r.length < tokens.length → levels.length + 1 ≤ maxDepth → NegatedSimulated (.not :: levels) r) :
    TermSimulated levels tokens := by
  intro place hplace
  have hne : place ≠ .complete := hplace.ne_complete
  match tokens with
  | [] =>
    rw [Formula.readTerm_nil, after_error]
    cases place with
    | start => rfl
    | behindNot => rfl
    | behind op => exact absurd rfl hplace
    | complete => exact absurd rfl hne
  | .word text :: r =>
    rw [Formula.readTerm_word, after_ok, verdict_expect hne]
    rfl
  | .right :: r =>
    rw [Formula.readTerm_right, verdict_expect hne]
    rfl
  | .and :: r =>
    rw [verdict_expect hne]
    exact (congrArg (after levels) (Formula.readTerm_join levels.length .and r)).symm
  | .or :: r =>
    rw [verdict_expect hne]
    exact (congrArg (after levels) (Formula.readTerm_join levels.length .or r)).symm
  | .not :: r =>
    have hstart : place ≠ .start := by
      rintro rfl
      exact hplace r rfl
    rw [verdict_expect hne, expect, if_neg hstart, verdict_open, Formula.readTerm_not]
    split
    · rfl
    · next hdepth =>
      have hd' : levels.length + 1 ≤ maxDepth := by omega
      rw [hnegated r (Nat.lt_succ_self _) hd']
      refine bind_congr_ok fun ⟨f, rest⟩ hread => ?_
      obtain ⟨-, -, -, -, hs⟩ := (Formula.derived r (levels.length + 1) hd').2.2.1 f rest hread
      exact verdict_of_stops_not hs levels
  | .left :: r =>
    rw [verdict_expect hne, expect, verdict_open, Formula.readTerm_left]
    split
    · rfl
    · next hdepth =>
      have hd' : levels.length + 1 ≤ maxDepth := by omega
      rw [hexpr r (Nat.lt_succ_self _) hd', after, after, bind_assoc]
      refine bind_congr_ok fun ⟨f, rest⟩ hread => ?_
      obtain ⟨-, -, -, -, hs⟩ := (Formula.derived r (levels.length + 1) hd').2.2.2 f rest hread
      exact verdict_of_stops_paren hs levels f

/-- All four at once, by the number of tokens, as in the proof that what is read is derived. -/
theorem simulated (tokens : List Token) : ∀ levels : List Level, levels.length ≤ maxDepth →
    TermSimulated levels tokens ∧ ChainSimulated levels tokens ∧ NegatedSimulated levels tokens ∧
      ExprSimulated levels tokens := by
  induction hn : tokens.length using Nat.strong_induction_on generalizing tokens with
  | _ n ih =>
    intro levels hd
    subst hn
    have hterm : TermSimulated levels tokens :=
      term_simulated hd (fun r hr h => (ih _ hr r rfl (.paren :: levels) h).2.2.2)
        fun r hr h => (ih _ hr r rfl (.not :: levels) h).2.2.1
    have hchain : ∀ r, r.length < tokens.length → ChainSimulated levels r := fun r hr => (ih _ hr r rfl _ hd).2.1
    have hnegated : ∀ r, r.length < tokens.length → NegatedSimulated levels r :=
      fun r hr => (ih _ hr r rfl _ hd).2.2.1
    exact ⟨hterm, chain_simulated (fun r hr => (ih _ hr r rfl _ hd).1) hchain, negated_simulated hterm hchain,
      expr_simulated hterm hchain hnegated⟩

/-- **The pass finds the fault that the parser finds.** -/
theorem check_eq_ofTokens (tokens : List Token) : check tokens = (Formula.ofTokens tokens).map fun _ => () := by
  rw [check, Formula.ofTokens_eq]
  split
  · rfl
  · have hexpr : verdict {} tokens = after [] (Formula.readExpression 0 tokens) :=
      (simulated tokens [] (Nat.zero_le _)).2.2.2
    rw [hexpr, after]
    cases hread : Formula.readExpression 0 tokens with
    | error e => rfl
    | ok r =>
      obtain ⟨-, -, -, -, hs⟩ := (Formula.derived tokens 0 (Nat.zero_le _)).2.2.2 r.1 r.2 hread
      exact verdict_of_stops_top hs r.1

-- `(a AND NOT b c)` : what is missing is the parenthesis around the negation.
example : check [.left, .word "a", .and, .not, .word "b", .word "c", .right] = .error .missingRightParen := rfl

end Pass

end Retrieval.Query

namespace Retrieval.Index

open Query

/-- **Evaluation fails at the first fault of the query.** The parser has no answer for a query just if one pass over
its tokens finds a fault, and then for the reason that the pass finds first. -/
theorem evaluate_fails_at_first_fault (index : Index) (query : String) (e : QueryError) :
    index.evaluate query = .error e ↔ Pass.check (Token.lex query) = .error e := by
  rw [Pass.check_eq_ofTokens, evaluate, Formula.parse]
  cases Formula.ofTokens (Token.lex query) with
  | error e' => simp [Except.map]
  | ok f => simp [Except.map]

end Retrieval.Index
