import Retrieval.Proofs.Each
import Retrieval.Proofs.Query.Grammar
import Retrieval.Query.Formula

/-!
# The parser without its bounds

The parser returns what is left over together with the fact that it is shorter. Here its functions are seen through
the formula and the rest alone, and each has one equation for each kind of token it may meet:

* `readExpression`, `readNegated`, `readTerm`, `readChain` : the functions seen so;
* `readChain_stop`, `readChain_join` : a chain ends at the first token that is no operator;
* `ofTokens_eq` : a whole query;
* `readTerm_shorter` : a term leaves fewer tokens than it was given.
-/

namespace Retrieval.Query

open Grammar

namespace Formula

abbrev Read := Except QueryError (Formula × List Token)

/-- What was read, without the bound on what is left. -/
def Parsed.view {tokens : List Token} (p : Parsed tokens) : Formula × List Token := (p.formula, p.rest)

def join : Join → Formula → Formula → Formula
  | .and => .and
  | .or => .or

/-! ## The functions -/

def readExpression (depth : Nat) (tokens : List Token) : Read := (expression depth tokens).map Parsed.view

def readNegated (depth : Nat) (rest : List Token) : Read := (negated depth rest).map Parsed.view

def readTerm (depth : Nat) (tokens : List Token) : Read := (term depth tokens).map Parsed.view

theorem length_lt_cons (token : Token) (tokens : List Token) : tokens.length < (token :: tokens).length :=
  Nat.lt_succ_self _

/-- Reads what follows a term that means `left`. -/
def readChain (depth : Nat) (left : Formula) (tokens : List Token) : Read :=
  (@chain depth left tokens (.left :: tokens) (length_lt_cons .left tokens)).map Parsed.view

def close : Formula × List Token → Read
  | (f, .right :: after) => .ok (f, after)
  | _ => .error .missingRightParen

def finish : Formula × List Token → Except QueryError Formula
  | (f, []) => .ok f
  | (_, .right :: _) => .error .unexpectedRightParen
  | (_, token :: _) => .error (.unexpectedToken token)

/-! ## Chains -/

theorem chain_stop {depth : Nat} {left : Formula} {tokens all : List Token} (hs : Stops tokens)
    (h : tokens.length < all.length) : chain depth left tokens h = .ok ⟨left, tokens, h⟩ := by
  rw [chain]
  · rintro rest _ rfl
    exact absurd rfl (hs .and rest)
  · rintro rest _ rfl
    exact absurd rfl (hs .or rest)

theorem chain_join {depth : Nat} {left : Formula} {op : Join} {rest all : List Token}
    (h : (op.token :: rest).length < all.length) :
    chain depth left (op.token :: rest) h =
      if rest.isEmpty then .error (.danglingOperator op.token)
      else match term depth rest with
        | .error e => .error e
        | .ok p => chain depth (join op left p.formula) p.rest (Nat.lt_trans (Nat.lt_succ_of_lt p.shorter) h) := by
  cases op <;> exact chain.eq_def ..

theorem chain_view_congr {depth : Nat} {left : Formula} {tokens all all' : List Token}
    (h : tokens.length < all.length) (h' : tokens.length < all'.length) :
    (chain depth left tokens h).map Parsed.view = (chain depth left tokens h').map Parsed.view := by
  induction hn : tokens.length using Nat.strong_induction_on generalizing left tokens with
  | _ n ih =>
    obtain hs | ⟨op, rest, rfl⟩ := stops_or_join tokens
    · rw [chain_stop hs, chain_stop hs]
      rfl
    · rw [chain_join, chain_join]
      split
      · rfl
      · split
        · rfl
        · next p _ =>
          have shorter := p.shorter
          rw [List.length_cons] at hn
          exact ih p.rest.length (by omega) _ _ rfl

theorem readChain_stop {depth : Nat} {left : Formula} {tokens : List Token} (hs : Stops tokens) :
    readChain depth left tokens = .ok (left, tokens) := by
  rw [readChain, chain_stop hs]
  rfl

theorem readChain_join {depth : Nat} {left : Formula} {op : Join} {rest : List Token} :
    readChain depth left (op.token :: rest) =
      if rest.isEmpty then .error (.danglingOperator op.token)
      else readTerm depth rest >>= fun r => readChain depth (join op left r.1) r.2 := by
  rw [readChain, chain_join, readTerm]
  split
  · rfl
  · cases term depth rest with
    | error e => rfl
    | ok p => exact chain_view_congr _ _

/-! ## Terms -/

theorem readTerm_nil {depth : Nat} : readTerm depth [] = .error .unexpectedEnd := by
  rw [readTerm, term]
  rfl

theorem readTerm_word {depth : Nat} {text : String} {rest : List Token} :
    readTerm depth (.word text :: rest) = .ok (.word text, rest) := by
  rw [readTerm, term]
  rfl

theorem readTerm_right {depth : Nat} {rest : List Token} :
    readTerm depth (.right :: rest) = .error .unexpectedRightParen := by
  rw [readTerm, term]
  rfl

theorem readTerm_join (depth : Nat) (op : Join) (rest : List Token) :
    readTerm depth (op.token :: rest) = .error (.unexpectedToken op.token) := by
  cases op <;> (rw [Join.token, readTerm, term]; rfl)

theorem readTerm_not {depth : Nat} {rest : List Token} :
    readTerm depth (.not :: rest) =
      if depth = maxDepth then .error (.tooDeep maxDepth) else readNegated (depth + 1) rest := by
  rw [readTerm, term, readNegated]
  split <;> rfl

theorem readTerm_left {depth : Nat} {rest : List Token} :
    readTerm depth (.left :: rest) =
      if depth = maxDepth then .error (.tooDeep maxDepth) else readExpression (depth + 1) rest >>= close := by
  rw [readTerm, term, readExpression]
  split
  · rfl
  · cases expression (depth + 1) rest with
    | error e => rfl
    | ok p =>
      obtain ⟨f, r, hr⟩ := p
      rcases r with _ | ⟨_ | _, r⟩ <;> rfl

/-! ## Expressions -/

theorem readNegated_eq {depth : Nat} {rest : List Token} :
    readNegated depth rest = readTerm depth rest >>= fun r => readChain depth (.not r.1) r.2 := by
  rw [readNegated, negated, readTerm]
  cases term depth rest with
  | error e => rfl
  | ok p => exact chain_view_congr _ _

theorem readExpression_not {depth : Nat} {rest : List Token} :
    readExpression depth (.not :: rest) = readNegated depth rest := by
  rw [readExpression, expression, readNegated]

theorem readExpression_plain {depth : Nat} {tokens : List Token} (h : ∀ rest, tokens ≠ .not :: rest) :
    readExpression depth tokens = readTerm depth tokens >>= fun r => readChain depth r.1 r.2 := by
  rw [readExpression, expression, readTerm]
  · cases term depth tokens with
    | error e => rfl
    | ok p => exact chain_view_congr _ _
  · exact h

theorem ofTokens_eq (tokens : List Token) :
    ofTokens tokens = if tokens.isEmpty then .error .emptyQuery else readExpression 0 tokens >>= finish := by
  rw [ofTokens, readExpression]
  split
  · rfl
  · cases expression 0 tokens with
    | error e => rfl
    | ok p =>
      obtain ⟨f, r, hr⟩ := p
      rcases r with _ | ⟨_ | _, r⟩ <;> rfl

/-! ## What is left over -/

theorem shorter_of_view {tokens rest : List Token} {r : Except QueryError (Parsed tokens)} {f : Formula}
    (h : r.map Parsed.view = .ok (f, rest)) : rest.length < tokens.length := by
  cases r with
  | error e => cases h
  | ok p =>
    cases h
    exact p.shorter

theorem readTerm_shorter {depth : Nat} {tokens rest : List Token} {f : Formula}
    (h : readTerm depth tokens = .ok (f, rest)) : rest.length < tokens.length := shorter_of_view h

end Formula

end Retrieval.Query
