import Retrieval.Query.Token

/-!
# Formulas of a query

`AND` and `OR` bind alike and to the left. A `NOT` at the beginning of an expression negates the first term
only; anywhere else where a term is expected it opens an expression of its own, which reaches to the end of
the enclosing one.

* `Formula` : words joined and negated;
* `Formula.Parsed` : a formula and the tokens behind it, which are fewer than before;
* `Formula.expression`, `Formula.term`, `Formula.chain` : the parser, `depth` counting the open levels;
* `Formula.parse` : the formula of a whole query, or why it has none.
-/

namespace Retrieval.Query

inductive QueryError where
  | emptyQuery
  | unexpectedRightParen
  | missingRightParen
  | danglingOperator (operator : Token)
  | unexpectedToken (token : Token)
  | unexpectedEnd
  | tooDeep (limit : Nat)
deriving Repr, DecidableEq

def QueryError.message : QueryError → String
  | .emptyQuery => "empty query"
  | .unexpectedRightParen => "unexpected right parenthesis"
  | .missingRightParen => "expected right parenthesis"
  | .danglingOperator operator => "expected a term after operator " ++ operator.render
  | .unexpectedToken token => "unexpected token " ++ token.render
  | .unexpectedEnd => "unexpected end of query"
  | .tooDeep limit => "query nests deeper than " ++ toString limit ++ " levels"

def maxDepth : Nat := 256

/-- A boolean combination of search words. -/
inductive Formula where
  | word (text : String)
  | and (left right : Formula)
  | or (left right : Formula)
  | not (inner : Formula)
deriving Repr, DecidableEq

namespace Formula

/-- A formula read from the front of `tokens`, of which at least one is used. -/
structure Parsed (tokens : List Token) where
  formula : Formula
  rest : List Token
  shorter : rest.length < tokens.length

mutual

def expression (depth : Nat) (tokens : List Token) : Except QueryError (Parsed tokens) :=
  match tokens with
  | .not :: rest => negated depth rest
  | tokens =>
    match term depth tokens with
    | .error e => .error e
    | .ok p =>
      have shorter := p.shorter
      chain depth p.formula p.rest shorter
termination_by (tokens.length, 2)

/-- Reads an expression whose `NOT` has just been read. -/
def negated (depth : Nat) (rest : List Token) : Except QueryError (Parsed (.not :: rest)) :=
  match term depth rest with
  | .error e => .error e
  | .ok p =>
    have shorter := p.shorter
    chain depth (.not p.formula) p.rest (Nat.lt_succ_of_lt shorter)
termination_by (rest.length, 2)

def term (depth : Nat) (tokens : List Token) : Except QueryError (Parsed tokens) :=
  match tokens with
  | [] => .error .unexpectedEnd
  | .word text :: rest => .ok ⟨.word text, rest, Nat.lt_succ_self _⟩
  | .right :: _ => .error .unexpectedRightParen
  | .and :: _ => .error (.unexpectedToken .and)
  | .or :: _ => .error (.unexpectedToken .or)
  | .not :: rest =>
    if depth = maxDepth then .error (.tooDeep maxDepth) else negated (depth + 1) rest
  | .left :: rest =>
    if depth = maxDepth then .error (.tooDeep maxDepth)
    else
      match expression (depth + 1) rest with
      | .error e => .error e
      | .ok p =>
        match h : p.rest with
        | .right :: after => .ok ⟨p.formula, after, by have := p.shorter; simp_all; omega⟩
        | _ => .error .missingRightParen
termination_by (tokens.length, 1)

/-- Reads the operators and terms that follow the formula `left`. -/
def chain (depth : Nat) (left : Formula) (tokens : List Token) {all : List Token}
    (h : tokens.length < all.length) : Except QueryError (Parsed all) :=
  match tokens with
  | .and :: rest =>
    if rest.isEmpty then .error (.danglingOperator .and)
    else
      match term depth rest with
      | .error e => .error e
      | .ok p =>
        have shorter := p.shorter
        chain depth (.and left p.formula) p.rest (Nat.lt_trans (Nat.lt_succ_of_lt shorter) h)
  | .or :: rest =>
    if rest.isEmpty then .error (.danglingOperator .or)
    else
      match term depth rest with
      | .error e => .error e
      | .ok p =>
        have shorter := p.shorter
        chain depth (.or left p.formula) p.rest (Nat.lt_trans (Nat.lt_succ_of_lt shorter) h)
  | tokens => .ok ⟨left, tokens, h⟩
termination_by (tokens.length, 0)

end

/-- The formula of a list of tokens, all of which have to be used. -/
def ofTokens (tokens : List Token) : Except QueryError Formula :=
  if tokens.isEmpty then .error .emptyQuery
  else
    match expression 0 tokens with
    | .error e => .error e
    | .ok p =>
      match p.rest with
      | [] => .ok p.formula
      | .right :: _ => .error .unexpectedRightParen
      | token :: _ => .error (.unexpectedToken token)

def parse (query : String) : Except QueryError Formula := ofTokens (Token.lex query)

end Formula

end Retrieval.Query
