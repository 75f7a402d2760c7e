import Retrieval.Text.Blank
import Retrieval.Text.Quoted

/-!
# Tokens of a query

Words are separated by blanks, a parenthesis is a token of its own wherever it stands, and `AND`, `OR` and
`NOT` are operators in this spelling only.

* `Token.ofWord` : the token of a word;
* `Token.lex` : the tokens of a query;
* `Token.render` : a token as messages show it.
-/

namespace Retrieval.Query

open Text

inductive Token where
  | word (text : String)
  | and
  | or
  | not
  | left
  | right
deriving Repr, DecidableEq

namespace Token

/-- An operator if the word spells one, else a search word. -/
def ofWord (text : String) : Token :=
  if text = "AND" then .and else if text = "OR" then .or else if text = "NOT" then .not else .word text

def joins : Token → Bool
  | .and | .or => true
  | _ => false

/-- The token as messages show it: words between quotes, the others as they are written. -/
def render : Token → String
  | .word text => quote text
  | .and => "AND"
  | .or => "OR"
  | .not => "NOT"
  | .left => "("
  | .right => ")"

/-- The token of the open word, given last character first; an empty run is no token. -/
def close : List Char → List Token
  | [] => []
  | run => [ofWord (.ofList run.reverse)]

/-- The tokens of the rest of a query, `run` being the open word, last character first. -/
def lexFrom (run : List Char) : List Char → List Token
  | [] => close run
  | c :: rest =>
    if isBlank c then close run ++ lexFrom [] rest
    else if c = '(' then close run ++ .left :: lexFrom [] rest
    else if c = ')' then close run ++ .right :: lexFrom [] rest
    else lexFrom (c :: run) rest

def lex (query : String) : List Token := lexFrom [] query.toList

end Token

end Retrieval.Query
