import Mathlib.Data.Set.Subsingleton
import Retrieval.Query.Token

/-!
# The grammar of queries

    E ::= A (op A)* [op N] | N
    N ::= NOT A (op A)* [op N] | NOT N
    A ::= word | ( E )

with `AND` and `OR` for `op`. A `NOT` that begins an expression negates one term; one that stands where a term is
expected takes in the rest of the expression around it.

* `Atom`, `Tail`, `Negation`, `Expr` : derivations; a `Tail` is what may follow a term, `(op A)* [op N]`;
* `Expr.tokens` : the tokens that a derivation derives;
* `Expr.depth` : how many levels are open at once, a level for each `( E )` and for each `N` where a term is expected;
* `Reading`, `Expr.read` : what words and operators mean, and what a derivation means then;
* `Expr.read_related` : readings that agree on words and operators agree on derivations;
* `subsingleton_tokens` : a list of tokens has one derivation at most.
-/

namespace Retrieval.Query.Grammar

/-! ## Derivations -/

/-- The operators that join terms. -/
inductive Join where
  | and
  | or
deriving Repr, DecidableEq

def Join.token : Join → Token
  | .and => .and
  | .or => .or

mutual

/-- A word, or an expression in parentheses. -/
inductive Atom where
  | word (text : String)
  | group (inner : Expr)

/-- What may follow a term: operators with atoms, and in the end perhaps one with a negation. -/
inductive Tail where
  | done
  | atom (op : Join) (a : Atom) (rest : Tail)
  | negation (op : Join) (n : Negation)

/-- A `NOT` with the rest of its expression: it negates the atom behind it, or a whole negation. -/
inductive Negation where
  | first (a : Atom) (rest : Tail)
  | whole (n : Negation)

/-- An expression. -/
inductive Expr where
  | plain (a : Atom) (rest : Tail)
  | negated (n : Negation)

end

mutual

def Atom.tokens : Atom → List Token
  | .word text => [.word text]
  | .group inner => .left :: (inner.tokens ++ [.right])

def Tail.tokens : Tail → List Token
  | .done => []
  | .atom op a rest => op.token :: (a.tokens ++ rest.tokens)
  | .negation op n => op.token :: .not :: n.body

def Negation.body : Negation → List Token
  | .first a rest => a.tokens ++ rest.tokens
  | .whole n => .not :: n.body

def Expr.tokens : Expr → List Token
  | .plain a rest => a.tokens ++ rest.tokens
  | .negated n => .not :: n.body

end

mutual

def Atom.depth : Atom → Nat
  | .word _ => 0
  | .group inner => inner.depth + 1

def Tail.depth : Tail → Nat
  | .done => 0
  | .atom _ a rest => max a.depth rest.depth
  | .negation _ n => n.depth + 1

/-- How many levels are open at once inside a negation. -/
def Negation.depth : Negation → Nat
  | .first a rest => max a.depth rest.depth
  | .whole n => n.depth + 1

/-- How many levels an expression opens at once. A negation at its beginning is no level. -/
def Expr.depth : Expr → Nat
  | .plain a rest => max a.depth rest.depth
  | .negated n => n.depth

end

/-! ## Meaning -/

/-- What words, operators and `NOT` mean. -/
structure Reading (α : Type) where
  word : String → α
  join : Join → α → α → α
  not : α → α

section Meaning
variable {α : Type} (m : Reading α)

mutual

def Atom.read : Atom → α
  | .word text => m.word text
  | .group inner => inner.read

/-- The meaning of a tail behind something that means `left`: operators are folded to the left, and one before a
negation joins all of it. -/
def Tail.read (left : α) : Tail → α
  | .done => left
  | .atom op a rest => rest.read (m.join op left a.read)
  | .negation op n => m.join op left n.read

def Negation.read : Negation → α
  | .first a rest => rest.read (m.not a.read)
  | .whole n => m.not n.read

def Expr.read : Expr → α
  | .plain a rest => rest.read a.read
  | .negated n => n.read

end

end Meaning

/-! ## Readings that agree -/

/-- A relation that holds between the meanings of words and is kept by operators and by `NOT`. -/
structure Related {α β : Type} (m : Reading α) (k : Reading β) (R : α → β → Prop) : Prop where
  word : ∀ text, R (m.word text) (k.word text)
  join : ∀ op {a b c d}, R a b → R c d → R (m.join op a c) (k.join op b d)
  not : ∀ {a b}, R a b → R (m.not a) (k.not b)

section Related
variable {α β : Type} {m : Reading α} {k : Reading β} {R : α → β → Prop}

mutual

theorem Atom.read_related (h : Related m k R) : ∀ a : Atom, R (a.read m) (a.read k)
  | .word text => h.word text
  | .group inner => inner.read_related h

theorem Tail.read_related (h : Related m k R) {x : α} {y : β} (hxy : R x y) :
    ∀ t : Tail, R (t.read m x) (t.read k y)
  | .done => hxy
  | .atom op a rest => rest.read_related h (h.join op hxy (a.read_related h))
  | .negation op n => h.join op hxy (n.read_related h)

theorem Negation.read_related (h : Related m k R) : ∀ n : Negation, R (n.read m) (n.read k)
  | .first a rest => rest.read_related h (h.not (a.read_related h))
  | .whole n => h.not (n.read_related h)

/-- **Readings that agree on words and operators agree on derivations.** -/
theorem Expr.read_related (h : Related m k R) : ∀ e : Expr, R (e.read m) (e.read k)
  | .plain a rest => rest.read_related h (a.read_related h)
  | .negated n => n.read_related h

end

end Related

/-! ## One derivation at most -/

theorem Join.token_injective : Function.Injective Join.token := by
  intro a b h
  cases a <;> cases b <;> simp [Join.token] at h ⊢

/-- The list does not begin with an operator that joins terms. -/
def Stops (rest : List Token) : Prop := ∀ op : Join, ∀ tokens, rest ≠ op.token :: tokens

theorem stops_iff {tokens : List Token} : Stops tokens ↔ ∀ t ∈ tokens.head?, t.joins = false := by
  cases tokens with
  | nil => exact iff_of_true (fun _ _ h => by cases h) (fun _ h => by cases h)
  | cons t tokens =>
    have hnext : (∀ op : Join, t ≠ op.token) ↔ t.joins = false := by
      constructor
      · intro h
        cases t with
        | and => exact absurd rfl (h .and)
        | or => exact absurd rfl (h .or)
        | _ => rfl
      · rintro h op rfl
        cases op <;> cases h
    simp [Stops, ← hnext]

theorem Stops.nil : Stops [] := fun _ _ h => by cases h

theorem stops_or_join (tokens : List Token) : Stops tokens ∨ ∃ op rest, tokens = Join.token op :: rest := by
  by_cases h : ∃ op rest, tokens = Join.token op :: rest
  · exact Or.inr h
  · exact Or.inl fun op rest e => h ⟨op, rest, e⟩

theorem Stops.right (rest : List Token) : Stops (.right :: rest) := fun op _ h => by cases op <;> cases h

theorem Atom.tokens_ne_nil : ∀ a : Atom, a.tokens ≠ []
  | .word _ => List.cons_ne_nil _ _
  | .group _ => List.cons_ne_nil _ _

theorem Expr.tokens_ne_nil : ∀ e : Expr, e.tokens ≠ []
  | .plain a _ => List.append_ne_nil_of_left_ne_nil a.tokens_ne_nil _
  | .negated _ => List.cons_ne_nil _ _

theorem Atom.tokens_append_ne_not (a : Atom) (r s : List Token) : a.tokens ++ r ≠ .not :: s := by
  intro h
  cases a <;> simp [Atom.tokens] at h

mutual

theorem Atom.tokens_append_inj : ∀ {a b : Atom} {r s : List Token}, a.tokens ++ r = b.tokens ++ s → a = b ∧ r = s
  | .word x, .word y, r, s, h => by simpa [Atom.tokens] using h
  | .word x, .group f, r, s, h => by simp [Atom.tokens] at h
  | .group e, .word y, r, s, h => by simp [Atom.tokens] at h
  | .group e, .group f, r, s, h => by
    simp only [Atom.tokens, List.cons_append, List.append_assoc, List.cons.injEq, true_and, List.nil_append] at h
    obtain ⟨rfl, hrest⟩ := Expr.tokens_append_inj (Stops.right r) (Stops.right s) h
    exact ⟨rfl, List.tail_eq_of_cons_eq hrest⟩

theorem Tail.tokens_append_inj : ∀ {t u : Tail} {r s : List Token}, Stops r → Stops s →
    t.tokens ++ r = u.tokens ++ s → t = u ∧ r = s
  | .done, .done, r, s, _, _, h => ⟨rfl, h⟩
  | .done, .atom op b rest, r, s, hr, _, h => absurd h (hr op _)
  | .done, .negation op n, r, s, hr, _, h => absurd h (hr op _)
  | .atom op a rest, .done, r, s, _, hs, h => absurd h.symm (hs op _)
  | .negation op n, .done, r, s, _, hs, h => absurd h.symm (hs op _)
  | .atom op a rest, .negation op' n, r, s, _, _, h => by
    simp only [Tail.tokens, List.cons_append, List.append_assoc, List.cons.injEq] at h
    exact absurd h.2 (a.tokens_append_ne_not _ _)
  | .negation op n, .atom op' a rest, r, s, _, _, h => by
    simp only [Tail.tokens, List.cons_append, List.append_assoc, List.cons.injEq] at h
    exact absurd h.2.symm (a.tokens_append_ne_not _ _)
  | .atom op a rest, .atom op' b rest', r, s, hr, hs, h => by
    simp only [Tail.tokens, List.cons_append, List.append_assoc, List.cons.injEq] at h
    obtain rfl := Join.token_injective h.1
    obtain ⟨rfl, htail⟩ := Atom.tokens_append_inj h.2
    obtain ⟨rfl, hrest⟩ := Tail.tokens_append_inj hr hs htail
    exact ⟨rfl, hrest⟩
  | .negation op n, .negation op' n', r, s, hr, hs, h => by
    simp only [Tail.tokens, List.cons_append, List.cons.injEq, true_and] at h
    obtain rfl := Join.token_injective h.1
    obtain ⟨rfl, hrest⟩ := Negation.body_append_inj hr hs h.2
    exact ⟨rfl, hrest⟩

theorem Negation.body_append_inj : ∀ {n m : Negation} {r s : List Token}, Stops r → Stops s →
    n.body ++ r = m.body ++ s → n = m ∧ r = s
  | .first a rest, .whole m, r, s, _, _, h => by
    simp only [Negation.body, List.cons_append, List.append_assoc] at h
    exact absurd h (a.tokens_append_ne_not _ _)
  | .whole n, .first b rest, r, s, _, _, h => by
    simp only [Negation.body, List.cons_append, List.append_assoc] at h
    exact absurd h.symm (b.tokens_append_ne_not _ _)
  | .first a rest, .first b rest', r, s, hr, hs, h => by
    simp only [Negation.body, List.append_assoc] at h
    obtain ⟨rfl, htail⟩ := Atom.tokens_append_inj h
    obtain ⟨rfl, hrest⟩ := Tail.tokens_append_inj hr hs htail
    exact ⟨rfl, hrest⟩
  | .whole n, .whole m, r, s, hr, hs, h => by
    simp only [Negation.body, List.cons_append, List.cons.injEq, true_and] at h
    obtain ⟨rfl, hrest⟩ := Negation.body_append_inj hr hs h
    exact ⟨rfl, hrest⟩

theorem Expr.tokens_append_inj : ∀ {e f : Expr} {r s : List Token}, Stops r → Stops s →
    e.tokens ++ r = f.tokens ++ s → e = f ∧ r = s
  | .plain a rest, .negated n, r, s, _, _, h => by
    simp only [Expr.tokens, List.cons_append, List.append_assoc] at h
    exact absurd h (a.tokens_append_ne_not _ _)
  | .negated n, .plain a rest, r, s, _, _, h => by
    simp only [Expr.tokens, List.cons_append, List.append_assoc] at h
    exact absurd h.symm (a.tokens_append_ne_not _ _)
  | .plain a rest, .plain b rest', r, s, hr, hs, h => by
    simp only [Expr.tokens, List.append_assoc] at h
    obtain ⟨rfl, htail⟩ := Atom.tokens_append_inj h
    obtain ⟨rfl, hrest⟩ := Tail.tokens_append_inj hr hs htail
    exact ⟨rfl, hrest⟩
  | .negated n, .negated m, r, s, hr, hs, h => by
    simp only [Expr.tokens, List.cons_append, List.cons.injEq, true_and] at h
    obtain ⟨rfl, hrest⟩ := Negation.body_append_inj hr hs h
    exact ⟨rfl, hrest⟩

end

/-- **A list of tokens has one derivation at most.** -/
theorem subsingleton_tokens (tokens : List Token) : {e : Expr | e.tokens = tokens}.Subsingleton := by
  intro e he f hf
  refine (Expr.tokens_append_inj Stops.nil Stops.nil ?_).1
  rw [List.append_nil, List.append_nil, he, hf]

end Retrieval.Query.Grammar
