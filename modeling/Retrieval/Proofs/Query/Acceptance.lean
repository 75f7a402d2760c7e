import Retrieval.Proofs.Query.Parser

/-!
# What the parser accepts

The parser reads just what the grammar derives. Soundness is by the number of tokens, since a term leaves fewer behind;
completeness is by derivations. Both rest on one fact about what follows a term: a negation in the place of a term
takes in the whole chain, so that nothing is left for the chain around it.

* `Formula.reading` : a derivation as a formula;
* `derived` : what the functions of the parser return is derived, with as many levels as are left;
* `read_expr` : what is derived with as many levels as are left is read;
* `ofTokens_eq_ok_iff` : the formulas of a list of tokens.
-/

namespace Retrieval.Query

open Grammar

namespace Formula

/-- A derivation as a formula. -/
def reading : Reading Formula where
  word := .word
  join := join
  not := .not

/-! ## What is read is derived -/

/-- What a term reads is an atom, or a negation that takes in all of a chain. -/
def TermDerived (depth : Nat) (tokens : List Token) : Prop :=
  ∀ f rest, readTerm depth tokens = .ok (f, rest) →
    (∃ a : Atom, tokens = a.tokens ++ rest ∧ a.read reading = f ∧ depth + a.depth ≤ maxDepth) ∨
      ∃ n : Negation, tokens = .not :: n.body ++ rest ∧ n.read reading = f ∧ depth + 1 + n.depth ≤ maxDepth ∧
        Stops rest

def ChainDerived (depth : Nat) (tokens : List Token) : Prop :=
  ∀ left f rest, readChain depth left tokens = .ok (f, rest) →
    ∃ t : Tail, tokens = t.tokens ++ rest ∧ t.read reading left = f ∧ depth + t.depth ≤ maxDepth ∧ Stops rest

def NegatedDerived (depth : Nat) (tokens : List Token) : Prop :=
  ∀ f rest, readNegated depth tokens = .ok (f, rest) →
    ∃ n : Negation, tokens = n.body ++ rest ∧ n.read reading = f ∧ depth + n.depth ≤ maxDepth ∧ Stops rest

def ExprDerived (depth : Nat) (tokens : List Token) : Prop :=
  ∀ f rest, readExpression depth tokens = .ok (f, rest) →
    ∃ e : Expr, tokens = e.tokens ++ rest ∧ e.read reading = f ∧ depth + e.depth ≤ maxDepth ∧ Stops rest

/-- A term with a chain behind it. A negation leaves nothing for the chain. -/
theorem sequence_derived {depth : Nat} {tokens rest : List Token} {f : Formula} (g : Formula → Formula)
    (hterm : TermDerived depth tokens) (hchain : ∀ r, r.length < tokens.length → ChainDerived depth r)
    (h : readTerm depth tokens >>= (fun r => readChain depth (g r.1) r.2) = .ok (f, rest)) :
    (∃ (a : Atom) (t : Tail), tokens = a.tokens ++ (t.tokens ++ rest) ∧ t.read reading (g (a.read reading)) = f ∧
        depth + max a.depth t.depth ≤ maxDepth ∧ Stops rest) ∨
      ∃ n : Negation, tokens = .not :: n.body ++ rest ∧ g (n.read reading) = f ∧ depth + 1 + n.depth ≤ maxDepth ∧
        Stops rest := by
  obtain ⟨⟨left, r⟩, hread, hrest⟩ := bind_eq_ok_iff.1 h
  rcases hterm left r hread with ⟨a, rfl, rfl, ha⟩ | ⟨n, rfl, rfl, hn, hs⟩
  · obtain ⟨t, rfl, rfl, ht, hs⟩ := hchain r (readTerm_shorter hread) _ _ _ hrest
    exact Or.inl ⟨a, t, rfl, rfl, by omega, hs⟩
  · simp only [readChain_stop hs, Except.ok.injEq, Prod.mk.injEq] at hrest
    obtain ⟨rfl, rfl⟩ := hrest
    exact Or.inr ⟨n, rfl, rfl, hn, hs⟩

theorem negated_derived {depth : Nat} {tokens : List Token} (hterm : TermDerived depth tokens)
    (hchain : ∀ r, r.length < tokens.length → ChainDerived depth r) : NegatedDerived depth tokens := by
  intro f rest h
  rw [readNegated_eq] at h
  rcases sequence_derived .not hterm hchain h with ⟨a, t, rfl, rfl, hdepth, hs⟩ | ⟨n, rfl, rfl, hdepth, hs⟩
  · exact ⟨.first a t, by rw [Negation.body, List.append_assoc], rfl, hdepth, hs⟩
  · exact ⟨.whole n, rfl, rfl, by rw [Negation.depth]; omega, hs⟩

theorem expr_derived {depth : Nat} {tokens : List Token} (hterm : TermDerived depth tokens)
    (hchain : ∀ r, r.length < tokens.length → ChainDerived depth r)
    (hnegated : ∀ r, r.length < tokens.length → NegatedDerived depth r) : ExprDerived depth tokens := by
  intro f rest h
  by_cases hnot : ∃ r, tokens = .not :: r
  · obtain ⟨r, rfl⟩ := hnot
    rw [readExpression_not] at h
    obtain ⟨n, rfl, rfl, hdepth, hs⟩ := hnegated r (Nat.lt_succ_self _) f rest h
    exact ⟨.negated n, rfl, rfl, hdepth, hs⟩
  · rw [readExpression_plain fun r hr => hnot ⟨r, hr⟩] at h
    rcases sequence_derived id hterm hchain h with ⟨a, t, rfl, rfl, hdepth, hs⟩ | ⟨n, rfl, -⟩
    · exact ⟨.plain a t, by rw [Expr.tokens, List.append_assoc], rfl, hdepth, hs⟩
    · exact absurd ⟨_, rfl⟩ hnot

theorem chain_derived {depth : Nat} {tokens : List Token} (hd : depth ≤ maxDepth)
    (hterm : ∀ r, r.length < tokens.length → TermDerived depth r)
    (hchain : ∀ r, r.length < tokens.length → ChainDerived depth r) : ChainDerived depth tokens := by
  intro left f rest h
  obtain hs | ⟨op, r, rfl⟩ := stops_or_join tokens
  · simp only [readChain_stop hs, Except.ok.injEq, Prod.mk.injEq] at h
    obtain ⟨rfl, rfl⟩ := h
    exact ⟨.done, rfl, rfl, hd, hs⟩
  · rw [readChain_join] at h
    split at h
    · cases h
    · have hr : r.length < (op.token :: r).length := Nat.lt_succ_self _
      rcases sequence_derived (join op left) (hterm r hr) (fun s hs => hchain s (hs.trans hr)) h with
        ⟨a, t, rfl, rfl, hdepth, hs⟩ | ⟨n, rfl, rfl, hdepth, hs⟩
      · exact ⟨.atom op a t, by rw [Tail.tokens, List.cons_append, List.append_assoc], rfl, hdepth, hs⟩
      · exact ⟨.negation op n, rfl, rfl, by rw [Tail.depth]; omega, hs⟩

theorem term_derived {depth : Nat} {tokens : List Token} (hd : depth ≤ maxDepth)
    (hexpr : ∀ r, r.length < tokens.length → depth + 1 ≤ maxDepth → ExprDerived (depth + 1) r)
    (hnegated : ∀ r, r.length < tokens.length → depth + 1 ≤ maxDepth → NegatedDerived (depth + 1) r) :
    TermDerived depth tokens := by
  intro f rest h
  match tokens with
  | [] => rw [readTerm_nil] at h; cases h
  | .word text :: r =>
    rw [readTerm_word] at h
    cases h
    exact Or.inl ⟨.word text, rfl, rfl, hd⟩
  | .right :: r => rw [readTerm_right] at h; cases h
  | .and :: r => cases (readTerm_join depth .and r).symm.trans h
  | .or :: r => cases (readTerm_join depth .or r).symm.trans h
  | .not :: r =>
    rw [readTerm_not] at h
    split at h
    · cases h
    · obtain ⟨n, rfl, rfl, hdepth, hs⟩ := hnegated r (Nat.lt_succ_self _) (by omega) f rest h
      exact Or.inr ⟨n, rfl, rfl, hdepth, hs⟩
  | .left :: r =>
    rw [readTerm_left] at h
    split at h
    · cases h
    · obtain ⟨⟨g, s⟩, hread, hclose⟩ := bind_eq_ok_iff.1 h
      obtain ⟨e, rfl, rfl, hdepth, -⟩ := hexpr r (Nat.lt_succ_self _) (by omega) _ _ hread
      match s with
      | .right :: after =>
        cases hclose
        exact Or.inl ⟨.group e, by simp [Atom.tokens], rfl, by rw [Atom.depth]; omega⟩

/-- All four at once, by the number of tokens: a term reads fewer, and what opens no level begins with a term. -/
theorem derived (tokens : List Token) : ∀ depth ≤ maxDepth, TermDerived depth tokens ∧ ChainDerived depth tokens ∧
    NegatedDerived depth tokens ∧ ExprDerived depth tokens := by
  induction hn : tokens.length using Nat.strong_induction_on generalizing tokens with
  | _ n ih =>
    intro depth hd
    subst hn
    have hterm : TermDerived depth tokens :=
      term_derived hd (fun r hr h => (ih _ hr r rfl _ h).2.2.2) (fun r hr h => (ih _ hr r rfl _ h).2.2.1)
    have hchain : ∀ r, r.length < tokens.length → ChainDerived depth r := fun r hr => (ih _ hr r rfl _ hd).2.1
    have hnegated : ∀ r, r.length < tokens.length → NegatedDerived depth r := fun r hr => (ih _ hr r rfl _ hd).2.2.1
    exact ⟨hterm, chain_derived hd (fun r hr => (ih _ hr r rfl _ hd).1) hchain, negated_derived hterm hchain,
      expr_derived hterm hchain hnegated⟩

/-! ## What is derived is read -/

mutual

theorem read_atom : ∀ (a : Atom) {depth : Nat} {rest : List Token}, depth + a.depth ≤ maxDepth →
    readTerm depth (a.tokens ++ rest) = .ok (a.read reading, rest)
  | .word text, _, _, _ => readTerm_word
  | .group e, depth, rest, h => by
    rw [Atom.depth] at h
    rw [Atom.tokens, List.cons_append, readTerm_left, if_neg (by omega), List.append_assoc,
      List.singleton_append, read_expr e (by omega) (Stops.right _)]
    rfl

theorem read_tail : ∀ (t : Tail) {depth : Nat} {left : Formula} {rest : List Token}, depth + t.depth ≤ maxDepth →
    Stops rest → readChain depth left (t.tokens ++ rest) = .ok (t.read reading left, rest)
  | .done, _, _, _, _, hs => readChain_stop hs
  | .atom op a t, depth, left, rest, h, hs => by
    rw [Tail.depth] at h
    rw [Tail.tokens, List.cons_append, List.append_assoc, readChain_join, if_neg (by simp [a.tokens_ne_nil]),
      read_atom a (by omega)]
    exact read_tail t (by omega) hs
  | .negation op n, depth, left, rest, h, hs => by
    rw [Tail.depth] at h
    rw [Tail.tokens, List.cons_append, List.cons_append, readChain_join, if_neg (by simp), readTerm_not,
      if_neg (by omega), read_negation n (by omega) hs]
    exact readChain_stop hs

theorem read_negation : ∀ (n : Negation) {depth : Nat} {rest : List Token}, depth + n.depth ≤ maxDepth →
    Stops rest → readNegated depth (n.body ++ rest) = .ok (n.read reading, rest)
  | .first a t, depth, rest, h, hs => by
    rw [Negation.depth] at h
    rw [Negation.body, List.append_assoc, readNegated_eq, read_atom a (by omega)]
    exact read_tail t (by omega) hs
  | .whole n, depth, rest, h, hs => by
    rw [Negation.depth] at h
    rw [Negation.body, List.cons_append, readNegated_eq, readTerm_not, if_neg (by omega),
      read_negation n (by omega) hs]
    exact readChain_stop hs

theorem read_expr : ∀ (e : Expr) {depth : Nat} {rest : List Token}, depth + e.depth ≤ maxDepth → Stops rest →
    readExpression depth (e.tokens ++ rest) = .ok (e.read reading, rest)
  | .plain a t, depth, rest, h, hs => by
    rw [Expr.depth] at h
    rw [Expr.tokens, List.append_assoc, readExpression_plain (a.tokens_append_ne_not _), read_atom a (by omega)]
    exact read_tail t (by omega) hs
  | .negated n, depth, rest, h, hs => by
    rw [Expr.tokens, List.cons_append, readExpression_not]
    exact read_negation n h hs

end

theorem finish_eq_ok {f g : Formula} {rest : List Token} : finish (f, rest) = .ok g ↔ f = g ∧ rest = [] := by
  rcases rest with _ | ⟨_ | _, rest⟩ <;> simp [finish]

/-- **The parser accepts the grammar.** -/
theorem ofTokens_eq_ok_iff {tokens : List Token} {f : Formula} :
    ofTokens tokens = .ok f ↔ ∃ e : Expr, e.tokens = tokens ∧ e.depth ≤ maxDepth ∧ e.read reading = f := by
  rw [ofTokens_eq]
  constructor
  · intro h
    split at h
    · cases h
    · obtain ⟨⟨g, rest⟩, hread, hend⟩ := bind_eq_ok_iff.1 h
      obtain ⟨rfl, rfl⟩ := finish_eq_ok.1 hend
      obtain ⟨e, rfl, rfl, hdepth, -⟩ := (derived tokens 0 (Nat.zero_le _)).2.2.2 _ _ hread
      exact ⟨e, (List.append_nil _).symm, by omega, rfl⟩
  · rintro ⟨e, rfl, hdepth, rfl⟩
    have hread : readExpression 0 (e.tokens ++ []) = .ok (e.read reading, []) := read_expr e (by omega) Stops.nil
    rw [List.append_nil] at hread
    rw [if_neg (by simp [e.tokens_ne_nil]), hread]
    rfl

-- `a AND NOT b OR c` : the negation takes in the rest.
example : ofTokens [.word "a", .and, .not, .word "b", .or, .word "c"] =
    .ok (.and (.word "a") (.or (.not (.word "b")) (.word "c"))) := by cbv

end Formula
end Retrieval.Query
