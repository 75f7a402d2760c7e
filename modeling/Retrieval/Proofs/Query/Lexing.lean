import Retrieval.Proofs.Words
import Retrieval.Query.Token

/-!
# Ends of words

A parenthesis or a blank ends the word before it, so that what stands behind is cut into tokens on its own.

* `Token.EndsWord`, `Token.mark` : the characters that end a word, and the tokens that they are themselves;
* `Token.lexFrom_append` : what follows such a character is cut into tokens on its own;
* `Token.Apart`, `Token.lexFrom_append_apart` : the same for a text that begins with one, or is empty;
* `Token.lexFrom_of_run`, `Token.lexFrom_of_run_ne_nil` : a run without such characters is the open word, and one token if
  it is not empty;
* `Token.lex_eq_flatMap` : the tokens of a query are those of its words.
-/

namespace Retrieval.Query.Token

open Text

/-- Whether a word ends before a character. -/
def EndsWord (c : Char) : Prop := isBlank c ∨ c = '(' ∨ c = ')'

/-- The tokens of a character that ends a word: a parenthesis is one, a blank is none. -/
def mark (c : Char) : List Token := if c = '(' then [.left] else if c = ')' then [.right] else []

theorem mark_of_isBlank {c : Char} (hblank : isBlank c) : mark c = [] := by
  -- no parenthesis is a blank
  have hleft : c ≠ '(' := by
    rintro rfl
    cases hblank
  have hright : c ≠ ')' := by
    rintro rfl
    cases hblank
  rw [mark, if_neg hleft, if_neg hright]

theorem lexFrom_of_endsWord {c : Char} (hc : EndsWord c) (run rest : List Char) :
    lexFrom run (c :: rest) = close run ++ (mark c ++ lexFrom [] rest) := by
  rw [lexFrom]
  rcases hc with hblank | rfl | rfl
  · rw [if_pos hblank, mark_of_isBlank hblank, List.nil_append]
  · rfl
  · rfl

theorem lexFrom_of_not_endsWord {c : Char} (hc : ¬ EndsWord c) (run rest : List Char) :
    lexFrom run (c :: rest) = lexFrom (c :: run) rest := by
  obtain ⟨hblank, hleft, hright⟩ : ¬ isBlank c ∧ c ≠ '(' ∧ c ≠ ')' := by simpa [EndsWord] using hc
  rw [lexFrom, if_neg hblank, if_neg hleft, if_neg hright]

/-- **What stands behind the end of a word is cut into tokens on its own.** -/
theorem lexFrom_append {c : Char} (hc : EndsWord c) (run s rest : List Char) :
    lexFrom run (s ++ c :: rest) = lexFrom run s ++ (mark c ++ lexFrom [] rest) := by
  induction s generalizing run with
  | nil => exact lexFrom_of_endsWord hc run rest
  | cons d s ih =>
    rw [List.cons_append]
    by_cases hd : EndsWord d
    · rw [lexFrom_of_endsWord hd, lexFrom_of_endsWord hd, ih, List.append_assoc, List.append_assoc]
    · rw [lexFrom_of_not_endsWord hd, lexFrom_of_not_endsWord hd, ih]

/-- A text that is empty or begins with the end of a word. -/
def Apart (s : List Char) : Prop := ∀ c ∈ s.head?, EndsWord c

theorem lexFrom_append_apart {rest : List Char} (hrest : Apart rest) (run s : List Char) :
    lexFrom run (s ++ rest) = lexFrom run s ++ lexFrom [] rest := by
  cases rest with
  | nil =>
    have hnil : lexFrom [] [] = [] := rfl
    rw [hnil, List.append_nil, List.append_nil]
  | cons c rest =>
    have hc : EndsWord c := hrest c rfl
    rw [lexFrom_append hc, lexFrom_of_endsWord hc]
    rfl

theorem lexFrom_of_run {s : List Char} (hs : ∀ c ∈ s, ¬ EndsWord c) (run : List Char) :
    lexFrom run s = close (s.reverse ++ run) := by
  induction s generalizing run with
  | nil => rfl
  | cons c s ih =>
    obtain ⟨hc, hrest⟩ := List.forall_mem_cons.1 hs
    rw [lexFrom_of_not_endsWord hc, ih hrest, List.reverse_cons, List.append_assoc]
    rfl

theorem lexFrom_of_run_ne_nil {run : List Char} (hne : run ≠ []) (hrun : ∀ c ∈ run, ¬ EndsWord c) :
    lexFrom [] run = [ofWord (.ofList run)] := by
  rw [lexFrom_of_run hrun, List.append_nil]
  obtain ⟨c, rest, hreverse⟩ := List.exists_cons_of_ne_nil (List.reverse_ne_nil_iff.2 hne)
  rw [hreverse, close, ← hreverse, List.reverse_reverse]
  exact List.cons_ne_nil c rest

theorem lexFrom_blanks {gap : List Char} (hgap : ∀ c ∈ gap, isBlank c) (s : List Char) :
    lexFrom [] (gap ++ s) = lexFrom [] s := by
  induction gap with
  | nil => rfl
  | cons c gap ih =>
    obtain ⟨hc, hrest⟩ := List.forall_mem_cons.1 hgap
    rw [List.cons_append, lexFrom_of_endsWord (.inl hc), mark_of_isBlank hc, ih hrest]
    rfl

theorem lex_eq_flatMap (query : String) : lex query = (wordLists query.toList).flatMap (lexFrom []) := by
  refine eq_flatMap_wordLists (lexFrom []) rfl (fun x c y hblank => ?_) query.toList
  rw [lexFrom_append (.inl hblank), mark_of_isBlank hblank]
  rfl

end Retrieval.Query.Token
