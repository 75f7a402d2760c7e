import Retrieval.Proofs.Text.Normalization
import Retrieval.Text.Blank
import Retrieval.Text.Letter
import Retrieval.Text.Lowercase
import Retrieval.Text.Numeral

/-!
# Blanks in the tables

No blank is a letter, a numeral, a mark or cased, and none combines with anything. Its lower case is itself, and it
stands for itself or for the space. Each table is read once, for all blanks together.

* `blankRuns`, `freeOfBlanks` : the code points of blanks, and runs without one;
* `rowsWithoutBlanks`, `CodeSet.contains_of_isBlank` : sets without blanks, by their runs;
* `lowerChar_of_isBlank` : the lower case of a blank;
* `Compatibility.inert_of_isBlank`, `Compatibility.exists_expand_of_isBlank` : blanks in normal forms.
-/

namespace Retrieval.Text

/-! ## The code points of blanks -/

/-- Where blanks begin and end. -/
def blankRuns : List (Nat × Nat) :=
  [(0x09, 0x0E), (0x20, 0x21), (0x85, 0x86), (0xA0, 0xA1), (0x1680, 0x1681), (0x2000, 0x200B), (0x2028, 0x202A),
   (0x202F, 0x2030), (0x205F, 0x2060), (0x3000, 0x3001)]

/-- Whether a code point is in one of some ascending runs: the first run that ends behind it decides. -/
def isInRuns (n : Nat) : List (Nat × Nat) → Bool
  | [] => false
  | run :: runs => if n < run.2 then run.1 ≤ n else isInRuns n runs

def isBlankCode (n : Nat) : Bool := isInRuns n blankRuns

def freeOfBlanks (run : Nat × Nat) : Bool := blankRuns.all fun blanks => run.2 ≤ blanks.1 || blanks.2 ≤ run.1

variable {c : Char}

theorem isBlankCode_toNat (hc : isBlank c = true) : isBlankCode c.toNat = true := by
  simp only [isBlank, Bool.or_eq_true, Bool.and_eq_true, decide_eq_true_eq, beq_iff_eq] at hc
  simp only [isBlankCode, blankRuns, isInRuns]
  split_ifs <;> try rw [decide_eq_true_eq]
  all_goals omega

theorem exists_run_of_isInRuns {n : Nat} {runs : List (Nat × Nat)} (h : isInRuns n runs = true) :
    ∃ run ∈ runs, run.1 ≤ n ∧ n < run.2 := by
  induction runs with
  | nil => cases h
  | cons run runs ih =>
    rw [isInRuns] at h
    split at h
    · next hlt => exact ⟨run, List.mem_cons_self, of_decide_eq_true h, hlt⟩
    · obtain ⟨later, hmem, hinside⟩ := ih h
      exact ⟨later, List.mem_cons_of_mem _ hmem, hinside⟩

theorem not_in_run_of_isBlank {lo hi : Nat} (hfree : freeOfBlanks (lo, hi) = true) (hc : isBlank c = true) :
    ¬ (lo ≤ c.toNat ∧ c.toNat < hi) := by
  obtain ⟨run, hrun, hinside⟩ := exists_run_of_isInRuns (isBlankCode_toNat hc)
  have hapart := List.all_eq_true.1 hfree run hrun
  rw [Bool.or_eq_true, decide_eq_true_iff, decide_eq_true_iff] at hapart
  omega

/-! ## Sets without blanks -/

def rowsWithoutBlanks : List (List Nat) := [letterRows, numeralRows, casedRows, caseIgnorableRows]

/-- The tables are short enough to be searched, and no blank is in any of their runs. -/
theorem runs_freeOfBlanks : ∀ rows ∈ rowsWithoutBlanks,
    (cells rows).length < 4095 ∧ (CodeSet.runs (cells rows)).all freeOfBlanks = true := by
  decide +kernel

theorem CodeSet.contains_of_isBlank {rows : List Nat} (hrows : rows ∈ rowsWithoutBlanks) (hc : isBlank c = true) :
    (ofRows rows).contains c = false := by
  obtain ⟨hsize, hfree⟩ := runs_freeOfBlanks rows hrows
  refine eq_false_of_ne_true fun h => ?_
  obtain ⟨lo, hi, hmem, hinside⟩ := exists_run_of_contains hsize h
  exact not_in_run_of_isBlank (List.all_eq_true.1 hfree _ hmem) hc hinside

theorem isLetter_of_isBlank (hc : isBlank c = true) : isLetter c = false :=
  CodeSet.contains_of_isBlank (by simp [rowsWithoutBlanks]) hc

theorem isNumeral_of_isBlank (hc : isBlank c = true) : isNumeral c = false :=
  CodeSet.contains_of_isBlank (by simp [rowsWithoutBlanks]) hc

theorem cased_of_isBlank (hc : isBlank c = true) : cased.contains c = false :=
  CodeSet.contains_of_isBlank (by simp [rowsWithoutBlanks]) hc

theorem caseIgnorable_of_isBlank (hc : isBlank c = true) : caseIgnorable.contains c = false :=
  CodeSet.contains_of_isBlank (by simp [rowsWithoutBlanks]) hc

/-! ## Lower case -/

theorem lowerChar_of_isBlank (hc : isBlank c = true) : lowerChar c = [c] := by
  have hkeys : CodeMap.entriesAll (fun key _ => !isBlankCode key) (cells lowerRows) = true := by decide +kernel
  rw [lowerChar]
  cases hfind : lowerForms.find? c with
  | none => rfl
  | some image =>
    obtain ⟨rest, -, hkey⟩ := CodeMap.exists_of_find? hkeys hfind
    rw [isBlankCode_toNat hc] at hkey
    cases hkey

theorem ne_sigma_of_isBlank (hc : isBlank c = true) : c ≠ 'Σ' := by
  rintro rfl
  exact absurd hc (by decide)

/-! ## Compatibility -/

namespace Compatibility

theorem combiningClass_of_isBlank (hc : isBlank c = true) : combiningClass c = 0 := by
  have hfree : (triples (cells combiningRows)).all (fun run => freeOfBlanks (run.1, run.2.1 + 1)) = true := by
    decide +kernel
  by_contra hclass
  obtain ⟨lo, hi, k, hmem, hlo, hhi⟩ := exists_run_of_combiningClass (by decide +kernel) hclass
  exact not_in_run_of_isBlank (List.all_eq_true.1 hfree _ hmem) hc ⟨hlo, Nat.lt_succ_of_le hhi⟩

/-- The runs of the characters that syllables are composed from have no blank. -/
theorem composeSyllable?_of_isBlank {a b : Char} (h : isBlank a = true ∨ isBlank b = true) :
    composeSyllable? a b = none := by
  have hleading : freeOfBlanks (0x1100, 0x1113) = true := by decide
  have hvowel : freeOfBlanks (0x1161, 0x1176) = true := by decide
  have hopen : freeOfBlanks (0xAC00, 0xD7A4) = true := by decide
  have htrailing : freeOfBlanks (0x11A8, 0x11C3) = true := by decide
  unfold composeSyllable?
  simp only [Bool.and_eq_true, decide_eq_true_eq]
  rcases h with h | h
  · rw [if_neg fun hjamo => not_in_run_of_isBlank hleading h hjamo.1.1,
      if_neg fun hjamo => not_in_run_of_isBlank hopen h hjamo.1.1.1]
  · rw [if_neg fun hjamo => not_in_run_of_isBlank hvowel h ⟨hjamo.1.2, hjamo.2⟩,
      if_neg fun hjamo => not_in_run_of_isBlank htrailing h ⟨hjamo.1.2, hjamo.2⟩]

theorem compose?_of_isBlank {a b : Char} (h : isBlank a = true ∨ isBlank b = true) : compose? a b = none := by
  have hpairs : (triples (cells compositeRows)).all (fun t => !isBlankCode t.1 && !isBlankCode t.2.1) = true := by
    decide +kernel
  cases hcompose : compose? a b with
  | none => rfl
  | some c =>
    rcases mem_triples_of_compose? hcompose with hsyllable | ⟨n, hmem, -⟩
    · rw [composeSyllable?_of_isBlank h] at hsyllable
      cases hsyllable
    · have hpair := List.all_eq_true.1 hpairs _ hmem
      rcases h with h | h
      all_goals
        rw [isBlankCode_toNat h] at hpair
        simp at hpair

theorem inert_of_isBlank (hc : isBlank c = true) : Inert c where
  class_zero := combiningClass_of_isBlank hc
  not_second _ := compose?_of_isBlank (.inr hc)
  not_first _ := compose?_of_isBlank (.inl hc)

/-- Whether the space alone is the image at the front of a stream of cells, and another entry stands behind it. -/
def opensWithSpace : List Nat → Bool
  | space :: next :: _ => space == 0x20 && 0x800000 ≤ next
  | _ => false

theorem opensWithSpace_append {stream : List Nat} (h : opensWithSpace stream = true) (more : List Nat) :
    opensWithSpace (stream ++ more) = true := by
  rcases stream with _ | ⟨space, _ | ⟨next, rest⟩⟩
  · cases h
  · cases h
  · exact h

theorem frontImage_of_opensWithSpace {stream : List Nat} (h : opensWithSpace stream = true) :
    CodeMap.frontImage stream = [' '] := by
  rcases stream with _ | ⟨space, _ | ⟨next, rest⟩⟩
  · cases h
  · cases h
  · rw [opensWithSpace, Bool.and_eq_true, beq_iff_eq, decide_eq_true_iff] at h
    rw [CodeMap.frontImage, h.1, List.takeWhile_cons_of_pos (by decide),
      List.takeWhile_cons_of_neg (by simpa using h.2)]
    rfl

/-- The space is the image of every blank that has an entry. -/
theorem blanksAreSpaces :
    CodeMap.entriesAll (fun key rest => !isBlankCode key || opensWithSpace rest) (cells expansionRows) = true := by
  have happend {more : List Nat} (key : Nat) (rest : List Nat) (h : (!isBlankCode key || opensWithSpace rest) = true) :
      (!isBlankCode key || opensWithSpace (rest ++ more)) = true := by
    rw [Bool.or_eq_true] at h ⊢
    exact h.imp_right fun hopens => opensWithSpace_append hopens more
  simp only [expansionRows, cells_append]
  -- the table in its nine parts, the last one first
  iterate 8 refine CodeMap.entriesAll_append happend ?_ (by decide +kernel)
  decide +kernel

/-- **A blank stands for itself or for the space.** -/
theorem exists_expand_of_isBlank (hc : isBlank c = true) : ∃ b, expand c = [b] ∧ isBlank b = true := by
  have hsyllables : freeOfBlanks (0xAC00, 0xD7A4) = true := by decide
  rw [expand, if_neg (by simpa using not_in_run_of_isBlank hsyllables hc)]
  split
  · exact ⟨c, rfl, hc⟩
  · cases hfind : expansions.find? c with
    | none => exact ⟨c, rfl, hc⟩
    | some image =>
      obtain ⟨rest, rfl, hentry⟩ := CodeMap.exists_of_find? blanksAreSpaces hfind
      rw [isBlankCode_toNat hc, Bool.not_true, Bool.false_or] at hentry
      exact ⟨' ', frontImage_of_opensWithSpace hentry, by decide⟩

end Compatibility

end Retrieval.Text
