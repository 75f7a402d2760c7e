import Mathlib.Data.List.Basic
import Retrieval.Proofs.Words

/-!
# Words and the blanks around them

The words of a text are told by how they stand in it, with blanks around and between them and nothing else. So the same
words can be set apart in many ways, and texts with the same words differ in their blanks only.

* `Text.Spaced` : words as they stand in a text;
* `Text.spaced_iff` : a text has the words that stand in it, and no others;
* `Text.DifferInBlanks`, `Text.words_eq_words_iff` : texts with the same words.
-/

namespace Retrieval.Text

/-- Words as they stand in a text: blanks may come before each and behind the last one, and a word is followed by a
blank or by the end of the text. No word is empty, and none has a blank. -/
inductive Spaced : List (List Char) → List Char → Prop
  | nil {gap : List Char} (hgap : ∀ c ∈ gap, isBlank c) : Spaced [] gap
  | cons {gap word rest : List Char} {words : List (List Char)} (hgap : ∀ c ∈ gap, isBlank c) (hne : word ≠ [])
      (hword : ∀ c ∈ word, ¬ isBlank c) (hends : ∀ c ∈ rest.head?, isBlank c) (hrest : Spaced words rest) :
      Spaced (word :: words) (gap ++ (word ++ rest))

variable {words : List (List Char)} {run s : List Char} {c : Char}

/-! ## What stands in a text is read -/

theorem wordLists_cons_of_isBlank (hc : isBlank c) (s : List Char) : wordLists (c :: s) = wordLists s := by
  unfold wordLists
  rw [wordsFrom, if_pos hc]
  rfl

theorem wordLists_blanks {gap : List Char} (hgap : ∀ c ∈ gap, isBlank c) (s : List Char) :
    wordLists (gap ++ s) = wordLists s := by
  induction gap with
  | nil => rfl
  | cons c gap ih =>
    obtain ⟨hc, hgap⟩ := List.forall_mem_cons.1 hgap
    rw [List.cons_append, wordLists_cons_of_isBlank hc, ih hgap]

theorem wordsFrom_word {word : List Char} (hword : ∀ c ∈ word, ¬ isBlank c) (run s : List Char) :
    wordsFrom [] run (word ++ s) = wordsFrom [] (word.reverse ++ run) s := by
  induction word generalizing run with
  | nil => rfl
  | cons c word ih =>
    obtain ⟨hc, hword⟩ := List.forall_mem_cons.1 hword
    rw [List.cons_append, wordsFrom, if_neg hc, ih hword, List.reverse_cons, List.append_assoc]
    rfl

theorem closeWord_reverse {word : List Char} (hne : word ≠ []) : closeWord word.reverse [] = [word] := by
  obtain ⟨c, run, hrun⟩ := List.exists_cons_of_ne_nil (List.reverse_ne_nil_iff.2 hne)
  rw [hrun, closeWord, ← hrun, List.reverse_reverse]

/-- A blank ends a word, if the text does not. -/
theorem wordLists_word_append {word : List Char} (hne : word ≠ []) (hword : ∀ c ∈ word, ¬ isBlank c)
    (hends : ∀ c ∈ s.head?, isBlank c) : wordLists (word ++ s) = word :: wordLists s := by
  rw [wordLists, wordsFrom_word hword, List.append_nil]
  cases s with
  | nil =>
    rw [wordsFrom, closeWord_reverse hne]
    rfl
  | cons c s =>
    have hc : isBlank c := hends c rfl
    rw [wordLists_cons_of_isBlank hc, wordsFrom, if_pos hc, wordsFrom_eq_append, closeWord_reverse hne]
    rfl

/-! ## What is read stands in the text -/

theorem Spaced.blank (hc : isBlank c) (h : Spaced words s) : Spaced words (c :: s) := by
  cases h with
  | nil hgap => exact .nil (List.forall_mem_cons.2 ⟨hc, hgap⟩)
  | cons hgap hne hword hends hrest => exact .cons (List.forall_mem_cons.2 ⟨hc, hgap⟩) hne hword hends hrest

/-- The open word, if there is one, is closed by what comes next. -/
theorem Spaced.close (hrun : ∀ c ∈ run, ¬ isBlank c) (hends : ∀ c ∈ s.head?, isBlank c) (hrest : Spaced words s) :
    Spaced ((closeWord run []).reverse ++ words) (run.reverse ++ s) := by
  cases run with
  | nil => exact hrest
  | cons c run =>
    have hne : (c :: run).reverse ≠ [] := by simp
    have hword : ∀ d ∈ (c :: run).reverse, ¬ isBlank d := fun d hd => hrun d (List.mem_reverse.1 hd)
    exact .cons (List.forall_mem_nil _) hne hword hends hrest

theorem spaced_wordsFrom (hrun : ∀ c ∈ run, ¬ isBlank c) : Spaced (wordsFrom [] run s) (run.reverse ++ s) := by
  induction s generalizing run with
  | nil =>
    have hnil : Spaced [] [] := .nil (List.forall_mem_nil _)
    have h := hnil.close hrun (by simp)
    rwa [List.append_nil] at h
  | cons c s ih =>
    rw [wordsFrom]
    split
    · next hc =>
      rw [wordsFrom_eq_append]
      exact ((ih (List.forall_mem_nil _)).blank hc).close hrun (by simpa using hc)
    · next hc =>
      have h := ih (List.forall_mem_cons.2 ⟨hc, hrun⟩)
      rwa [List.reverse_cons, List.append_assoc] at h

theorem spaced_wordLists (s : List Char) : Spaced (wordLists s) s := spaced_wordsFrom (List.forall_mem_nil _)

/-- **A text has the words that stand in it, and no others.** -/
theorem spaced_iff : Spaced words s ↔ wordLists s = words := by
  constructor
  · intro h
    induction h with
    | nil hgap =>
      have h := wordLists_blanks hgap []
      rwa [List.append_nil] at h
    | cons hgap hne hword hends hrest ih => rw [wordLists_blanks hgap, wordLists_word_append hne hword hends, ih]
  · rintro rfl
    exact spaced_wordLists s

/-! ## Texts with the same words -/

/-- Texts that differ in the blanks around and between their words only. -/
def DifferInBlanks (s t : String) : Prop := ∃ words, Spaced words s.toList ∧ Spaced words t.toList

/-- **Texts with the same words differ in their blanks only.** -/
theorem words_eq_words_iff {s t : String} : Text.words s = Text.words t ↔ DifferInBlanks s t := by
  have hinj : Function.Injective (List.map String.ofList) := List.map_injective_iff.2 fun _ _ => String.ofList_inj.1
  unfold Text.words DifferInBlanks
  simp only [hinj.eq_iff, spaced_iff]
  constructor
  · intro h
    exact ⟨_, h, rfl⟩
  · rintro ⟨words, hs, ht⟩
    exact hs.trans ht.symm

end Retrieval.Text
