import Retrieval.Text.Blank

/-!
# Words of a text

* `Text.wordsFrom_eq_append` : the words before the rest of a text stay as they are;
* `Text.eq_flatMap_wordLists` : what is found on either side of a blank on its own is found word by word;
* `Text.not_isBlank_of_mem_wordLists` : no word has a blank;
* `Text.mem_of_mem_wordLists` : what a word has is in the text.
-/

namespace Retrieval.Text

theorem closeWord_eq_append (run : List Char) (done : List (List Char)) :
    closeWord run done = closeWord run [] ++ done := by
  cases run with
  | nil => rfl
  | cons c run => rfl

theorem wordsFrom_eq_append (done : List (List Char)) (run s : List Char) :
    wordsFrom done run s = done.reverse ++ wordsFrom [] run s := by
  induction s generalizing done run with
  | nil =>
    rw [wordsFrom, wordsFrom, closeWord_eq_append, List.reverse_append]
  | cons c s ih =>
    rw [wordsFrom, wordsFrom]
    split
    · rw [ih, ih (closeWord run []), closeWord_eq_append, List.reverse_append, List.append_assoc]
    · exact ih done (c :: run)

/-- What is found on either side of a blank on its own is found word by word, `run` being the open word. -/
theorem eq_flatMap_wordsFrom {α : Type} (find : List Char → List α) (hnil : find [] = [])
    (happend : ∀ x c y, isBlank c → find (x ++ c :: y) = find x ++ find y) (run s : List Char) :
    find (run.reverse ++ s) = (wordsFrom [] run s).flatMap find := by
  have hclose (run : List Char) : find run.reverse = (closeWord run []).reverse.flatMap find := by
    cases run with
    | nil => exact hnil
    | cons c run => simp [closeWord]
  induction s generalizing run with
  | nil =>
    rw [List.append_nil, hclose]
    rfl
  | cons c s ih =>
    rw [wordsFrom]
    split
    · next hblank =>
      have hrest : find s = (wordsFrom [] [] s).flatMap find := ih []
      rw [happend _ _ _ hblank, hclose, hrest, wordsFrom_eq_append (closeWord run []), List.flatMap_append]
    · have hrest := ih (c :: run)
      rwa [List.reverse_cons, List.append_assoc] at hrest

theorem eq_flatMap_wordLists {α : Type} (find : List Char → List α) (hnil : find [] = [])
    (happend : ∀ x c y, isBlank c → find (x ++ c :: y) = find x ++ find y) (s : List Char) :
    find s = (wordLists s).flatMap find :=
  eq_flatMap_wordsFrom find hnil happend [] s

theorem not_isBlank_of_mem_closeWord {run word : List Char} (hrun : ∀ c ∈ run, ¬ isBlank c)
    (h : word ∈ (closeWord run []).reverse) : ∀ c ∈ word, ¬ isBlank c := by
  intro c hc
  cases run with
  | nil => cases h
  | cons d run =>
    have hword : word = (d :: run).reverse := by simpa [closeWord] using h
    rw [hword, List.mem_reverse] at hc
    exact hrun c hc

/-- **No word has a blank**, if the open one has none. -/
theorem not_isBlank_of_mem_wordsFrom {run s word : List Char} (hrun : ∀ c ∈ run, ¬ isBlank c)
    (h : word ∈ wordsFrom [] run s) : ∀ c ∈ word, ¬ isBlank c := by
  induction s generalizing run with
  | nil => exact not_isBlank_of_mem_closeWord hrun h
  | cons c s ih =>
    rw [wordsFrom] at h
    split at h
    · rw [wordsFrom_eq_append] at h
      rcases List.mem_append.1 h with hword | hrest
      · exact not_isBlank_of_mem_closeWord hrun hword
      · exact ih (List.forall_mem_nil _) hrest
    · next hc => exact ih (List.forall_mem_cons.2 ⟨hc, hrun⟩) h

theorem not_isBlank_of_mem_wordLists {s word : List Char} (h : word ∈ wordLists s) : ∀ c ∈ word, ¬ isBlank c :=
  not_isBlank_of_mem_wordsFrom (List.forall_mem_nil _) h

theorem mem_of_mem_wordLists {s word : List Char} (h : word ∈ wordLists s) {c : Char} (hc : c ∈ word) : c ∈ s := by
  -- the characters of a text that are not blank are those of its words
  have hfilter := eq_flatMap_wordLists (List.filter (!isBlank ·)) rfl
    (fun x d y hd => by rw [List.filter_append, List.filter_cons_of_neg (by simp [hd])]) s
  have hmem : c ∈ s.filter (!isBlank ·) := by
    rw [hfilter, List.mem_flatMap]
    have hblank := not_isBlank_of_mem_wordLists h c hc
    exact ⟨word, h, List.mem_filter.2 ⟨hc, by simpa using hblank⟩⟩
  exact (List.mem_filter.1 hmem).1

end Retrieval.Text
