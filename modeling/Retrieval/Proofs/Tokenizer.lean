import Retrieval.Proofs.Stem
import Retrieval.Proofs.Text.Blank
import Retrieval.Proofs.Text.Lowercase
import Retrieval.Proofs.Words
import Retrieval.Tokenizer

/-!
# Terms of a text

A segment goes as far as the characters that may stand in one, so that text is tokenized word by word. A segment begins
with a letter or a numeral, and so it has a term that is not empty.

* `segments_append` : the segments on either side of a character that no segment has;
* `Begun`, `exists_head?_of_mem_segments` : the first character of a segment;
* `Tokenizer.ne_empty_of_mem_tokenize` : no term is empty;
* `Tokenizer.tokenize_eq_flatMap_words` : the terms of a text are those of its words.
-/

namespace Retrieval

open Text

-- nothing here looks into the tables behind these
attribute [local irreducible] isLetter isNumeral

/-! ## Segments -/

section Equations
variable (c : Char) (run rest : List Char)

theorem segmentsFrom_none_cons : segmentsFrom .none (c :: rest) = segmentsFrom (.start c) rest := (rfl)

theorem segmentsFrom_word_cons : segmentsFrom (.word run) (c :: rest) =
    if isInner c then segmentsFrom (.word (c :: run)) rest else run.reverse :: segmentsFrom (.start c) rest := (rfl)

theorem segmentsFrom_number_cons : segmentsFrom (.number run) (c :: rest) =
    if isNumeral c then segmentsFrom (.number (c :: run)) rest
    else run.reverse :: segmentsFrom (.start c) rest := (rfl)

end Equations

/-- What a character opens depends on it alone; one that no segment has opens nothing. -/
theorem OpenSegment.start_of_not_isInner {c : Char} (hc : isInner c = false) : start c = .none := by
  simp only [isInner, Bool.or_eq_false_iff] at hc
  rw [start, hc.1.1.1, hc.1.1.2]
  rfl

theorem isInner_of_isNumeral {c : Char} (hc : isNumeral c = true) : isInner c = true := by
  simp [isInner, hc]

/-- **A character that no segment has cuts a text in two.** -/
theorem segmentsFrom_append {c : Char} (hc : isInner c = false) (o : OpenSegment) (x y : List Char) :
    segmentsFrom o (x ++ c :: y) = segmentsFrom o x ++ segmentsFrom .none y := by
  have hstart := OpenSegment.start_of_not_isInner hc
  have hnumeral : isNumeral c = false := by
    cases h : isNumeral c with
    | false => rfl
    | true => rw [isInner_of_isNumeral h] at hc; cases hc
  induction x generalizing o with
  | nil =>
    rw [List.nil_append]
    cases o with
    | none => rw [segmentsFrom_none_cons, hstart]; rfl
    | word run => rw [segmentsFrom_word_cons, hstart, hc]; rfl
    | number run => rw [segmentsFrom_number_cons, hstart, hnumeral]; rfl
  | cons d x ih =>
    rw [List.cons_append]
    cases o with
    | none => rw [segmentsFrom_none_cons, segmentsFrom_none_cons, ih]
    | word run =>
      rw [segmentsFrom_word_cons, segmentsFrom_word_cons, ih, ih]
      split <;> rfl
    | number run =>
      rw [segmentsFrom_number_cons, segmentsFrom_number_cons, ih, ih]
      split <;> rfl

theorem segments_append {c : Char} (hc : isInner c = false) (x y : List Char) :
    segments (x ++ c :: y) = segments x ++ segments y := segmentsFrom_append hc .none x y

def BeginsSegment (c : Char) : Prop := isLetter c = true ∨ isNumeral c = true

/-- An open segment, its characters last first, has begun with a letter or a numeral. -/
def OpenSegment.Begun : OpenSegment → Prop
  | .none => True
  | .word run | .number run => ∃ c ∈ run.getLast?, BeginsSegment c

theorem OpenSegment.begun_start (c : Char) : (start c).Begun := by
  unfold start
  split
  · next h => exact ⟨c, rfl, .inl h⟩
  · split
    · next h => exact ⟨c, rfl, .inr h⟩
    · trivial

theorem OpenSegment.begun_cons {run : List Char} (h : ∃ c ∈ run.getLast?, BeginsSegment c) (d : Char) :
    ∃ c ∈ (d :: run).getLast?, BeginsSegment c := by
  obtain ⟨c, hc, hbegins⟩ := h
  refine ⟨c, ?_, hbegins⟩
  rw [List.getLast?_cons, hc]
  rfl

/-- **A segment begins with a letter or a numeral.** -/
theorem exists_head?_of_mem_segmentsFrom {o : OpenSegment} (ho : o.Begun) {s segment : List Char}
    (h : segment ∈ segmentsFrom o s) : ∃ c ∈ segment.head?, BeginsSegment c := by
  have hclosed {run : List Char} (hrun : ∃ c ∈ run.getLast?, BeginsSegment c) :
      ∃ c ∈ run.reverse.head?, BeginsSegment c := by
    rwa [List.head?_reverse]
  induction s generalizing o with
  | nil =>
    cases o with
    | none => cases h
    | word run =>
      obtain rfl := List.mem_singleton.1 h
      exact hclosed ho
    | number run =>
      obtain rfl := List.mem_singleton.1 h
      exact hclosed ho
  | cons d s ih =>
    cases o with
    | none => exact ih (OpenSegment.begun_start d) (segmentsFrom_none_cons d s ▸ h)
    | word run =>
      rw [segmentsFrom_word_cons] at h
      split at h
      · exact ih (o := .word (d :: run)) (OpenSegment.begun_cons ho d) h
      · rcases List.mem_cons.1 h with rfl | hrest
        · exact hclosed ho
        · exact ih (OpenSegment.begun_start d) hrest
    | number run =>
      rw [segmentsFrom_number_cons] at h
      split at h
      · exact ih (o := .number (d :: run)) (OpenSegment.begun_cons ho d) h
      · rcases List.mem_cons.1 h with rfl | hrest
        · exact hclosed ho
        · exact ih (OpenSegment.begun_start d) hrest

theorem exists_head?_of_mem_segments {s segment : List Char} (h : segment ∈ segments s) :
    ∃ c ∈ segment.head?, BeginsSegment c := by
  have hnone : OpenSegment.none.Begun := trivial
  exact exists_head?_of_mem_segmentsFrom hnone h

namespace Tokenizer

/-! ## Terms -/

theorem ne_apostrophe_of_begins {c : Char} (hc : BeginsSegment c) : c ≠ '\'' := by
  have hletter : isLetter '\'' = false := by decide +kernel
  have hnumeral : isNumeral '\'' = false := by decide +kernel
  rintro rfl
  rcases hc with h | h
  · rw [hletter] at h; cases h
  · rw [hnumeral] at h; cases h

theorem ne_empty_of_finish? {t : Tokenizer} {segment : List Char} {term : String}
    (hbegins : ∃ c ∈ segment.head?, BeginsSegment c) (h : t.finish? (.ofList segment) = some term) : term ≠ "" := by
  obtain ⟨c, hc, hbegins⟩ := hbegins
  have hsegment : String.ofList segment ≠ "" := by
    intro hempty
    rw [String.ofList_eq_empty_iff] at hempty
    rw [hempty] at hc
    cases hc
  have hhead : (String.ofList segment).toList.head? ≠ some '\'' := by
    rw [String.toList_ofList, hc]
    exact fun h => ne_apostrophe_of_begins hbegins (Option.some.inj h)
  rw [finish?] at h
  split at h
  · cases h
  · cases h
    split
    · exact Stem.stem_ne_empty hsegment hhead
    · exact hsegment

/-- **No term is empty.** -/
theorem ne_empty_of_mem_tokenize {t : Tokenizer} {text term : String} (h : term ∈ t.tokenize text) : term ≠ "" := by
  obtain ⟨segment, hsegment, hterm⟩ := List.mem_filterMap.1 h
  exact ne_empty_of_finish? (exists_head?_of_mem_segments hsegment) hterm

theorem terms_append {t : Tokenizer} {c : Char} (hc : isInner c = false) (x y : List Char) :
    t.terms (x ++ c :: y) = t.terms x ++ t.terms y := by
  rw [terms, segments_append hc, List.filterMap_append]
  rfl

/-! ## Words -/

theorem isInner_of_isBlank {c : Char} (hc : isBlank c = true) : isInner c = false := by
  have hunderscore : c ≠ '_' := by
    rintro rfl
    exact absurd hc (by decide)
  have hapostrophe : c ≠ '\'' := by
    rintro rfl
    exact absurd hc (by decide)
  simp [isInner, isLetter_of_isBlank hc, isNumeral_of_isBlank hc, hunderscore, hapostrophe]

/-- The normal form is that of the parts around a blank, with a blank between them. -/
theorem exists_normalForm_append {c : Char} (hc : isBlank c = true) (x y : List Char) :
    ∃ b, isBlank b = true ∧ lowerList (Compatibility.normalizeList (x ++ c :: y)) =
      lowerList (Compatibility.normalizeList x) ++ b :: lowerList (Compatibility.normalizeList y) := by
  obtain ⟨b, hexpand, hb⟩ := Compatibility.exists_expand_of_isBlank hc
  have huncased : Uncased b := ⟨caseIgnorable_of_isBlank hb, cased_of_isBlank hb⟩
  refine ⟨b, hb, ?_⟩
  rw [Compatibility.normalizeList_append_inert hexpand (Compatibility.inert_of_isBlank hb),
    lowerList_append_uncased huncased (ne_sigma_of_isBlank hb), lowerChar_of_isBlank hb, List.append_assoc]
  rfl

def listTerms (t : Tokenizer) (s : List Char) : List String := t.terms (lowerList (Compatibility.normalizeList s))

theorem listTerms_nil (t : Tokenizer) : t.listTerms [] = [] := by
  rw [listTerms, Compatibility.normalizeList, List.flatMap_nil, Compatibility.orderMarks, List.foldr_nil,
    Compatibility.compose_nil]
  rfl

theorem listTerms_append (t : Tokenizer) {c : Char} (hc : isBlank c = true) (x y : List Char) :
    t.listTerms (x ++ c :: y) = t.listTerms x ++ t.listTerms y := by
  obtain ⟨b, hb, happend⟩ := exists_normalForm_append hc x y
  rw [listTerms, happend, terms_append (isInner_of_isBlank hb), listTerms, listTerms]

/-- **The terms of a text are those of its words**, whatever its letters, marks and blanks are. -/
theorem tokenize_eq_flatMap_words (t : Tokenizer) (text : String) :
    t.tokenize text = (words text).flatMap t.tokenize := by
  have hlist (s : String) : t.tokenize s = t.listTerms s.toList := rfl
  rw [hlist, eq_flatMap_wordLists t.listTerms t.listTerms_nil (fun x _ y hc => t.listTerms_append hc x y) text.toList,
    words, List.flatMap_map]
  simp only [hlist, String.toList_ofList]

end Tokenizer

end Retrieval
