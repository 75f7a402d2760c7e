import Mathlib.Data.List.TakeWhile
import Mathlib.Logic.ExistsUnique
import Retrieval.Proofs.Tokenizer.Case

/-!
# Segments by their places

The segments of a text are the pieces of it that begin with a letter or a numeral, go as far as they may and leave no
letter and no numeral out. There is one way only to cut a text so.

* `IsWord`, `IsNumber`, `Piece`, `IsSegmentAt` : words, numbers and pieces of a text, and pieces that are segments;
* `isSegmentAt_iff` : a segment is known by its place;
* `Segmentation` : what the pieces of a text are, said by their places;
* `Cut`, `segmentation_iff_cut` : the same from one piece to the next;
* `Cut.unique`, `exists_cut` : there is one cut, and it is made of the segments;
* `Tokenizer.tokenize_plain`, `Tokenizer.tokenize_eq_finish` : what a tokenizer makes of segments;
* `Tokenizer.tokenize_segmentation` : the terms of a text;
* `Tokenizer.normalForm_of_ascii` : the normal form of a text in ASCII.
-/

namespace Retrieval

open Text

-- nothing here looks into the tables behind these
attribute [local irreducible] isLetter isNumeral

/-! ## Segments one after the other -/

/-- What may stand behind the first character of a segment. -/
def follows (c : Char) : Char → Bool := if isLetter c then isInner else isNumeral

/-- A segment that is open takes what may go on with it, and what is behind that is cut on its own. -/
theorem segmentsFrom_run {opened : List Char → OpenSegment} {goesOn : Char → Bool}
    (hnil : ∀ run, segmentsFrom (opened run) [] = [run.reverse])
    (hcons : ∀ c run s, segmentsFrom (opened run) (c :: s) =
      if goesOn c then segmentsFrom (opened (c :: run)) s else run.reverse :: segmentsFrom (.start c) s)
    (run s : List Char) :
    segmentsFrom (opened run) s = (run.reverse ++ s.takeWhile goesOn) :: segments (s.dropWhile goesOn) := by
  induction s generalizing run with
  | nil =>
    rw [hnil, List.takeWhile_nil, List.append_nil, List.dropWhile_nil]
    rfl
  | cons c s ih =>
    rw [hcons, List.takeWhile_cons, List.dropWhile_cons]
    split
    · rw [ih, List.reverse_cons, List.append_assoc]
      rfl
    · rw [List.append_nil, segments, segmentsFrom_none_cons]

theorem segments_cons_of_begins {c : Char} (hc : BeginsSegment c) (s : List Char) :
    segments (c :: s) = (c :: s.takeWhile (follows c)) :: segments (s.dropWhile (follows c)) := by
  rw [segments, segmentsFrom_none_cons, OpenSegment.start, follows]
  by_cases hletter : isLetter c = true
  · rw [if_pos hletter, if_pos hletter]
    exact segmentsFrom_run (fun _ => rfl) segmentsFrom_word_cons [c] s
  · rw [if_neg hletter, if_neg hletter, if_pos (hc.resolve_left hletter)]
    exact segmentsFrom_run (fun _ => rfl) segmentsFrom_number_cons [c] s

theorem segments_cons_of_not_begins {c : Char} (hc : ¬ BeginsSegment c) (s : List Char) :
    segments (c :: s) = segments s := by
  rw [BeginsSegment, not_or] at hc
  rw [segments, segmentsFrom_none_cons, OpenSegment.start, if_neg hc.1, if_neg hc.2]
  rfl

/-! ## Pieces of a text -/

/-- A letter with letters, numerals, underscores and apostrophes behind it. -/
def IsWord (token : List Char) : Prop := ∃ c rest, token = c :: rest ∧ isLetter c = true ∧ ∀ d ∈ rest, isInner d = true

def IsNumber (token : List Char) : Prop := token ≠ [] ∧ ∀ d ∈ token, isNumeral d = true

/-- A piece of a text: where it begins, and its characters. -/
structure Piece where
  start : Nat
  chars : List Char

/-- Where a piece ends. -/
def Piece.stop (p : Piece) : Nat := p.start + p.chars.length

/-- A word or a number that stands in the text at its place and goes as far as it may. -/
structure IsSegmentAt (s : List Char) (p : Piece) : Prop where
  substring : p.chars <+: s.drop p.start
  shape : IsWord p.chars ∨ IsNumber p.chars
  word_maximal : IsWord p.chars → ∀ c ∈ s[p.stop]?, isInner c = false
  number_maximal : IsNumber p.chars → ∀ c ∈ s[p.stop]?, isNumeral c = false

/-- A run that ends where the text does, or in front of a character that could not go on with it, is all that may stand
there. -/
theorem takeWhile_eq_of_stops {f : Char → Bool} {run rest : List Char} (hrun : ∀ c ∈ run, f c = true)
    (hstop : ∀ c ∈ rest.head?, f c = false) : (run ++ rest).takeWhile f = run := by
  rw [List.takeWhile_append_of_pos hrun]
  cases rest with
  | nil => exact List.append_nil run
  | cons c rest => rw [List.takeWhile_cons_of_neg (by simp [hstop c rfl]), List.append_nil]

theorem stops_dropWhile (f : Char → Bool) (s : List Char) : ∀ c ∈ (s.dropWhile f).head?, f c = false := by
  intro c hc
  have hhead := List.head?_dropWhile_not f s
  rwa [Option.mem_def.1 hc] at hhead

theorem follows_of_isLetter {c : Char} (hc : isLetter c = true) : follows c = isInner := if_pos hc

theorem follows_of_not_isLetter {c : Char} (hc : ¬ isLetter c = true) : follows c = isNumeral := if_neg hc

/-- What stands behind a piece stands behind its characters in the text. -/
theorem getElem?_stop {s run rest : List Char} {c : Char} {p : Piece} (hchars : p.chars = c :: run)
    (hdrop : s.drop p.start = c :: (run ++ rest)) : s[p.stop]? = rest.head? := by
  rw [Piece.stop, ← List.getElem?_drop, hdrop, hchars, List.length_cons, List.getElem?_cons_succ,
    List.getElem?_append_right (Nat.le_refl _), Nat.sub_self, List.head?_eq_getElem?]

/-- A run of numerals is a word if its first one is a letter too. -/
theorem IsNumber.isWord {c : Char} {run : List Char} (h : IsNumber (c :: run)) (hc : isLetter c = true) :
    IsWord (c :: run) :=
  ⟨c, run, rfl, hc, fun d hd => isInner_of_isNumeral (h.2 d (List.mem_cons_of_mem c hd))⟩

/-- A piece that stands in a text and stops as soon as it must has all that may go on with it. -/
theorem exists_eq_takeWhile {s run : List Char} {p : Piece} {c : Char} {f : Char → Bool}
    (hsubstring : p.chars <+: s.drop p.start) (hchars : p.chars = c :: run) (hrun : ∀ d ∈ run, f d = true)
    (hstop : ∀ d ∈ s[p.stop]?, f d = false) : ∃ rest, s.drop p.start = c :: rest ∧ p.chars = c :: rest.takeWhile f := by
  obtain ⟨rest, hrest⟩ := hsubstring
  have hdrop : s.drop p.start = c :: (run ++ rest) := by rw [← hrest, hchars, List.cons_append]
  rw [getElem?_stop hchars hdrop] at hstop
  exact ⟨run ++ rest, hdrop, by rw [takeWhile_eq_of_stops hrun hstop, hchars]⟩

theorem IsSegmentAt.exists_drop_eq {s : List Char} {p : Piece} (h : IsSegmentAt s p) :
    ∃ c rest, s.drop p.start = c :: rest ∧ BeginsSegment c ∧ p.chars = c :: rest.takeWhile (follows c) := by
  have hword (hshape : IsWord p.chars) :
      ∃ c rest, s.drop p.start = c :: rest ∧ BeginsSegment c ∧ p.chars = c :: rest.takeWhile (follows c) := by
    have hstop := h.word_maximal hshape
    obtain ⟨c, run, hchars, hc, hrun⟩ := hshape
    obtain ⟨rest, hdrop, htake⟩ := exists_eq_takeWhile h.substring hchars hrun hstop
    exact ⟨c, rest, hdrop, .inl hc, by rwa [follows_of_isLetter hc]⟩
  rcases h.shape with hshape | hshape
  · exact hword hshape
  · have hstop := h.number_maximal hshape
    obtain ⟨c, run, hchars⟩ := List.exists_cons_of_ne_nil hshape.1
    -- that no letter is a numeral is not used: a number that begins with one would be a word
    by_cases hc : isLetter c = true
    · exact hword (hchars ▸ (hchars ▸ hshape : IsNumber (c :: run)).isWord hc)
    · rw [hchars] at hshape
      obtain ⟨hfirst, hrun⟩ := List.forall_mem_cons.1 hshape.2
      obtain ⟨rest, hdrop, htake⟩ := exists_eq_takeWhile h.substring hchars hrun hstop
      exact ⟨c, rest, hdrop, .inr hfirst, by rwa [follows_of_not_isLetter hc]⟩

theorem isSegmentAt_of_drop_eq {s rest : List Char} {p : Piece} {c : Char} (hdrop : s.drop p.start = c :: rest)
    (hbegins : BeginsSegment c) (hchars : p.chars = c :: rest.takeWhile (follows c)) : IsSegmentAt s p := by
  have hsplit : s.drop p.start = c :: (rest.takeWhile (follows c) ++ rest.dropWhile (follows c)) := by
    rw [List.takeWhile_append_dropWhile, hdrop]
  have hrun : ∀ d ∈ rest.takeWhile (follows c), follows c d = true := fun d => List.mem_takeWhile_imp
  have hstop : ∀ d ∈ s[p.stop]?, follows c d = false := by
    rw [getElem?_stop hchars hsplit]
    exact stops_dropWhile (follows c) rest
  have hsubstring : p.chars <+: s.drop p.start := ⟨rest.dropWhile (follows c), by rw [hsplit, hchars, List.cons_append]⟩
  by_cases hc : isLetter c = true
  · rw [follows_of_isLetter hc] at hrun hstop hchars
    refine ⟨hsubstring, .inl ⟨c, _, hchars, hc, hrun⟩, fun _ => hstop, fun _ d hd => ?_⟩
    -- what cannot go on with a word is no numeral
    have hinner := hstop d hd
    simp only [isInner, Bool.or_eq_false_iff] at hinner
    exact hinner.1.1.2
  · rw [follows_of_not_isLetter hc] at hrun hstop hchars
    have hnumber : IsNumber p.chars := by
      rw [hchars]
      exact ⟨List.cons_ne_nil _ _, List.forall_mem_cons.2 ⟨hbegins.resolve_left hc, hrun⟩⟩
    refine ⟨hsubstring, .inr hnumber, ?_, fun _ => hstop⟩
    rintro ⟨d, run, hword, hd, -⟩
    obtain rfl : d = c := (List.cons.inj (hword.symm.trans hchars)).1
    exact absurd hd hc

/-- **A segment is known by its place**: it begins with a letter or a numeral, and goes on as far as it may. -/
theorem isSegmentAt_iff {s : List Char} {p : Piece} : IsSegmentAt s p ↔
    ∃ c rest, s.drop p.start = c :: rest ∧ BeginsSegment c ∧ p.chars = c :: rest.takeWhile (follows c) := by
  constructor
  · exact IsSegmentAt.exists_drop_eq
  · rintro ⟨c, rest, hdrop, hbegins, hchars⟩
    exact isSegmentAt_of_drop_eq hdrop hbegins hchars

/-! ## Cutting a text -/

/-- Neither a letter nor a numeral stands in the text from one place up to another. -/
def Clear (s : List Char) (start stop : Nat) : Prop := ∀ k, start ≤ k → k < stop → ∀ c ∈ s[k]?, ¬ BeginsSegment c

/-- Where the last of some pieces ends, and the place given if there is none. -/
def endFrom : Nat → List Piece → Nat
  | place, [] => place
  | _, p :: rest => endFrom p.stop rest

/-- **The pieces of a text**: words and numbers, as long as possible, in order and apart from each other. Every letter
and every numeral of the text is in exactly one of them, and each begins at the first letter or numeral from the end of
the piece in front of it on. -/
structure Segmentation (s : List Char) (pieces : List Piece) : Prop where
  segments : ∀ p ∈ pieces, IsSegmentAt s p
  ordered : pieces.Pairwise fun p q => p.stop ≤ q.start
  covers : ∀ k, ∀ c ∈ s[k]?, BeginsSegment c → ∃! p, p ∈ pieces ∧ p.start ≤ k ∧ k < p.stop
  first : ∀ before p behind, pieces = before ++ p :: behind →
    endFrom 0 before ≤ p.start ∧ Clear s (endFrom 0 before) p.start ∧ ∃ c ∈ s[p.start]?, BeginsSegment c

/-- The pieces of a text from a place on, one after the other. -/
inductive Cut (s : List Char) : Nat → List Piece → Prop where
  | done {place : Nat} (hclear : Clear s place s.length) : Cut s place []
  | piece {place : Nat} {p : Piece} {rest : List Piece} (hle : place ≤ p.start) (hclear : Clear s place p.start)
      (hp : IsSegmentAt s p) (hrest : Cut s p.stop rest) : Cut s place (p :: rest)

theorem IsSegmentAt.exists_begins {s : List Char} {p : Piece} (h : IsSegmentAt s p) :
    ∃ c ∈ s[p.start]?, BeginsSegment c := by
  obtain ⟨c, rest, hdrop, hc, -⟩ := isSegmentAt_iff.1 h
  refine ⟨c, ?_, hc⟩
  have hget := congrArg List.head? hdrop
  rwa [List.head?_drop] at hget

theorem IsSegmentAt.start_lt_stop {s : List Char} {p : Piece} (h : IsSegmentAt s p) : p.start < p.stop := by
  obtain ⟨c, rest, -, -, hchars⟩ := isSegmentAt_iff.1 h
  rw [Piece.stop, hchars, List.length_cons]
  omega

theorem IsSegmentAt.eq_of_start_eq {s : List Char} {p q : Piece} (hp : IsSegmentAt s p) (hq : IsSegmentAt s q)
    (h : p.start = q.start) : p = q := by
  obtain ⟨c, rest, hdrop, -, hchars⟩ := isSegmentAt_iff.1 hp
  obtain ⟨d, more, hdrop', -, hchars'⟩ := isSegmentAt_iff.1 hq
  rw [← h, hdrop] at hdrop'
  obtain ⟨rfl, rfl⟩ := List.cons.inj hdrop'
  obtain ⟨start, chars⟩ := p
  obtain ⟨start', chars'⟩ := q
  cases h
  exact congrArg _ (hchars.trans hchars'.symm)

theorem lt_length_of_mem_getElem? {s : List Char} {k : Nat} {c : Char} (h : c ∈ s[k]?) : k < s.length :=
  (List.getElem?_eq_some_iff.1 h).1

/-- No segment begins where a text has neither letters nor numerals. -/
theorem IsSegmentAt.le_start_of_clear {s : List Char} {p : Piece} {place stop : Nat} (h : IsSegmentAt s p)
    (hle : place ≤ p.start) (hclear : Clear s place stop) : stop ≤ p.start := by
  obtain ⟨c, hc, hbegins⟩ := h.exists_begins
  by_contra hlt
  exact hclear p.start hle (by omega) c hc hbegins

theorem IsSegmentAt.start_lt_length {s : List Char} {p : Piece} (h : IsSegmentAt s p) : p.start < s.length := by
  obtain ⟨c, hc, -⟩ := h.exists_begins
  exact lt_length_of_mem_getElem? hc

namespace Cut

variable {s : List Char} {place : Nat} {pieces pieces' : List Piece}

/-- **There is one cut.** -/
theorem unique (h : Cut s place pieces) (h' : Cut s place pieces') : pieces = pieces' := by
  induction h generalizing pieces' with
  | done hclear =>
    cases h' with
    | done => rfl
    | piece hle _ hp _ => exact absurd (hp.le_start_of_clear hle hclear) (Nat.not_le.2 hp.start_lt_length)
  | piece hle hclear hp hrest ih =>
    cases h' with
    | done hclear' => exact absurd (hp.le_start_of_clear hle hclear') (Nat.not_le.2 hp.start_lt_length)
    | piece hle' hclear' hp' hrest' =>
      have hstart := Nat.le_antisymm (hp'.le_start_of_clear hle' hclear) (hp.le_start_of_clear hle hclear')
      obtain rfl := hp.eq_of_start_eq hp' hstart
      rw [ih hrest']

theorem of_succ (h : Cut s (place + 1) pieces) (hplace : ∀ c ∈ s[place]?, ¬ BeginsSegment c) : Cut s place pieces := by
  have hclear {stop : Nat} (hclear : Clear s (place + 1) stop) : Clear s place stop := by
    intro k hle hlt
    rcases Nat.eq_or_lt_of_le hle with rfl | hlater
    · exact hplace
    · exact hclear k hlater hlt
  cases h with
  | done hrest => exact .done (hclear hrest)
  | piece hle hgap hp hrest => exact .piece (Nat.le_of_succ_le hle) (hclear hgap) hp hrest

theorem place_le (h : Cut s place pieces) : ∀ p ∈ pieces, place ≤ p.start := by
  induction h with
  | done => exact List.forall_mem_nil _
  | piece hle _ hp _ ih =>
    refine List.forall_mem_cons.2 ⟨hle, fun q hq => ?_⟩
    have := ih q hq
    have := hp.start_lt_stop
    omega

theorem segments (h : Cut s place pieces) : ∀ p ∈ pieces, IsSegmentAt s p := by
  induction h with
  | done => exact List.forall_mem_nil _
  | piece _ _ hp _ ih => exact List.forall_mem_cons.2 ⟨hp, ih⟩

theorem ordered (h : Cut s place pieces) : pieces.Pairwise fun p q => p.stop ≤ q.start := by
  induction h with
  | done => exact .nil
  | piece _ _ _ hrest ih => exact List.pairwise_cons.2 ⟨hrest.place_le, ih⟩

theorem exists_covering (h : Cut s place pieces) {k : Nat} {c : Char} (hk : place ≤ k) (hc : c ∈ s[k]?)
    (hbegins : BeginsSegment c) : ∃ p ∈ pieces, p.start ≤ k ∧ k < p.stop := by
  induction h with
  | done hclear => exact absurd hbegins (hclear k hk (lt_length_of_mem_getElem? hc) c hc)
  | @piece place p rest hle hclear hp hrest ih =>
    by_cases hstart : k < p.start
    · exact absurd hbegins (hclear k hk hstart c hc)
    · by_cases hstop : k < p.stop
      · exact ⟨p, List.mem_cons_self, by omega, hstop⟩
      · obtain ⟨q, hq, hcovers⟩ := ih (by omega)
        exact ⟨q, List.mem_cons_of_mem p hq, hcovers⟩

/-- What is left of a cut behind some of its pieces. -/
theorem behind {before rest : List Piece} (h : Cut s place (before ++ rest)) : Cut s (endFrom place before) rest := by
  induction before generalizing place with
  | nil => exact h
  | cons p before ih =>
    cases h with
    | piece _ _ _ hrest => exact ih hrest

end Cut

theorem eq_of_common_place {pieces : List Piece} (h : pieces.Pairwise fun p q => p.stop ≤ q.start) {p q : Piece}
    (hp : p ∈ pieces) (hq : q ∈ pieces) {k : Nat} (hkp : p.start ≤ k ∧ k < p.stop) (hkq : q.start ≤ k ∧ k < q.stop) :
    p = q := by
  induction pieces with
  | nil => cases hp
  | cons r rest ih =>
    obtain ⟨hfirst, hrest⟩ := List.pairwise_cons.1 h
    rcases List.mem_cons.1 hp with rfl | hprest <;> rcases List.mem_cons.1 hq with rfl | hqrest
    · rfl
    · have := hfirst q hqrest
      omega
    · have := hfirst p hprest
      omega
    · exact ih hrest hprest hqrest

/-- The pieces of a text end where the last of them does. -/
theorem stop_le_endFrom {pieces : List Piece} (place : Nat) (h : pieces.Pairwise fun p q => p.stop ≤ q.start)
    (hle : ∀ p ∈ pieces, place ≤ p.start ∧ p.start ≤ p.stop) :
    place ≤ endFrom place pieces ∧ ∀ p ∈ pieces, p.stop ≤ endFrom place pieces := by
  induction pieces generalizing place with
  | nil => exact ⟨Nat.le_refl _, List.forall_mem_nil _⟩
  | cons p rest ih =>
    obtain ⟨hfirst, hrest⟩ := List.pairwise_cons.1 h
    obtain ⟨⟨hplace, hstop⟩, hlater⟩ := List.forall_mem_cons.1 hle
    obtain ⟨hend, hstops⟩ := ih p.stop hrest fun q hq => ⟨hfirst q hq, (hlater q hq).2⟩
    exact ⟨Nat.le_trans hplace (Nat.le_trans hstop hend), List.forall_mem_cons.2 ⟨hend, hstops⟩⟩

theorem endFrom_append_singleton (place : Nat) (before : List Piece) (p : Piece) :
    endFrom place (before ++ [p]) = p.stop := by
  induction before generalizing place with
  | nil => rfl
  | cons q before ih => exact ih q.stop

theorem segmentation_of_cut {s : List Char} {pieces : List Piece} (h : Cut s 0 pieces) : Segmentation s pieces where
  segments := h.segments
  ordered := h.ordered
  covers k c hc hbegins := by
    obtain ⟨p, hp, hcovers⟩ := h.exists_covering (Nat.zero_le k) hc hbegins
    exact ⟨p, ⟨hp, hcovers⟩, fun q hq => eq_of_common_place h.ordered hq.1 hp hq.2 hcovers⟩
  first := by
    rintro before p behind rfl
    cases h.behind with
    | piece hle hclear hp _ => exact ⟨hle, hclear, hp.exists_begins⟩

theorem Segmentation.cut_behind {s : List Char} {pieces : List Piece} (h : Segmentation s pieces)
    {before rest : List Piece} (hsplit : pieces = before ++ rest) : Cut s (endFrom 0 before) rest := by
  induction rest generalizing before with
  | nil =>
    rw [List.append_nil] at hsplit
    subst hsplit
    refine .done fun k hk _ c hc hbegins => ?_
    obtain ⟨p, ⟨hp, -, hlt⟩, -⟩ := h.covers k c hc hbegins
    have hends := (stop_le_endFrom 0 h.ordered fun p hp => ⟨Nat.zero_le _, (h.segments p hp).start_lt_stop.le⟩).2 p hp
    omega
  | cons p rest ih =>
    obtain ⟨hle, hclear, -⟩ := h.first before p rest hsplit
    refine .piece hle hclear (h.segments p (by simp [hsplit])) ?_
    rw [← endFrom_append_singleton (endFrom 0 before) before p, endFrom_append_singleton,
      ← endFrom_append_singleton 0 before p]
    exact ih (by rw [hsplit, List.append_assoc]; rfl)

theorem segmentation_iff_cut {s : List Char} {pieces : List Piece} : Segmentation s pieces ↔ Cut s 0 pieces :=
  ⟨fun h => h.cut_behind (List.nil_append pieces).symm, segmentation_of_cut⟩

/-- **There is a cut, and it is made of the segments.** -/
theorem exists_cut (s : List Char) (place : Nat) :
    ∃ pieces, Cut s place pieces ∧ pieces.map (·.chars) = segments (s.drop place) := by
  -- by the length of what is left, of which a piece may take any part
  generalize hrest : s.drop place = rest
  induction hlength : rest.length using Nat.strongRecOn generalizing rest place with
  | ind n ih =>
    cases rest with
    | nil =>
      have hend : s.length ≤ place := List.drop_eq_nil_iff.1 hrest
      exact ⟨[], .done fun k hk hlt => absurd hlt (by omega), rfl⟩
    | cons c rest =>
      rw [List.length_cons] at hlength
      by_cases hbegins : BeginsSegment c
      · have hp : IsSegmentAt s ⟨place, c :: rest.takeWhile (follows c)⟩ :=
          isSegmentAt_iff.2 ⟨c, rest, hrest, hbegins, rfl⟩
        have hbehind : s.drop (place + (c :: rest.takeWhile (follows c)).length) = rest.dropWhile (follows c) := by
          have hrun : (rest.takeWhile (follows c) ++ rest.dropWhile (follows c)).drop
              (rest.takeWhile (follows c)).length = rest.dropWhile (follows c) := List.drop_left
          rw [List.takeWhile_append_dropWhile] at hrun
          rw [← List.drop_drop, hrest, List.length_cons, List.drop_succ_cons, hrun]
        have hshorter : (rest.dropWhile (follows c)).length < n := by
          have := (List.dropWhile_sublist (follows c) (l := rest)).length_le
          omega
        obtain ⟨pieces, hcut, hchars⟩ := ih _ hshorter _ _ hbehind rfl
        refine ⟨_, .piece (Nat.le_refl place) (fun k hk hlt => absurd hlt (by simpa using hk)) hp hcut, ?_⟩
        rw [List.map_cons, hchars, segments_cons_of_begins hbegins]
      · have hnext : s.drop (place + 1) = rest := by rw [← List.drop_drop, hrest, List.drop_succ_cons, List.drop_zero]
        have hfirst : s[place]? = some c := by rw [← List.head?_drop, hrest, List.head?_cons]
        obtain ⟨pieces, hcut, hchars⟩ := ih rest.length (by omega) (place + 1) rest hnext rfl
        refine ⟨pieces, hcut.of_succ fun d hd => ?_, ?_⟩
        · rw [hfirst] at hd
          rwa [← Option.some.inj hd]
        · rw [hchars, segments_cons_of_not_begins hbegins]

/-! ## Terms -/

namespace Tokenizer

/-- As long as nothing is left out and nothing is stemmed, the terms are the segments. -/
theorem tokenize_plain (text : String) :
    ({} : Tokenizer).tokenize text = (segments (normalForm text)).map .ofList :=
  congrFun List.filterMap_eq_map' (segments (normalForm text))

/-- What a tokenizer makes of the segments of a text: it leaves out stopwords if it is to, and then it stems what is left
if it is to. -/
theorem tokenize_eq_finish (t : Tokenizer) (text : String) :
    t.tokenize text =
      ((({} : Tokenizer).tokenize text).filter fun token => !(t.dropStopwords && stopwords.contains token)).map
        fun token => if t.stem then Stem.stem token else token := by
  rw [tokenize_plain, tokenize, terms]
  induction segments (normalForm text) with
  | nil => rfl
  | cons segment rest ih =>
    rw [List.filterMap_cons, List.map_cons, List.filter_cons, finish?, ih]
    cases t.dropStopwords && stopwords.contains (String.ofList segment) <;> rfl

/-- **The terms of a text are the pieces of its normal form.** As long as nothing is left out and nothing is stemmed, they
are the letters and numerals of the normal form with what stands between them in a word, cut in the one way in which it
can be. With the options on, stopwords are left out, and what is left is stemmed term by term. -/
theorem tokenize_segmentation (text : String) :
    (∃ pieces, (∀ others, Segmentation (normalForm text) others ↔ others = pieces) ∧
      ({} : Tokenizer).tokenize text = pieces.map fun p => .ofList p.chars) ∧
    ∀ t : Tokenizer, t.tokenize text =
      ((({} : Tokenizer).tokenize text).filter fun token => !(t.dropStopwords && stopwords.contains token)).map
        fun token => if t.stem then Stem.stem token else token := by
  refine ⟨?_, fun t => t.tokenize_eq_finish text⟩
  obtain ⟨pieces, hcut, hchars⟩ := exists_cut (normalForm text) 0
  refine ⟨pieces, fun others => ?_, ?_⟩
  · rw [segmentation_iff_cut]
    constructor
    · exact fun hothers => hothers.unique hcut
    · rintro rfl
      exact hcut
  · rw [List.drop_zero] at hchars
    rw [tokenize_plain, ← hchars, List.map_map]
    rfl

/-! ## Texts in ASCII -/

theorem normalForm_of_ascii {text : String} (h : ∀ c ∈ text.toList, c.toNat < 128) :
    normalForm text = lowerList text.toList := by
  rw [normalForm, Compatibility.normalizeList_of_settled fun c hc => settled_of_ascii (h c hc)]

theorem tokenize_letter : ({} : Tokenizer).tokenize "a" = ["a"] := by
  have hascii : ∀ c ∈ "a".toList, c.toNat < 128 := by simp
  rw [tokenize_plain, normalForm_of_ascii hascii]
  decide +kernel

end Tokenizer

end Retrieval
