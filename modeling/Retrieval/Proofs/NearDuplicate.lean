import Mathlib.Data.List.Induction
import Retrieval.NearDuplicate
import Retrieval.Proofs.Lookup
import Retrieval.Proofs.Shingle

/-!
# Runs of the near-duplicate filter

A filter compares a text with all texts that it has kept at once, since it remembers their super-shingles in one set.

* `NearDuplicateFilter.entries` : the super-shingles of a text, which every text has;
* `NearDuplicateFilter.LikeAll`, `NearDuplicateFilter.LikeOne` : a text that shares enough of them with others, taken
  together or one at a time;
* `NearDuplicateFilter.run` : a filter after texts, with those that it has kept;
* `NearDuplicateFilter.Run.Remembers` : the invariant; the filter knows the super-shingles of the kept texts;
* `NearDuplicateFilter.verdict_counts_kept_pages` : what a verdict says;
* `NearDuplicateFilter.duplicate_of_no_single_page` : a near-duplicate that is like none of the kept texts.
-/

namespace Retrieval.NearDuplicateFilter

/-! ## Fingerprints -/

def entries (text : String) : List UInt64 := (fingerprint text).toOption.getD []

/-- A text with a sketch has the hashes of its groups. -/
theorem fingerprint_of_sketch {text : String} {sample : List Shingle}
    (h : sketch (windows shingleWidth (Text.words text)) groupSize sketchLimit = .ok sample)
    (hgroups : sample.length % groupSize = 0) : fingerprint text =
      .ok ((List.range (sample.length / groupSize)).map fun i =>
        secureHash ((sample.drop (i * groupSize)).take groupSize)) := by
  have hshingles : shingles text shingleWidth = .ok (windows shingleWidth (Text.words text)) := if_neg (by decide)
  unfold fingerprint
  rw [hshingles, ← supershingles_eq (by decide) hgroups]
  simp only [bind, Except.bind, h]

/-- **Every text has a fingerprint.** -/
theorem fingerprint_eq (text : String) : fingerprint text = .ok (entries text) := by
  obtain ⟨sample, hsketch, hgroups⟩ :=
    exists_sketch (k := groupSize) (by decide) (windows shingleWidth (Text.words text)) sketchLimit
  have hprint := fingerprint_of_sketch hsketch hgroups
  rw [entries, hprint]
  rfl

theorem check_eq (f : NearDuplicateFilter) (text : String) :
    f.check text = .ok (if f.isDuplicate (entries text) then (true, f) else (false, f.remember (entries text))) := by
  rw [check, fingerprint_eq]
  rfl

/-! ## Likeness -/

/-- How many super-shingles of a text, counted by position, are those of others. -/
def shared (text : String) (others : List String) : Nat :=
  (entries text).countP fun h => others.any fun other => (entries other).contains h

/-- How many super-shingles a text has to share to be a near-duplicate. -/
def quorum (threshold : Nat) (text : String) : Nat := min (max threshold 1) (entries text).length

/-- A text shares enough super-shingles with the texts that were kept, taken together. -/
def LikeAll (threshold : Nat) (kept : List String) (text : String) : Prop :=
  entries text ≠ [] ∧ quorum threshold text ≤ shared text kept

/-- A text shares enough super-shingles with one of the texts that were kept. -/
def LikeOne (threshold : Nat) (kept : List String) (text : String) : Prop :=
  entries text ≠ [] ∧ ∃ earlier ∈ kept, quorum threshold text ≤ shared text [earlier]

instance (threshold : Nat) (kept : List String) (text : String) : Decidable (LikeAll threshold kept text) :=
  inferInstanceAs (Decidable (_ ∧ _))

section Likeness
variable {threshold : Nat} {kept : List String} {text : String}

theorem LikeOne.likeAll (h : LikeOne threshold kept text) : LikeAll threshold kept text := by
  obtain ⟨hne, earlier, hkept, hquorum⟩ := h
  refine ⟨hne, Nat.le_trans hquorum ?_⟩
  refine List.countP_mono_left fun h _ hshared => ?_
  rw [List.any_eq_true] at hshared ⊢
  obtain ⟨other, hother, hentry⟩ := hshared
  rw [List.mem_singleton.1 hother] at hentry
  exact ⟨earlier, hkept, hentry⟩

theorem LikeAll.likeOne (h : LikeAll threshold kept text) (hthreshold : threshold ≤ 1) :
    LikeOne threshold kept text := by
  obtain ⟨hne, hquorum⟩ := h
  have hone : quorum threshold text = 1 := by
    have hlength : 0 < (entries text).length := List.length_pos_of_ne_nil hne
    unfold quorum
    omega
  rw [hone] at hquorum
  obtain ⟨entry, hentry, hshared⟩ := List.countP_pos_iff.1 hquorum
  rw [List.any_eq_true] at hshared
  obtain ⟨earlier, hkept, hearlier⟩ := hshared
  refine ⟨hne, earlier, hkept, ?_⟩
  rw [hone]
  refine List.countP_pos_iff.2 ⟨entry, hentry, ?_⟩
  rw [List.any_cons, hearlier, Bool.true_or]

end Likeness

/-! ## Runs -/

/-- A filter with the texts that it has kept, the first one first. -/
structure Run where
  filter : NearDuplicateFilter
  kept : List String := []

def Run.give (r : Run) (text : String) : Except ShingleError Run :=
  (r.filter.check text).map fun (duplicate, filter) =>
    ⟨filter, if duplicate then r.kept else r.kept ++ [text]⟩

def run (threshold : Nat) (texts : List String) : Except ShingleError Run :=
  texts.foldlM Run.give ⟨new threshold, []⟩

theorem run_append (threshold : Nat) (texts : List String) (text : String) :
    run threshold (texts ++ [text]) = run threshold texts >>= fun r => r.give text := by
  rw [run, List.foldlM_append]
  simp only [List.foldlM_cons, List.foldlM_nil, bind_pure]
  rfl

/-- The texts that are kept after one more. -/
def keep (threshold : Nat) (kept : List String) (text : String) : List String :=
  if LikeAll threshold kept text then kept else kept ++ [text]

/-- The filter remembers the super-shingles of the texts that it has kept and nothing else. -/
structure Run.Remembers (threshold : Nat) (r : Run) : Prop where
  threshold_eq : r.filter.threshold = max threshold 1
  mem_seen : ∀ h, h ∈ r.filter.seen ↔ ∃ text ∈ r.kept, h ∈ entries text

theorem mem_remember {f : NearDuplicateFilter} {print : List UInt64} {h : UInt64} :
    h ∈ (f.remember print).seen ↔ h ∈ f.seen ∨ h ∈ print := by
  rw [remember, Std.TreeSet.mem_insertMany_list, List.contains_iff_mem]

namespace Run.Remembers

variable {threshold : Nat} {r : Run}

theorem empty (threshold : Nat) : Remembers threshold ⟨new threshold, []⟩ where
  threshold_eq := rfl
  mem_seen h := by simp [new]

theorem isDuplicate_eq (hr : r.Remembers threshold) (text : String) :
    r.filter.isDuplicate (entries text) = decide (LikeAll threshold r.kept text) := by
  have hcount : (entries text).countP r.filter.seen.contains = shared text r.kept := by
    refine List.countP_congr fun h _ => ?_
    rw [Std.TreeSet.contains_iff_mem, hr.mem_seen]
    simp
  rw [isDuplicate, hcount, hr.threshold_eq, Bool.eq_iff_iff, decide_eq_true_iff]
  unfold LikeAll quorum
  simp

theorem check (hr : r.Remembers threshold) (text : String) :
    ∃ f, r.filter.check text = .ok (decide (LikeAll threshold r.kept text), f) := by
  rw [check_eq, hr.isDuplicate_eq]
  cases decide (LikeAll threshold r.kept text) with
  | true => exact ⟨_, rfl⟩
  | false => exact ⟨_, rfl⟩

theorem give (hr : r.Remembers threshold) (text : String) :
    ∃ r', r.give text = .ok r' ∧ r'.Remembers threshold ∧ r'.kept = keep threshold r.kept text := by
  rw [Run.give, check_eq, hr.isDuplicate_eq, keep]
  by_cases hlike : LikeAll threshold r.kept text
  · rw [if_pos hlike, decide_eq_true hlike]
    exact ⟨r, rfl, hr, rfl⟩
  · rw [if_neg hlike, decide_eq_false hlike]
    refine ⟨_, rfl, ⟨hr.threshold_eq, fun h => ?_⟩, rfl⟩
    have hremember : h ∈ (r.filter.remember (entries text)).seen ↔
        (∃ other ∈ r.kept, h ∈ entries other) ∨ h ∈ entries text := by
      rw [mem_remember, hr.mem_seen]
    simpa [or_and_right, exists_or] using hremember

end Run.Remembers

/-- **Every run goes through, and the filter remembers what it has kept.** -/
theorem exists_run (threshold : Nat) (texts : List String) :
    ∃ r, run threshold texts = .ok r ∧ r.Remembers threshold ∧ r.kept = texts.foldl (keep threshold) [] := by
  induction texts using List.reverseRecOn with
  | nil => exact ⟨_, rfl, Run.Remembers.empty threshold, rfl⟩
  | append_singleton texts text ih =>
    obtain ⟨r, hrun, hr, hkept⟩ := ih
    obtain ⟨r', hgive, hr', hkept'⟩ := hr.give text
    refine ⟨r', ?_, hr', ?_⟩
    · rw [run_append, hrun]
      exact hgive
    · rw [List.foldl_append, ← hkept]
      exact hkept'

/-- **A verdict counts what a text shares with all kept texts together.** The filter always comes to a verdict, which is
`true` just if the text has super-shingles and enough of them are among those of the kept texts. It is so for a text
that is like one of them, and for no other text if one super-shingle is enough. -/
theorem verdict_counts_kept_pages (threshold : Nat) (texts : List String) (text : String) :
    ∃ r duplicate f, run threshold texts = .ok r ∧ r.filter.check text = .ok (duplicate, f) ∧
      (duplicate = true ↔ LikeAll threshold r.kept text) ∧
      (LikeOne threshold r.kept text → duplicate = true) ∧
      (threshold ≤ 1 → duplicate = true → LikeOne threshold r.kept text) := by
  obtain ⟨r, hrun, hr, -⟩ := exists_run threshold texts
  obtain ⟨f, hcheck⟩ := hr.check text
  refine ⟨r, _, f, hrun, hcheck, decide_eq_true_iff, ?_, ?_⟩
  · intro hone
    exact decide_eq_true hone.likeAll
  · intro hthreshold hdup
    exact (of_decide_eq_true hdup).likeOne hthreshold

/-! ## A near-duplicate of no single page -/

/-- Shingles in the order of their hashes that fill whole groups are the sketch of their text. -/
theorem entries_of_sorted {text : String} (sorted : List Shingle)
    (hperm : sorted.Perm (windows shingleWidth (Text.words text)))
    (hsorted : sorted.Pairwise fun a b => sketchOrder (hashed a) (hashed b))
    (hdistinct : sorted.eraseReps = sorted) (hsize : sorted.length ≤ sketchLimit)
    (hgroups : sorted.length % groupSize = 0) : entries text =
      (List.range (sorted.length / groupSize)).map fun i =>
        secureHash ((sorted.drop (i * groupSize)).take groupSize) := by
  have hsketch : sketch (windows shingleWidth (Text.words text)) groupSize sketchLimit = .ok sorted := by
    rw [sketch_eq (by decide), sketchOrdered_eq hperm hsorted, hdistinct, Nat.min_eq_left hsize,
      Nat.div_mul_cancel (Nat.dvd_of_mod_eq_zero hgroups), List.take_length]
  rw [entries, fingerprint_of_sketch hsketch hgroups]
  rfl

def exampleStart : String := "n k g h a d o f m"

/-- A page of six others. It begins with the last words of that page. -/
def exampleEnd : String := "o f m e j b l i c"

def exampleWhole : String := "n k g h a d o f m e j b l i c"

/-- The shingles of the first page in the order of their hashes. -/
def startGroup : List Shingle :=
  [["d", "o", "f", "m"], ["g", "h", "a", "d"], ["n", "k", "g", "h"], ["h", "a", "d", "o"], ["a", "d", "o", "f"],
    ["k", "g", "h", "a"]]

/-- Those of the second page, whose hashes are greater. -/
def endGroup : List Shingle :=
  [["b", "l", "i", "c"], ["e", "j", "b", "l"], ["j", "b", "l", "i"], ["o", "f", "m", "e"], ["f", "m", "e", "j"],
    ["m", "e", "j", "b"]]

theorem entries_exampleStart : entries exampleStart = [secureHash startGroup] :=
  entries_of_sorted startGroup (by decide +kernel) (by decide +kernel) (by decide +kernel) (by decide)
    (by decide)

theorem entries_exampleEnd : entries exampleEnd = [secureHash endGroup] :=
  entries_of_sorted endGroup (by decide +kernel) (by decide +kernel) (by decide +kernel) (by decide)
    (by decide)

theorem entries_exampleWhole : entries exampleWhole = [secureHash startGroup, secureHash endGroup] :=
  entries_of_sorted (startGroup ++ endGroup) (by decide +kernel) (by decide +kernel) (by decide +kernel)
    (by decide) (by decide)

/-- **A near-duplicate of two pages that is like neither.** The threshold is two. Both pages are kept, having one
super-shingle each, and the page that has both is a near-duplicate though it shares one at most with either. -/
theorem duplicate_of_no_single_page :
    ∃ r f, run 2 [exampleStart, exampleEnd] = .ok r ∧ r.kept = [exampleStart, exampleEnd] ∧
      r.filter.check exampleWhole = .ok (true, f) ∧ ¬ LikeOne 2 r.kept exampleWhole := by
  have hne : secureHash startGroup ≠ secureHash endGroup := by decide +kernel
  obtain ⟨r, hrun, hr, hkept⟩ := exists_run 2 [exampleStart, exampleEnd]
  have hfirst : keep 2 [] exampleStart = [exampleStart] := by
    simp [keep, LikeAll, quorum, shared, entries_exampleStart]
  have hsecond : keep 2 [exampleStart] exampleEnd = [exampleStart, exampleEnd] := by
    simp [keep, LikeAll, quorum, shared, entries_exampleStart, entries_exampleEnd, hne.symm]
  rw [List.foldl_cons, hfirst, List.foldl_cons, hsecond, List.foldl_nil] at hkept
  obtain ⟨f, hcheck⟩ := hr.check exampleWhole
  have hlike : LikeAll 2 r.kept exampleWhole := by
    simp [hkept, LikeAll, quorum, shared, entries_exampleStart, entries_exampleEnd, entries_exampleWhole]
  rw [decide_eq_true hlike] at hcheck
  refine ⟨r, f, hrun, hkept, hcheck, ?_⟩
  simp [hkept, LikeOne, quorum, shared, entries_exampleStart, entries_exampleEnd, entries_exampleWhole, hne, hne.symm]

end Retrieval.NearDuplicateFilter
