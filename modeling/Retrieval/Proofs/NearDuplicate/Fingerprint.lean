import Retrieval.Crawl
import Retrieval.Proofs.NearDuplicate
import Retrieval.Proofs.Shingle.Sample

/-!
# The size of a fingerprint

A sketch fills whole groups, which is all that super-shingles ask of it. So every text has a fingerprint, whose size is
known from its distinct windows of words, and a crawl never meets a page whose likeness cannot be judged.

* `NearDuplicateFilter.groups` : the groups of shingles in the sketch of a text;
* `NearDuplicateFilter.entries_eq_map_groups` : their hashes are the super-shingles of the text;
* `NearDuplicateFilter.fingerprint_never_fails` : what a fingerprint is.
-/

namespace Retrieval.NearDuplicateFilter

/-! ## Groups -/

def sampleOf (text : String) : List Shingle :=
  (sketch (windows shingleWidth (Text.words text)) groupSize sketchLimit).toOption.getD []

def groups (text : String) : List (List Shingle) :=
  (List.range ((sampleOf text).length / groupSize)).map fun i => ((sampleOf text).drop (i * groupSize)).take groupSize

theorem sketch_eq_sampleOf (text : String) :
    sketch (windows shingleWidth (Text.words text)) groupSize sketchLimit = .ok (sampleOf text) := by
  obtain ⟨sample, hsketch, -⟩ :=
    exists_sketch (k := groupSize) (by decide) (windows shingleWidth (Text.words text)) sketchLimit
  rw [sampleOf, hsketch]
  rfl

/-- A sketch is known from what it keeps and what it leaves out. -/
theorem sampleOf_eq {text : String} (sample : List Shingle)
    (h : Sample (windows shingleWidth (Text.words text))
      (sketchSize (windows shingleWidth (Text.words text)) groupSize sketchLimit) sample) : sampleOf text = sample := by
  have hsketch := (sketch_eq_ok_iff (by decide)).2 h
  rw [sketch_eq_sampleOf, Except.ok.injEq] at hsketch
  exact hsketch

theorem sample_sampleOf (text : String) :
    Sample (windows shingleWidth (Text.words text))
      (sketchSize (windows shingleWidth (Text.words text)) groupSize sketchLimit) (sampleOf text) :=
  (sketch_eq_ok_iff (by decide)).1 (sketch_eq_sampleOf text)

theorem length_sampleOf_mod (text : String) : (sampleOf text).length % groupSize = 0 := by
  rw [(sample_sampleOf text).length_eq]
  exact Nat.mul_mod_left _ _

/-- **The super-shingles of a text are the hashes of its groups.** -/
theorem entries_eq_map_groups (text : String) : entries text = (groups text).map secureHash := by
  rw [entries, fingerprint_of_sketch (sketch_eq_sampleOf text) (length_sampleOf_mod text), groups, List.map_map]
  rfl

theorem length_of_mem_groups {text : String} {g : List Shingle} (h : g ∈ groups text) : g.length = groupSize := by
  obtain ⟨i, hi, rfl⟩ := List.mem_map.1 h
  rw [List.mem_range, Nat.lt_iff_add_one_le, Nat.le_div_iff_mul_le (by decide), Nat.add_mul, Nat.one_mul] at hi
  rw [List.length_take, List.length_drop]
  omega

theorem window_of_mem_groups {text : String} {g : List Shingle} {s : Shingle} (h : g ∈ groups text) (hs : s ∈ g) :
    s.length = shingleWidth ∧ s <:+: Text.words text := by
  obtain ⟨i, -, rfl⟩ := List.mem_map.1 h
  have hsample : s ∈ sampleOf text := List.mem_of_mem_drop (List.mem_of_mem_take hs)
  rw [← mem_windows_iff]
  exact (sample_sampleOf text).subset s hsample

/-! ## Fingerprints -/

theorem fingerprint_eq_supershingles {text : String} {all sample : List Shingle}
    (hall : shingles text shingleWidth = .ok all) (hsample : sketch all groupSize sketchLimit = .ok sample) :
    fingerprint text = supershingles sample secureHash groupSize := by
  unfold fingerprint
  rw [hall]
  simp only [bind, Except.bind, hsample]

/-- **Every text has a fingerprint of known size.** With windows of four words, groups of six and a limit of 84
shingles, and just as well with any others, nothing fails. A fingerprint has the hash of each whole group among the
shingles that are kept of the distinct windows of the text. So a filter has a verdict on every text, and a crawl that is
answered with a page either drops or keeps it by this verdict. -/
theorem fingerprint_never_fails (text : String) :
    (∃ (W : Finset Shingle) (all sample : List Shingle) (print : List UInt64),
      (∀ w, w ∈ W ↔ w.length = 4 ∧ w <:+: Text.words text) ∧
      shingles text 4 = .ok all ∧ sketch all 6 84 = .ok sample ∧ fingerprint text = .ok print ∧
      sample.length = 6 * print.length ∧ print.length = min W.card 84 / 6 ∧
      ∀ i < print.length, print[i]? = some (secureHash ((sample.drop (6 * i)).take 6))) ∧
    (∀ f : NearDuplicateFilter, ∃ duplicate g, f.check text = .ok (duplicate, g)) ∧
    (∀ (s : Crawl.Settings) (web : Web) (c : Crawl) (url : Url) (page : Page),
      web url = some page → page.body = text →
      ∃ duplicate filter, c.filter.check text = .ok (duplicate, filter) ∧
        c.visit s web url = if duplicate then { c with filter } else Crawl.keep s { c with filter } url page) ∧
    ∀ (n k limit : Nat) (hash : List Shingle → UInt64), 0 < n → 0 < k →
      ∃ all sample print, shingles text n = .ok all ∧ sketch all k limit = .ok sample ∧
        supershingles sample hash k = .ok print := by
  refine ⟨?_, fun f => ⟨_, _, check_eq f text⟩, ?_, ?_⟩
  · obtain ⟨W, all, sample, print, hall, hsample, hprint, hW, hlength, hsize, hentries⟩ :=
      exists_supershingles (n := 4) (k := 6) (by decide) (by decide) text 84 secureHash
    refine ⟨W, all, sample, print, hW, hall, hsample, ?_, hlength, hsize, hentries⟩
    exact (fingerprint_eq_supershingles hall hsample).trans hprint
  · rintro s web c url page hpage rfl
    refine ⟨_, _, check_eq c.filter page.body, ?_⟩
    unfold Crawl.visit
    simp only [hpage, check_eq]
    cases c.filter.isDuplicate (entries page.body) <;> rfl
  · intro n k limit hash hn hk
    obtain ⟨-, all, sample, print, hall, hsample, hprint, -⟩ := exists_supershingles hn hk text limit hash
    exact ⟨all, sample, print, hall, hsample, hprint⟩

end Retrieval.NearDuplicateFilter
