import Retrieval.Proofs.NearDuplicate.Answers
import Retrieval.Proofs.NearDuplicate.Fingerprint
import Retrieval.Proofs.Text.ByteOrder
import Retrieval.Proofs.Words

/-!
# Separators in the bytes of a group

In the bytes that are hashed to a super-shingle a unit separator ends each word and a record separator each shingle. But
neither is a blank, so that words may have them. A group all of whose words are free of the unit separator is the only
one with its bytes among the groups of its size; the record separator does no harm, since shingles have so many words.
Two groups of words with unit separators may have the same bytes.

* `NearDuplicateFilter.Plain` : texts without the unit separator;
* `NearDuplicateFilter.count_groupBytes` : the separators in the bytes of a group;
* `NearDuplicateFilter.groupBytes_inj` : groups of plain words have bytes of their own;
* `NearDuplicateFilter.plain_of_groupBytes_eq` : and no other groups of their size have these;
* `NearDuplicateFilter.groups_shared_only_if_equal` : what is shared are groups;
* `NearDuplicateFilter.near_duplicate_without_common_shingle` : a near-duplicate by ambiguous bytes.
-/

namespace Retrieval.NearDuplicateFilter

variable {g h : List Shingle} {s t : Shingle} {n : Nat}

def Plain (text : String) : Prop := '\x1f' ∉ text.toList

instance (text : String) : Decidable (Plain text) := inferInstanceAs (Decidable (¬ _))

theorem plain_iff {word : String} : Plain word ↔ (0x1F : UInt8) ∉ Text.utf8 word := by
  have hchar (c : Char) : (0x1F : UInt8).toNat = c.toNat ↔ '\x1f' = c := by
    rw [← Char.toNat_inj]
    rfl
  rw [Plain, Text.mem_utf8_iff (by decide)]
  simp only [hchar, exists_eq_right']

def shingleBytes (s : Shingle) : List UInt8 := (s.flatMap fun word => Text.utf8 word ++ [0x1F]) ++ [0x1E]

theorem groupBytes_cons (s : Shingle) (g : List Shingle) : groupBytes (s :: g) = shingleBytes s ++ groupBytes g :=
  List.flatMap_cons

theorem shingleBytes_cons (word : String) (s : Shingle) :
    shingleBytes (word :: s) = Text.utf8 word ++ 0x1F :: shingleBytes s := by
  simp [shingleBytes]

/-! ## Bytes that are told apart -/

theorem eq_of_append_separator {separator : UInt8} {x y a b : List UInt8} (hx : separator ∉ x) (hy : separator ∉ y)
    (heq : x ++ separator :: a = y ++ separator :: b) : x = y ∧ a = b := by
  induction x generalizing y with
  | nil =>
    cases y with
    | nil => exact ⟨rfl, (List.cons.inj heq).2⟩
    | cons c y => exact absurd (List.cons.inj heq).1 (List.ne_of_not_mem_cons hy)
  | cons c x ih =>
    cases y with
    | nil => exact absurd (List.cons.inj heq).1.symm (List.ne_of_not_mem_cons hx)
    | cons d y =>
      obtain ⟨rfl, htail⟩ := List.cons.inj heq
      obtain ⟨rfl, hrest⟩ := ih (List.not_mem_of_not_mem_cons hx) (List.not_mem_of_not_mem_cons hy) htail
      exact ⟨rfl, hrest⟩

/-- Shingles of as many plain words end at the same place. -/
theorem shingleBytes_append_inj {a b : List UInt8} (hlength : s.length = t.length) (hs : ∀ word ∈ s, Plain word)
    (ht : ∀ word ∈ t, Plain word) (heq : shingleBytes s ++ a = shingleBytes t ++ b) : s = t ∧ a = b := by
  induction s generalizing t with
  | nil =>
    rw [List.length_eq_zero_iff.1 hlength.symm] at heq ⊢
    exact ⟨rfl, (List.cons.inj heq).2⟩
  | cons word s ih =>
    cases t with
    | nil => cases hlength
    | cons other t =>
      rw [List.forall_mem_cons] at hs ht
      rw [shingleBytes_cons, shingleBytes_cons, List.append_assoc, List.append_assoc] at heq
      obtain ⟨hword, hrest⟩ := eq_of_append_separator (plain_iff.1 hs.1) (plain_iff.1 ht.1) heq
      obtain ⟨rfl, hab⟩ := ih (Nat.succ.inj hlength) hs.2 ht.2 hrest
      rw [Text.utf8_injective hword]
      exact ⟨rfl, hab⟩

/-- **Groups of plain words are told apart by their bytes.** -/
theorem groupBytes_inj (hg : ∀ s ∈ g, s.length = n ∧ ∀ word ∈ s, Plain word)
    (hh : ∀ s ∈ h, s.length = n ∧ ∀ word ∈ s, Plain word) (heq : groupBytes g = groupBytes h) : g = h := by
  have hne (s : Shingle) (g : List Shingle) : groupBytes (s :: g) ≠ [] := by
    simp [groupBytes_cons, shingleBytes]
  induction g generalizing h with
  | nil =>
    cases h with
    | nil => rfl
    | cons t h => exact absurd heq.symm (hne t h)
  | cons s g ih =>
    cases h with
    | nil => exact absurd heq (hne s g)
    | cons t h =>
      rw [List.forall_mem_cons] at hg hh
      rw [groupBytes_cons, groupBytes_cons] at heq
      obtain ⟨rfl, hrest⟩ :=
        shingleBytes_append_inj (hg.1.1.trans hh.1.1.symm) hg.1.2 hh.1.2 heq
      rw [ih hg.2 hh.2 hrest]

/-! ## Separators are counted -/

theorem count_shingleBytes (s : Shingle) :
    (shingleBytes s).count 0x1F = s.length + (s.flatMap Text.utf8).count 0x1F := by
  induction s with
  | nil => rfl
  | cons word s ih =>
    rw [shingleBytes_cons, List.count_append, List.count_cons_self, ih, List.length_cons, List.flatMap_cons,
      List.count_append]
    omega

theorem count_groupBytes (g : List Shingle) :
    (groupBytes g).count 0x1F = g.flatten.length + (g.flatten.flatMap Text.utf8).count 0x1F := by
  induction g with
  | nil => rfl
  | cons s g ih =>
    rw [groupBytes_cons, List.count_append, count_shingleBytes, ih, List.flatten_cons, List.length_append,
      List.flatMap_append, List.count_append]
    omega

theorem count_words_eq_zero_iff : (g.flatten.flatMap Text.utf8).count 0x1F = 0 ↔ ∀ s ∈ g, ∀ word ∈ s, Plain word := by
  rw [List.count_eq_zero, List.mem_flatMap]
  constructor
  · intro hnone s hs word hword
    rw [plain_iff]
    intro hmem
    exact hnone ⟨word, List.mem_flatten.2 ⟨s, hs, hword⟩, hmem⟩
  · rintro hplain ⟨word, hword, hmem⟩
    obtain ⟨s, hs, hin⟩ := List.mem_flatten.1 hword
    exact plain_iff.1 (hplain s hs word hin) hmem

theorem length_flatten (hg : ∀ s ∈ g, s.length = n) : g.flatten.length = g.length * n := by
  rw [List.length_flatten, List.map_congr_left hg, List.map_const', List.sum_replicate_nat]

/-- Groups of one size with the same bytes are all of plain words, or none of them is. -/
theorem plain_of_groupBytes_eq (hlength : g.length = h.length) (hg : ∀ s ∈ g, s.length = n) (hh : ∀ s ∈ h, s.length = n)
    (heq : groupBytes g = groupBytes h) (hplain : ∀ s ∈ g, ∀ word ∈ s, Plain word) :
    ∀ s ∈ h, ∀ word ∈ s, Plain word := by
  have hcount := congrArg (List.count 0x1F) heq
  rw [count_groupBytes, count_groupBytes, length_flatten hg, length_flatten hh, hlength] at hcount
  rw [← count_words_eq_zero_iff] at hplain ⊢
  omega

/-- **A group of plain words is the only one of its size with its bytes.** -/
theorem eq_of_groupBytes_eq (hlength : g.length = h.length) (hg : ∀ s ∈ g, s.length = n) (hh : ∀ s ∈ h, s.length = n)
    (hplain : ∀ s ∈ g, ∀ word ∈ s, Plain word) (heq : groupBytes g = groupBytes h) : g = h := by
  have hplain' := plain_of_groupBytes_eq hlength hg hh heq hplain
  exact groupBytes_inj (fun s hs => ⟨hg s hs, hplain s hs⟩) (fun s hs => ⟨hh s hs, hplain' s hs⟩) heq

/-! ## What texts share -/

theorem plain_of_mem_groups {text word : String} (htext : Plain text) (hg : g ∈ groups text) (hs : s ∈ g)
    (hword : word ∈ s) : Plain word := by
  intro hmem
  have hwords : word ∈ Text.words text := (window_of_mem_groups hg hs).2.subset hword
  obtain ⟨chars, hchars, rfl⟩ := List.mem_map.1 hwords
  rw [String.toList_ofList] at hmem
  exact htext (Text.mem_of_mem_wordLists hchars hmem)

theorem shared_eq_countP (text : String) (kept : List String) :
    shared text kept = (groups text).countP fun g => ∃ h ∈ kept.flatMap groups, secureHash g = secureHash h := by
  rw [shared, entries_eq_map_groups, List.countP_map]
  apply List.countP_congr
  intro g _
  simp only [Function.comp_apply, entries_eq_map_groups, List.any_eq_true, List.contains_iff_mem, List.mem_map,
    List.mem_flatMap, decide_eq_true_iff]
  constructor
  · rintro ⟨other, hother, h, hh, heq⟩
    exact ⟨h, ⟨other, hother, hh⟩, heq.symm⟩
  · rintro ⟨h, ⟨other, hother, hh⟩, heq⟩
    exact ⟨other, hother, h, hh, heq.symm⟩

/-- **Groups of a plain text are shared only if they are equal.** Two different groups of as many shingles of four words
have the same bytes only if both of them have a word with a unit separator. So, if no two different byte strings of the
groups at hand have the same hash, a text without unit separators shares just those of its groups that are groups of
kept texts, whatever these are. -/
theorem groups_shared_only_if_equal (text : String) (kept : List String) :
    (∀ g h : List Shingle, g.length = h.length → (∀ s ∈ g, s.length = shingleWidth) →
      (∀ s ∈ h, s.length = shingleWidth) → g ≠ h → groupBytes g = groupBytes h →
      (∃ s ∈ g, ∃ word ∈ s, ¬ Plain word) ∧ ∃ s ∈ h, ∃ word ∈ s, ¬ Plain word) ∧
    (Plain text →
      (∀ g ∈ groups text, ∀ h ∈ kept.flatMap groups, secureHash g = secureHash h → groupBytes g = groupBytes h) →
      shared text kept = (groups text).countP fun g => g ∈ kept.flatMap groups) := by
  constructor
  · intro g h hlength hg hh hne heq
    constructor
    · by_contra! hplain
      exact hne (eq_of_groupBytes_eq hlength hg hh hplain heq)
    · by_contra! hplain
      exact hne (eq_of_groupBytes_eq hlength.symm hh hg hplain heq.symm).symm
  · intro htext hhash
    rw [shared_eq_countP]
    apply List.countP_congr
    intro g hg
    rw [decide_eq_true_iff, decide_eq_true_iff]
    constructor
    · rintro ⟨h, hh, heq⟩
      obtain ⟨other, -, hother⟩ := List.mem_flatMap.1 hh
      have hequal : g = h := by
        apply eq_of_groupBytes_eq (n := shingleWidth) _ _ _ _ (hhash g hg h hh heq)
        · rw [length_of_mem_groups hg, length_of_mem_groups hother]
        · exact fun s hs => (window_of_mem_groups hg hs).1
        · exact fun s hs => (window_of_mem_groups hother hs).1
        · exact fun s hs word hword => plain_of_mem_groups htext hg hs hword
      rwa [hequal]
    · exact fun hin => ⟨g, hin, rfl⟩

theorem groups_exampleStart : groups exampleStart = [startGroup] := by
  rw [groups, sampleOf_eq startGroup (by decide +kernel)]
  rfl

theorem groups_exampleWhole : groups exampleWhole = [startGroup, endGroup] := by
  rw [groups, sampleOf_eq (startGroup ++ endGroup) (by decide +kernel)]
  rfl

/-- A page that begins with another one shares one of its two groups with it. -/
theorem groups_shared_only_if_equal_whole :
    Plain exampleWhole ∧
      (∀ g ∈ groups exampleWhole, ∀ h ∈ [exampleStart].flatMap groups,
        secureHash g = secureHash h → groupBytes g = groupBytes h) ∧
      shared exampleWhole [exampleStart] = 1 := by
  have hne : secureHash endGroup ≠ secureHash startGroup := by decide +kernel
  have hplain : Plain exampleWhole := by decide +kernel
  have hhash : ∀ g ∈ groups exampleWhole, ∀ h ∈ [exampleStart].flatMap groups,
      secureHash g = secureHash h → groupBytes g = groupBytes h := by
    simp [groups_exampleWhole, groups_exampleStart, hne]
  refine ⟨hplain, hhash, ?_⟩
  have hshared := (groups_shared_only_if_equal exampleWhole [exampleStart]).2 hplain hhash
  rw [hshared, groups_exampleWhole, List.flatMap_singleton, groups_exampleStart]
  decide +kernel

/-! ## A near-duplicate by ambiguous bytes -/

/-- Words of one, two and three letters, between which there are unit separators. -/
def exampleMarks : String := "g g g\x1fg g g\x1fg g\x1fg g\x1fg g g"

/-- Such words again. Each window of four has as many letters as the window at the same place of the first text. -/
def exampleOtherMarks : String := "g\x1fg g g g g\x1fg\x1fg g\x1fg g g g\x1fg"

def marksGroup : List Shingle :=
  [["g", "g\x1fg", "g", "g\x1fg"], ["g\x1fg", "g\x1fg", "g\x1fg", "g"], ["g\x1fg", "g", "g\x1fg", "g\x1fg"],
    ["g", "g", "g\x1fg", "g"], ["g\x1fg", "g\x1fg", "g", "g"], ["g", "g\x1fg", "g\x1fg", "g\x1fg"]]

def otherMarksGroup : List Shingle :=
  [["g", "g", "g", "g\x1fg\x1fg"], ["g\x1fg\x1fg", "g\x1fg", "g", "g"], ["g", "g", "g\x1fg\x1fg", "g\x1fg"],
    ["g\x1fg", "g", "g", "g"], ["g\x1fg", "g", "g", "g\x1fg"], ["g", "g\x1fg\x1fg", "g\x1fg", "g"]]

theorem groups_exampleMarks : groups exampleMarks = [marksGroup] := by
  rw [groups, sampleOf_eq marksGroup (by decide +kernel)]
  rfl

theorem groups_exampleOtherMarks : groups exampleOtherMarks = [otherMarksGroup] := by
  rw [groups, sampleOf_eq otherMarksGroup (by decide +kernel)]
  rfl

theorem isDuplicate_new (threshold : Nat) (print : List UInt64) : (new threshold).isDuplicate print = false := by
  have hcount : print.countP (new threshold).seen.contains = 0 :=
    List.countP_eq_zero.2 fun entry _ => by simp [new]
  cases print with
  | nil => rfl
  | cons entry print =>
    have hquorum : 1 ≤ min (new threshold).threshold (entry :: print).length :=
      Nat.le_min.2 ⟨Nat.le_max_right _ _, Nat.succ_pos _⟩
    rw [isDuplicate, hcount, Bool.and_eq_false_iff, decide_eq_false_iff_not]
    exact .inr (by omega)

/-- **A near-duplicate that has no shingle in common with the page it is taken for.** Both pages have one group of six
shingles, each of four words without a blank. The groups are different and have the same bytes, so that the second page
is rejected after the first one. -/
theorem near_duplicate_without_common_shingle :
    groups exampleMarks = [marksGroup] ∧ groups exampleOtherMarks = [otherMarksGroup] ∧
      (∀ s ∈ marksGroup ++ otherMarksGroup, s.length = shingleWidth ∧ ∀ word ∈ s, Text.words word = [word]) ∧
      marksGroup.length = otherMarksGroup.length ∧ (∀ s ∈ marksGroup, s ∉ otherMarksGroup) ∧
      groupBytes marksGroup = groupBytes otherMarksGroup ∧
      ∃ f, (new 1).check exampleMarks = .ok (false, f) ∧ f.check exampleOtherMarks = .ok (true, f) := by
  have hbytes : groupBytes marksGroup = groupBytes otherMarksGroup := by decide +kernel
  have hentries : entries exampleOtherMarks = entries exampleMarks := by
    rw [entries_eq_map_groups, entries_eq_map_groups, groups_exampleMarks, groups_exampleOtherMarks, List.map_singleton,
      List.map_singleton, secureHash, secureHash, hbytes]
  have hne : entries exampleMarks ≠ [] := by
    simp [entries_eq_map_groups, groups_exampleMarks]
  have hkept : (new 1).check exampleMarks = .ok (false, (new 1).remember (entries exampleMarks)) :=
    check_eq_false_iff.2 ⟨isDuplicate_new 1 _, rfl⟩
  exact ⟨groups_exampleMarks, groups_exampleOtherMarks, by decide +kernel, rfl, by decide +kernel, hbytes, _, hkept,
    rejects_of_kept hkept hne hentries⟩

end Retrieval.NearDuplicateFilter
