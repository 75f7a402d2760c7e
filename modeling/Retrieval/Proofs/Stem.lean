import Mathlib.Data.List.Induction
import Retrieval.Stem.English

/-!
# No stem is empty

What stands in front of an ending that is removed is not empty: it reaches into a region of the word, has a vowel or a
certain last letter, or holds the first letter. So a word that does not begin with an apostrophe has a stem.

* `longestEnding?_eq_some` : a word is what stands in front of its longest ending, and the ending;
* `Regions.Inside` : both regions begin behind the first letter;
* `replaceEnding_ne_nil`, `step1a_ne_nil`, `step1b_ne_nil`, `step1c_ne_nil`, `step5_ne_nil` : no step leaves nothing;
* `stem_ne_empty` : the stem of a word.
-/

namespace Retrieval.Stem

/-! ## Endings -/

theorem before?_eq_some {ending : String} {w base : List Char} (h : before? ending w = some base) :
    w = base ++ ending.toList := by
  rw [before?] at h
  split at h
  · next hsuffix =>
    obtain ⟨front, rfl⟩ := List.isSuffixOf_iff_suffix.1 hsuffix
    cases h
    have hlength : (front ++ ending.toList).length - ending.length = front.length := by
      rw [List.length_append, String.length_toList, Nat.add_sub_cancel]
    rw [hlength, List.take_left]
  · cases h

/-- A word is what stands in front of its longest ending, and the ending. -/
theorem longestEnding?_eq_some {α : Type} {endings : List (String × α)} {w base : List Char} {rule : α}
    (h : longestEnding? endings w = some (base, rule)) :
    ∃ ending, (ending, rule) ∈ endings ∧ w = base ++ ending.toList := by
  induction endings using List.reverseRecOn generalizing base rule with
  | nil => cases h
  | append_singleton endings entry ih =>
    have hearlier : longestEnding? endings w = some (base, rule) →
        ∃ ending, (ending, rule) ∈ endings ++ [entry] ∧ w = base ++ ending.toList := by
      intro h
      obtain ⟨ending, hmem, hw⟩ := ih h
      exact ⟨ending, List.mem_append_left _ hmem, hw⟩
    have hlast (front : List Char) (hfront : before? entry.1 w = some front) :
        ∃ ending, (ending, entry.2) ∈ endings ++ [entry] ∧ w = front ++ ending.toList :=
      ⟨entry.1, List.mem_append_right _ List.mem_cons_self, before?_eq_some hfront⟩
    rw [longestEnding?, List.foldl_append, List.foldl_cons, List.foldl_nil] at h
    dsimp only at h
    split at h
    · exact hearlier h
    · next front hfront _ =>
      cases h
      exact hlast _ hfront
    · next front other r hfront hbest =>
      split at h
      · cases h
        exact hlast _ hfront
      · cases h
        exact hearlier hbest

/-! ## Regions -/

/-- Both regions begin behind the first letter. -/
structure Regions.Inside (r : Regions) : Prop where
  first : 1 ≤ r.first
  second : 1 ≤ r.second

theorem one_le_regionAfter {w : List Char} {start position : Nat} (h : regionAfter? w start = some position) :
    1 ≤ position := by
  rw [regionAfter?] at h
  split at h
  · cases h
  · next vowel rest hrest =>
    split at h
    · cases h
    · next consonant tail htail =>
      cases h
      have hlong : rest.length + 1 ≤ w.length := by
        calc rest.length + 1 = ((w.drop start).dropWhile (!isVowel ·)).length := by rw [hrest, List.length_cons]
          _ ≤ (w.drop start).length := (List.dropWhile_sublist _).length_le
          _ ≤ w.length := (List.drop_sublist _ _).length_le
      have hshort : tail.length + 1 ≤ rest.length := by
        calc tail.length + 1 = (rest.dropWhile isVowel).length := by rw [htail, List.length_cons]
          _ ≤ rest.length := (List.dropWhile_sublist _).length_le
      omega

theorem inside_regions {w : List Char} (hw : w ≠ []) : (regions w).Inside := by
  have hlength : 1 ≤ w.length := List.length_pos_iff.2 hw
  unfold regions
  split
  · exact ⟨hlength, hlength⟩
  · next first hfirst =>
    refine ⟨?_, ?_⟩
    · cases hfixed : fixedBeginnings.find? (·.isPrefixOf w) with
      | some beginning =>
        have hlong : ∀ beginning ∈ fixedBeginnings, 1 ≤ beginning.length := by decide
        rw [hfixed] at hfirst
        cases hfirst
        exact hlong beginning (List.mem_of_find?_eq_some hfixed)
      | none =>
        rw [hfixed] at hfirst
        exact one_le_regionAfter hfirst
    · cases hsecond : regionAfter? w first with
      | none => exact hlength
      | some second => exact one_le_regionAfter hsecond

/-! ## Steps -/

theorem ne_nil_of_one_le_length {base : List Char} (h : 1 ≤ base.length) : base ≠ [] :=
  List.ne_nil_of_length_pos h

/-- A word keeps what stands in front of an ending that reaches into a region. -/
theorem replaceEnding_ne_nil {endings : List (String × Ending)} {r : Regions} {w : List Char}
    (hregion : ∀ e ∈ endings, 1 ≤ e.2.region r) (hw : w ≠ []) : replaceEnding endings r w ≠ [] := by
  unfold replaceEnding
  split
  · exact hw
  · next base rule hending =>
    split
    · next hcond =>
      obtain ⟨ending, hmem, -⟩ := longestEnding?_eq_some hending
      have hreach : rule.region r ≤ base.length := by
        rw [Bool.and_eq_true, decide_eq_true_iff] at hcond
        exact hcond.1
      have hbase : base ≠ [] := ne_nil_of_one_le_length (Nat.le_trans (hregion _ hmem) hreach)
      exact List.append_ne_nil_of_left_ne_nil hbase _
    · exact hw

theorem ne_nil_of_any {p : Char → Bool} {base : List Char} (h : base.any p = true) : base ≠ [] := by
  rintro rfl
  cases h

/-- The first letter stands in front of a possessive, unless it is an apostrophe. -/
theorem dropPossessive_ne_nil {w : List Char} (hw : w ≠ []) (hhead : w.head? ≠ some '\'') :
    dropPossessive w ≠ [] := by
  unfold dropPossessive
  split
  · next base _ hending =>
    obtain ⟨ending, hmem, hword⟩ := longestEnding?_eq_some hending
    rintro rfl
    have hquote : ending.toList.head? = some '\'' := by
      simp only [List.mem_cons, Prod.mk.injEq, List.not_mem_nil, or_false] at hmem
      rcases hmem with ⟨rfl, -⟩ | ⟨rfl, -⟩ | ⟨rfl, -⟩ <;> rfl
    exact hhead (hword ▸ hquote)
  · exact hw

theorem step1a_ne_nil {w : List Char} (hw : w ≠ []) (hhead : w.head? ≠ some '\'') : step1a w ≠ [] := by
  have hplain : dropPossessive w ≠ [] := dropPossessive_ne_nil hw hhead
  unfold step1a
  dsimp only
  split
  · exact List.append_ne_nil_of_right_ne_nil _ (List.cons_ne_nil _ _)
  · refine List.append_ne_nil_of_right_ne_nil _ ?_
    split <;> exact List.cons_ne_nil _ _
  · next base _ =>
    split
    · next hvowel =>
      rintro rfl
      cases hvowel
    · exact hplain
  · exact hplain
  · exact hplain

/-- A word that ends in a double letter has another letter in front of the last one. -/
theorem dropLast_ne_nil_of_suffix {ending : String} {base : List Char} (hlength : 2 ≤ ending.length)
    (h : ending.toList.isSuffixOf base = true) : base.dropLast ≠ [] := by
  have hle := (List.isSuffixOf_iff_suffix.1 h).length_le
  rw [String.length_toList] at hle
  refine ne_nil_of_one_le_length ?_
  rw [List.length_dropLast]
  omega

theorem completeVerb_ne_nil {r : Regions} {base : List Char} (hbase : base ≠ []) : completeVerb r base ≠ [] := by
  unfold completeVerb
  split
  · exact List.append_ne_nil_of_left_ne_nil hbase _
  · split
    · next hdouble =>
      obtain ⟨ending, hmem, hsuffix⟩ := List.any_eq_true.1 hdouble
      have hlength : ∀ e ∈ ["bb", "dd", "ff", "gg", "mm", "nn", "pp", "rr", "tt"], 2 ≤ e.length := by decide
      exact dropLast_ne_nil_of_suffix (hlength ending hmem) hsuffix
    · split
      · exact List.append_ne_nil_of_left_ne_nil hbase _
      · exact hbase

theorem step1b_ne_nil {r : Regions} {w : List Char} (hw : w ≠ []) : step1b r w ≠ [] := by
  unfold step1b
  split
  · split
    · exact List.append_ne_nil_of_right_ne_nil _ (List.cons_ne_nil _ _)
    · exact hw
  · split
    · next hvowel => exact completeVerb_ne_nil (ne_nil_of_any hvowel)
    · exact hw
  · exact hw

theorem step1c_ne_nil {w : List Char} (hw : w ≠ []) : step1c w ≠ [] := by
  unfold step1c
  split
  · split
    · simp
    · exact hw
  · exact hw

theorem step5_ne_nil {r : Regions} {w : List Char} (hr : r.Inside) (hw : w ≠ []) : step5 r w ≠ [] := by
  have hfirst := hr.first
  have hsecond := hr.second
  unfold step5
  split
  · dsimp only
    split
    · next hcond =>
      refine ne_nil_of_one_le_length ?_
      rw [Bool.or_eq_true, Bool.and_eq_true, decide_eq_true_iff, decide_eq_true_iff] at hcond
      omega
    · exact hw
  · dsimp only
    split
    · next hcond =>
      rintro hnil
      rw [hnil] at hcond
      simp at hcond
    · exact hw
  · exact hw

theorem laterSteps_ne_nil {r : Regions} {w : List Char} (hr : r.Inside) (hw : w ≠ []) : laterSteps r w ≠ [] := by
  have hfirst := hr.first
  have hsecond := hr.second
  have h2 : ∀ e ∈ endings2, 1 ≤ e.2.region r := by simp [endings2, hfirst]
  have h3 : ∀ e ∈ endings3, 1 ≤ e.2.region r := by simp [endings3, hfirst, hsecond]
  have h4 : ∀ e ∈ endings4, 1 ≤ e.2.region r := by simp [endings4, hsecond]
  have hinflected : step1c (step1b r w) ≠ [] := step1c_ne_nil (step1b_ne_nil hw)
  exact step5_ne_nil hr (replaceEnding_ne_nil h4 (replaceEnding_ne_nil h3 (replaceEnding_ne_nil h2 hinflected)))

/-! ## Words -/

theorem head?_markConsonants {w : List Char} (hhead : w.head? ≠ some '\'') :
    (markConsonants w).head? ≠ some '\'' := by
  cases w with
  | nil => exact hhead
  | cons c rest =>
    rw [markConsonants, markConsonantsFrom]
    split
    · rw [List.head?_cons]
      decide
    · exact hhead

theorem markConsonants_ne_nil {w : List Char} (hw : w ≠ []) : markConsonants w ≠ [] := by
  cases w with
  | nil => exact absurd rfl hw
  | cons c rest => exact List.cons_ne_nil _ _

theorem stemList_ne_nil {w : List Char} (hw : w ≠ []) (hhead : w.head? ≠ some '\'') : stemList w ≠ [] := by
  unfold stemList
  split
  · next stem hlisted =>
    have hstems : ∀ e ∈ listedStems, e.2.toList ≠ [] := by decide
    exact hstems _ (List.mem_of_find?_eq_some hlisted)
  · split
    · exact hw
    · have hmarked : markConsonants w ≠ [] := markConsonants_ne_nil hw
      have hsingular : step1a (markConsonants w) ≠ [] := step1a_ne_nil hmarked (head?_markConsonants hhead)
      have hplain : ¬ (w.head? == some '\'') = true := by simpa using hhead
      rw [if_neg hplain]
      dsimp only
      rw [unmarkConsonants, ne_eq, List.map_eq_nil_iff]
      split
      · exact hsingular
      · exact laterSteps_ne_nil (inside_regions hmarked) hsingular

/-- **A word that does not begin with an apostrophe has a stem that is not empty.** -/
theorem stem_ne_empty {word : String} (hw : word ≠ "") (hhead : word.toList.head? ≠ some '\'') : stem word ≠ "" := by
  intro hstem
  have hnil : stemList word.toList = [] := by
    have h := congrArg String.toList hstem
    rwa [stem, String.toList_ofList] at h
  exact stemList_ne_nil (fun h => hw (String.toList_eq_nil_iff.1 h)) hhead hnil

end Retrieval.Stem
