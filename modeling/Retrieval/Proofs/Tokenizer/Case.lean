import Mathlib.Data.List.Basic
import Retrieval.Proofs.Tokenizer

/-!
# Letter case of terms

Text is composed before it is brought into lower case. Some letters combine with a mark in lower case only, and then the
terms of a text are not those of its lower-case form. They are, where the two steps may be taken in either order.

* `FoldsAlike` : the steps may be taken in either order;
* `foldsAlike_of_settled`, `foldsAlike_of_ascii` : words of which this is true;
* `Tokenizer.tokenize_lowercase` : such words have the same terms in lower case;
* `Tokenizer.tokenize_lowercase_caron` : a letter with a mark, of which it is false.
-/

namespace Retrieval

open Text Compatibility

/-- The lower-case form of a word in compatibility form is the compatibility form of the word in lower case. -/
def FoldsAlike (word : String) : Prop :=
  Compatibility.normalize (lowercase word) = lowercase (Compatibility.normalize word)

theorem foldsAlike_iff {word : String} :
    FoldsAlike word ↔ normalizeList (lowerList word.toList) = lowerList (normalizeList word.toList) := by
  rw [FoldsAlike, Compatibility.normalize, lowercase, lowercase, Compatibility.normalize, String.ofList_inj,
    String.toList_ofList, String.toList_ofList]

/-! ## Settled words -/

/-- Words whose characters are composed on their own, and so are the lower-case forms of these. -/
theorem foldsAlike_of_settled {word : String}
    (h : ∀ c ∈ word.toList, Settled c ∧ ∀ d ∈ lowerings c, Settled d) : FoldsAlike word := by
  have hlower : ∀ d ∈ lowerList word.toList, Settled d := by
    intro d hd
    obtain ⟨c, hc, hdc⟩ := exists_of_mem_lowerList hd
    exact (h c hc).2 d hdc
  rw [foldsAlike_iff, normalizeList_of_settled hlower, normalizeList_of_settled fun c hc => (h c hc).1]

theorem composeSyllable?_of_ascii {a b : Char} (hb : b.toNat < 128) : composeSyllable? a b = none := by
  unfold composeSyllable?
  simp only [Bool.and_eq_true, decide_eq_true_eq]
  rw [if_neg (by omega), if_neg (by omega)]

theorem begins_of_ascii {c : Char} (hc : c.toNat < 128) : Begins c where
  class_zero := by
    have hmarks : (triples (cells combiningRows)).all (fun run => 128 ≤ run.1) = true := by decide +kernel
    by_contra hclass
    obtain ⟨lo, hi, k, hmem, hlo, -⟩ := exists_run_of_combiningClass (by decide +kernel) hclass
    have hfirst := of_decide_eq_true (List.all_eq_true.1 hmarks _ hmem)
    omega
  not_second a := by
    have hseconds : (triples (cells compositeRows)).all (fun t => 128 ≤ t.2.1) = true := by decide +kernel
    cases hcompose : compose? a c with
    | none => rfl
    | some d =>
      rcases mem_triples_of_compose? hcompose with hsyllable | ⟨n, hmem, -⟩
      · rw [composeSyllable?_of_ascii hc] at hsyllable
        cases hsyllable
      · have hsecond : 128 ≤ c.toNat := of_decide_eq_true (List.all_eq_true.1 hseconds _ hmem)
        omega

theorem expand_of_lt {c : Char} (hc : c.toNat < 0xA0) : expand c = [c] := by
  have hsyllable : ¬ (0xAC00 ≤ c.toNat && c.toNat < 0xD7A4) = true := by
    simp only [Bool.and_eq_true, decide_eq_true_eq]
    omega
  rw [expand, if_neg hsyllable, if_pos hc]

theorem settled_of_ascii {c : Char} (hc : c.toNat < 128) : Settled c :=
  (begins_of_ascii hc).settled (expand_of_lt (by omega))

theorem ascii_of_mem_lowerings {c d : Char} (hc : c.toNat < 128) (hd : d ∈ lowerings c) : d.toNat < 128 := by
  have himages : CodeMap.entriesAll (fun key rest => 128 ≤ key || (CodeMap.frontImage rest).all (·.toNat < 128))
      (cells lowerRows) = true := by decide +kernel
  have hsigma : c ≠ 'Σ' := by
    rintro rfl
    exact absurd hc (by decide)
  rw [lowerings, if_neg hsigma, lowerChar] at hd
  cases hfind : lowerForms.find? c with
  | none =>
    rw [hfind] at hd
    rwa [List.mem_singleton.1 hd]
  | some image =>
    rw [hfind] at hd
    obtain ⟨rest, rfl, himage⟩ := CodeMap.exists_of_find? himages hfind
    rw [decide_eq_false (by omega), Bool.false_or] at himage
    exact of_decide_eq_true (List.all_eq_true.1 himage d hd)

theorem foldsAlike_of_ascii {word : String} (h : ∀ c ∈ word.toList, c.toNat < 128) : FoldsAlike word :=
  foldsAlike_of_settled fun c hc =>
    ⟨settled_of_ascii (h c hc), fun _ hd => settled_of_ascii (ascii_of_mem_lowerings (h c hc) hd)⟩

namespace Tokenizer

/-! ## Words in lower case -/

/-- The terms of a text in lower case are those of its words in lower case. -/
theorem tokenize_lowercase_eq_flatMap_words (t : Tokenizer) (text : String) :
    t.tokenize (lowercase text) = (words text).flatMap fun word => t.tokenize (lowercase word) := by
  have hlist (s : String) : t.tokenize (lowercase s) = t.listTerms (lowerList s.toList) := by
    rw [tokenize, normalForm, lowercase, String.toList_ofList]
    rfl
  have happend (x : List Char) (c : Char) (y : List Char) (hc : isBlank c = true) :
      t.listTerms (lowerList (x ++ c :: y)) = t.listTerms (lowerList x) ++ t.listTerms (lowerList y) := by
    have huncased : Uncased c := ⟨caseIgnorable_of_isBlank hc, cased_of_isBlank hc⟩
    rw [lowerList_append_uncased huncased (ne_sigma_of_isBlank hc), lowerChar_of_isBlank hc, List.append_assoc,
      List.singleton_append, t.listTerms_append hc]
  rw [hlist, eq_flatMap_wordLists (fun s => t.listTerms (lowerList s)) t.listTerms_nil happend text.toList, words,
    List.flatMap_map]
  simp only [hlist, String.toList_ofList]

theorem tokenize_lowercase_of_foldsAlike (t : Tokenizer) {word : String} (h : FoldsAlike word) :
    t.tokenize (lowercase word) = t.tokenize word := by
  rw [tokenize, tokenize, normalForm, normalForm, lowercase, String.toList_ofList, foldsAlike_iff.1 h,
    lowerList_lowerList]

/-- **A text has the terms of its lower-case form, if all of its words fold alike.** Words of settled characters do, and
so do all words in ASCII. -/
theorem tokenize_lowercase (t : Tokenizer) (text : String) :
    (t.tokenize (lowercase text) = (words text).flatMap fun word => t.tokenize (lowercase word)) ∧
    ((∀ word ∈ words text, FoldsAlike word) → t.tokenize (lowercase text) = t.tokenize text) ∧
    (∀ word, (∀ c ∈ word.toList, Settled c ∧ ∀ d ∈ lowerings c, Settled d) → FoldsAlike word) ∧
    (∀ word, (∀ c ∈ word.toList, c.toNat < 128) → FoldsAlike word) := by
  refine ⟨t.tokenize_lowercase_eq_flatMap_words text, fun h => ?_, fun _ => foldsAlike_of_settled,
    fun _ => foldsAlike_of_ascii⟩
  rw [tokenize_lowercase_eq_flatMap_words, tokenize_eq_flatMap_words]
  exact List.flatMap_congr fun word hword => t.tokenize_lowercase_of_foldsAlike (h word hword)

theorem tokenize_lowercase_running :
    (∀ word ∈ words "Running FAST", ∀ c ∈ word.toList, c.toNat < 128) ∧
    (∀ word ∈ words "Running FAST", ∀ c ∈ word.toList, Settled c ∧ ∀ d ∈ lowerings c, Settled d) ∧
    (∀ word ∈ words "Running FAST", FoldsAlike word) ∧
    ({ stem := true } : Tokenizer).tokenize (lowercase "Running FAST") =
      ({ stem := true } : Tokenizer).tokenize "Running FAST" := by
  have hascii : ∀ word ∈ words "Running FAST", ∀ c ∈ word.toList, c.toNat < 128 := by
    have hall : (words "Running FAST").all (fun word => word.toList.all (·.toNat < 128)) = true := by decide +kernel
    intro word hword c hc
    exact of_decide_eq_true (List.all_eq_true.1 (List.all_eq_true.1 hall word hword) c hc)
  have hsettled : ∀ word ∈ words "Running FAST", ∀ c ∈ word.toList, Settled c ∧ ∀ d ∈ lowerings c, Settled d :=
    fun word hword c hc => ⟨settled_of_ascii (hascii word hword c hc),
      fun _ hd => settled_of_ascii (ascii_of_mem_lowerings (hascii word hword c hc) hd)⟩
  obtain ⟨-, hterms, hfolds, -⟩ := tokenize_lowercase { stem := true } "Running FAST"
  have halike : ∀ word ∈ words "Running FAST", FoldsAlike word := fun word hword => hfolds word (hsettled word hword)
  exact ⟨hascii, hsettled, halike, hterms halike⟩

/-! ## A letter that combines in lower case only -/

theorem expand_caron : expand '\u030C' = ['\u030C'] := by
  have hcells : CodeMap.entriesAll (fun key _ => key != 0x30C) (cells expansionRows) = true := by
    simp only [expansionRows, cells_append]
    iterate 8 refine CodeMap.entriesAll_append (fun _ _ h => h) ?_ (by decide +kernel)
    decide +kernel
  have hfind : expansions.find? '\u030C' = none := by
    cases hfind : expansions.find? '\u030C' with
    | none => rfl
    | some image =>
      obtain ⟨rest, -, hkey⟩ := CodeMap.exists_of_find? hcells hfind
      cases hkey
  rw [expand, if_neg (by decide), if_neg (by decide), hfind]
  rfl

theorem normalizeList_caron {c : Char} (hc : c.toNat < 0xA0) :
    normalizeList [c, '\u030C'] = compose (orderMarks [c, '\u030C']) := by
  rw [normalizeList, List.flatMap_cons, List.flatMap_cons, expand_of_lt hc, expand_caron]
  rfl

/-- There is a small letter with a caron that has no capital. Its terms are not those of the capital letter and the
mark. -/
theorem tokenize_lowercase_caron :
    ({} : Tokenizer).tokenize "J\u030C" = ["j"] ∧ lowercase "J\u030C" = "j\u030C" ∧
    ({} : Tokenizer).tokenize "j\u030C" = ["\u01F0"] ∧
    ({} : Tokenizer).tokenize (lowercase "J\u030C") ≠ ({} : Tokenizer).tokenize "J\u030C" := by
  have hcapital : ({} : Tokenizer).tokenize "J\u030C" = ["j"] := by
    have hform : normalizeList "J\u030C".toList = _ := normalizeList_caron (by decide)
    rw [tokenize, normalForm, hform]
    decide +kernel
  have hsmall : ({} : Tokenizer).tokenize "j\u030C" = ["\u01F0"] := by
    have hform : normalizeList "j\u030C".toList = _ := normalizeList_caron (by decide)
    rw [tokenize, normalForm, hform]
    decide +kernel
  have hlower : lowercase "J\u030C" = "j\u030C" := by decide +kernel
  refine ⟨hcapital, hlower, hsmall, ?_⟩
  rw [hlower, hcapital, hsmall]
  decide

end Tokenizer

end Retrieval
