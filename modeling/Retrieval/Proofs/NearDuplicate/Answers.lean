import Retrieval.Proofs.NearDuplicate

/-!
# Answers of the near-duplicate filter

A filter that is given texts answers each of them, and remembers those that it does not reject.

* `NearDuplicateFilter.feed` : the answers to texts, with the filter behind them;
* `NearDuplicateFilter.keptOf` : what was answered with `false`;
* `NearDuplicateFilter.isDuplicate_mono`, `NearDuplicateFilter.isDuplicate_of_forall_mem` : a filter that remembers more
  rejects more, and it rejects what it remembers in full;
* `NearDuplicateFilter.entries_congr` : texts with the same windows have the same super-shingles;
* `NearDuplicateFilter.Fed` : the filter behind texts remembers those that it has kept, and would keep them again;
* `NearDuplicateFilter.answers_of_feed` : what holds of all answers.
-/

namespace Retrieval.NearDuplicateFilter

variable {f g : NearDuplicateFilter} {text : String}

/-! ## One text -/

/-- A text is rejected by a filter that does not change. -/
theorem check_eq_true_iff : f.check text = .ok (true, g) ↔ f.isDuplicate (entries text) = true ∧ g = f := by
  rw [check_eq]
  cases f.isDuplicate (entries text) with
  | true => simp [eq_comm]
  | false => simp

theorem check_eq_false_iff :
    f.check text = .ok (false, g) ↔ f.isDuplicate (entries text) = false ∧ g = f.remember (entries text) := by
  rw [check_eq]
  cases f.isDuplicate (entries text) with
  | true => simp
  | false => simp [eq_comm]

theorem remember_nil (f : NearDuplicateFilter) : f.remember [] = f := by
  rw [remember, Std.TreeSet.insertMany_nil]

theorem isDuplicate_mono (hthreshold : g.threshold = f.threshold) (hseen : ∀ h ∈ f.seen, h ∈ g.seen)
    {print : List UInt64} (h : f.isDuplicate print = true) : g.isDuplicate print = true := by
  rw [isDuplicate, Bool.and_eq_true, decide_eq_true_iff] at h ⊢
  obtain ⟨hne, hshared⟩ := h
  have hmore : print.countP f.seen.contains ≤ print.countP g.seen.contains := by
    refine List.countP_mono_left fun entry _ hentry => ?_
    rw [Std.TreeSet.contains_iff_mem] at hentry ⊢
    exact hseen entry hentry
  rw [hthreshold]
  exact ⟨hne, hshared.trans hmore⟩

/-- A fingerprint that is remembered in full is rejected, since no more than all of it is asked for. -/
theorem isDuplicate_of_forall_mem {print : List UInt64} (hne : print ≠ []) (h : ∀ entry ∈ print, entry ∈ f.seen) :
    f.isDuplicate print = true := by
  have hall : print.countP f.seen.contains = print.length :=
    List.countP_eq_length.2 fun entry hentry => Std.TreeSet.contains_iff_mem.2 (h entry hentry)
  rw [isDuplicate, hall, Bool.and_eq_true, decide_eq_true_iff]
  refine ⟨?_, Nat.min_le_right _ _⟩
  simpa using hne

/-- Two texts have the same windows of words, however often and in whatever order. -/
def SameWindows (text other : String) : Prop :=
  ∀ w, w ∈ windows shingleWidth (Text.words text) ↔ w ∈ windows shingleWidth (Text.words other)

/-- **Texts with the same windows have the same super-shingles.** -/
theorem entries_congr {other : String} (h : SameWindows text other) : entries text = entries other := by
  obtain ⟨sample, hsketch, hgroups⟩ :=
    exists_sketch (k := groupSize) (by decide) (windows shingleWidth (Text.words text)) sketchLimit
  have hother := hsketch
  rw [sketch_congr h] at hother
  rw [entries, entries, fingerprint_of_sketch hsketch hgroups, fingerprint_of_sketch hother hgroups]

/-! ## Many texts -/

/-- The answers of a filter to texts, the first one first, with the filter behind them. -/
def feed (f : NearDuplicateFilter) : List String → Except ShingleError (List Bool × NearDuplicateFilter)
  | [] => .ok ([], f)
  | text :: texts =>
    (f.check text).bind fun (duplicate, f) =>
      (f.feed texts).map fun (answers, f) => (duplicate :: answers, f)

/-- The items that were answered with `false`. -/
def keptOf {α : Type} (items : List α) (answers : List Bool) : List α :=
  ((items.zip answers).filter (!·.2)).map (·.1)

theorem keptOf_append {α : Type} {items : List α} {answers : List Bool} (h : answers.length = items.length)
    (more : List α) (moreAnswers : List Bool) :
    keptOf (items ++ more) (answers ++ moreAnswers) = keptOf items answers ++ keptOf more moreAnswers := by
  rw [keptOf, List.zip_append h.symm, List.filter_append, List.map_append]
  rfl

theorem keptOf_map {α β : Type} (g : α → β) (items : List α) (answers : List Bool) :
    keptOf (items.map g) answers = (keptOf items answers).map g := by
  rw [keptOf, keptOf, List.zip_map_left, List.filter_map, List.map_map, List.map_map]
  rfl

theorem feed_cons {duplicate : Bool} (h : f.check text = .ok (duplicate, g)) (texts : List String) :
    f.feed (text :: texts) = (g.feed texts).map fun (answers, g) => (duplicate :: answers, g) := by
  rw [feed, h]
  rfl

theorem feed_append {texts : List String} {answers : List Bool} (h : f.feed texts = .ok (answers, g))
    (more : List String) :
    f.feed (texts ++ more) = (g.feed more).map fun (later, g) => (answers ++ later, g) := by
  induction texts generalizing f answers with
  | nil =>
    cases h
    rw [List.nil_append]
    cases g.feed more <;> rfl
  | cons text texts ih =>
    obtain ⟨duplicate, next, hcheck⟩ : ∃ duplicate next, f.check text = .ok (duplicate, next) :=
      ⟨_, _, check_eq f text⟩
    rw [feed_cons hcheck] at h
    rw [List.cons_append, feed_cons hcheck]
    cases hrest : next.feed texts with
    | error e =>
      rw [hrest] at h
      cases h
    | ok behind =>
      obtain ⟨rest, last⟩ := behind
      rw [hrest] at h
      cases h
      rw [ih hrest]
      cases g.feed more <;> rfl

/-- The answers of a filter to texts, and the filter behind them: it has come to remember the super-shingles of the
texts that were kept and nothing else, and it would have come to the same by these alone, keeping all of them. -/
structure Fed (f : NearDuplicateFilter) (texts : List String) (answers : List Bool) (g : NearDuplicateFilter) :
    Prop where
  feed_eq : f.feed texts = .ok (answers, g)
  length_eq : answers.length = texts.length
  threshold_eq : g.threshold = f.threshold
  mem_seen : ∀ h, h ∈ g.seen ↔ h ∈ f.seen ∨ ∃ text ∈ keptOf texts answers, h ∈ entries text
  kept_eq : f.feed (keptOf texts answers) = .ok ((keptOf texts answers).map fun _ => false, g)

namespace Fed

variable {texts more : List String} {answers later : List Bool} {h : NearDuplicateFilter}

theorem nil (f : NearDuplicateFilter) : Fed f [] [] f where
  feed_eq := rfl
  length_eq := rfl
  threshold_eq := rfl
  mem_seen _ := by simp [keptOf]
  kept_eq := rfl

theorem rejected (hcheck : f.check text = .ok (true, g)) : Fed f [text] [true] g := by
  obtain ⟨-, rfl⟩ := check_eq_true_iff.1 hcheck
  refine ⟨?_, rfl, rfl, fun _ => ?_, rfl⟩
  · rw [feed_cons hcheck]
    rfl
  · simp [keptOf]

theorem kept (hcheck : f.check text = .ok (false, g)) : Fed f [text] [false] g := by
  have hfeed : f.feed [text] = .ok ([false], g) := by
    rw [feed_cons hcheck]
    rfl
  obtain ⟨-, rfl⟩ := check_eq_false_iff.1 hcheck
  refine ⟨hfeed, rfl, rfl, fun entry => ?_, hfeed⟩
  rw [mem_remember]
  simp [keptOf]

theorem append (hf : Fed f texts answers g) (hg : Fed g more later h) :
    Fed f (texts ++ more) (answers ++ later) h where
  feed_eq := by
    rw [feed_append hf.feed_eq, hg.feed_eq]
    rfl
  length_eq := by
    rw [List.length_append, List.length_append, hf.length_eq, hg.length_eq]
  threshold_eq := hg.threshold_eq.trans hf.threshold_eq
  mem_seen entry := by
    rw [hg.mem_seen, hf.mem_seen, keptOf_append hf.length_eq]
    simp only [List.mem_append, or_and_right, exists_or, or_assoc]
  kept_eq := by
    rw [keptOf_append hf.length_eq, feed_append hf.kept_eq, hg.kept_eq, List.map_append]
    rfl

/-- Behind more texts a filter rejects what it rejects now. -/
theorem rejects_still (hf : Fed f texts answers g) (hcheck : f.check text = .ok (true, f)) :
    g.check text = .ok (true, g) := by
  obtain ⟨hduplicate, -⟩ := check_eq_true_iff.1 hcheck
  have hseen : ∀ entry ∈ f.seen, entry ∈ g.seen := fun entry hentry => (hf.mem_seen entry).2 (Or.inl hentry)
  exact check_eq_true_iff.2 ⟨isDuplicate_mono hf.threshold_eq hseen hduplicate, rfl⟩

end Fed

/-- **A filter answers all texts.** -/
theorem exists_fed (f : NearDuplicateFilter) (texts : List String) : ∃ answers g, Fed f texts answers g := by
  induction texts using List.reverseRecOn with
  | nil => exact ⟨[], f, Fed.nil f⟩
  | append_singleton texts text ih =>
    obtain ⟨answers, g, hfed⟩ := ih
    obtain ⟨duplicate, h, hcheck⟩ : ∃ duplicate h, g.check text = .ok (duplicate, h) := ⟨_, _, check_eq g text⟩
    cases duplicate with
    | true => exact ⟨_, h, hfed.append (Fed.rejected hcheck)⟩
    | false => exact ⟨_, h, hfed.append (Fed.kept hcheck)⟩

/-- What a filter has kept it rejects from now on, and whatever has the same super-shingles. -/
theorem rejects_of_kept {other : String} (hcheck : f.check text = .ok (false, g)) (hne : entries text ≠ [])
    (hentries : entries other = entries text) : g.check other = .ok (true, g) := by
  obtain ⟨-, rfl⟩ := check_eq_false_iff.1 hcheck
  refine check_eq_true_iff.2 ⟨?_, rfl⟩
  rw [hentries]
  exact isDuplicate_of_forall_mem hne fun entry hentry => mem_remember.2 (Or.inr hentry)

/-- **The answers of a filter over a whole run.** A new filter answers any texts. Behind them:
* it remembers the super-shingles of the texts that were kept and nothing else, and a text that is rejected leaves it as
  it is;
* a text without super-shingles is kept, and leaves it as it is;
* a text that it rejects is rejected behind any more texts;
* a text with super-shingles that it keeps is rejected from then on, and so is any text with the same windows of words;
* a new filter that is given only the texts that were kept keeps all of them, and ends as this one. -/
theorem answers_of_feed (threshold : Nat) (texts : List String) :
    ∃ answers f, (new threshold).feed texts = .ok (answers, f) ∧ answers.length = texts.length ∧
      (∀ h, h ∈ f.seen ↔ ∃ text ∈ keptOf texts answers, h ∈ entries text) ∧
      (∀ text g, f.check text = .ok (true, g) → g = f) ∧
      (∀ text, entries text = [] → f.check text = .ok (false, f)) ∧
      (∀ more, ∃ later g, f.feed more = .ok (later, g) ∧
        ∀ text, f.check text = .ok (true, f) → g.check text = .ok (true, g)) ∧
      (∀ text g, f.check text = .ok (false, g) → entries text ≠ [] →
        ∀ more, ∃ later h, g.feed more = .ok (later, h) ∧
          ∀ other, SameWindows other text → h.check other = .ok (true, h)) ∧
      (new threshold).feed (keptOf texts answers) = .ok ((keptOf texts answers).map fun _ => false, f) := by
  obtain ⟨answers, f, hfed⟩ := exists_fed (new threshold) texts
  refine ⟨answers, f, hfed.feed_eq, hfed.length_eq, ?_, ?_, ?_, ?_, ?_, hfed.kept_eq⟩
  · intro h
    have hnone : h ∉ (new threshold).seen := Std.TreeSet.not_mem_emptyc
    rw [hfed.mem_seen, or_iff_right hnone]
  · intro text g hcheck
    exact (check_eq_true_iff.1 hcheck).2
  · intro text hnone
    refine check_eq_false_iff.2 ⟨?_, ?_⟩
    · rw [hnone]
      rfl
    · rw [hnone, remember_nil]
  · intro more
    obtain ⟨later, g, hmore⟩ := exists_fed f more
    exact ⟨later, g, hmore.feed_eq, fun text hcheck => hmore.rejects_still hcheck⟩
  · intro text g hcheck hne more
    obtain ⟨later, h, hmore⟩ := exists_fed g more
    refine ⟨later, h, hmore.feed_eq, fun other hsame => hmore.rejects_still ?_⟩
    exact rejects_of_kept hcheck hne (entries_congr hsame)

end Retrieval.NearDuplicateFilter
