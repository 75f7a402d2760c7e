import Mathlib.Analysis.SpecialFunctions.Log.Base
import Retrieval.Proofs.Index.Accessors
import Retrieval.Proofs.Index.Selection

/-!
# Champions under either weighting

Within one term all documents have the same rarity, so that their weights stand in the order of the frequencies, whether
they are products or sums. Only where a term is in every document its rarity is zero: all products tie then, and ids
decide. This is said of champion lists by weights that are not rounded.

* `Champions.OrderAlike`, `Champions.OrderAlike.top_eq` : scores that order the frequencies of a list alike;
* `Champions.top_const` : the champions where all scores tie;
* `Scale.Exact` : what is asked of numbers that are not rounded;
* `Store.orderAlike_rank`, `Store.combine_eq_zero` : exact weights are in the order of the frequencies, or they tie;
* `Store.Counts.championsOf?_iff_leading`, `Store.Counts.championsOf?_iff_take` : the champions in either case;
* `Index.postings_weighting`, `Index.same_postings` : weighting does not touch the postings;
* `Index.champions_by_frequency` : the champions under either weighting after every history;
* `Scale.exact_real` : real numbers are exact.
-/

namespace Retrieval

namespace Champions

/-! ## Scores that order alike -/

section Alike
variable {Score Score' : Type} [LinearOrder Score] [LinearOrder Score'] {score : Nat → Score} {score' : Nat → Score'}
  {list : List Posting}

/-- Two scores put the frequencies of a list in the same order. -/
def OrderAlike (score : Nat → Score) (score' : Nat → Score') (list : List Posting) : Prop :=
  ∀ p ∈ list, ∀ q ∈ list, score p.frequency ≤ score q.frequency ↔ score' p.frequency ≤ score' q.frequency

theorem ranked_eq_map_mergeSort {before : Posting → Posting → Bool} (h : ∀ p ∈ list, ∀ q ∈ list,
    before p q = ranksBefore (p.doc, score p.frequency) (q.doc, score q.frequency)) :
    ranked score list = (list.mergeSort before).map (·.doc) := by
  rw [ranked, scored, ← List.map_mergeSort h, List.map_map]
  rfl

/-- **Scores that order alike choose the same champions.** -/
theorem OrderAlike.top_eq (h : OrderAlike score score' list) (r : Nat) : top score r list = top score' r list := by
  have hbefore : ∀ p ∈ list, ∀ q ∈ list, ranksBefore (p.doc, score p.frequency) (q.doc, score q.frequency) =
      ranksBefore (p.doc, score' p.frequency) (q.doc, score' q.frequency) := by
    intro p hp q hq
    rw [Bool.eq_iff_iff, ranksBefore_iff, ranksBefore_iff]
    simp only [← not_le, le_antisymm_iff, h p hp q hq, h q hq p hp]
  rw [top_eq_take, top_eq_take, ranked_eq_map_mergeSort hbefore, ranked_eq_map_mergeSort fun _ _ _ _ => rfl]

/-- **Where all scores tie, ids decide.** -/
theorem top_const (hascending : list.Pairwise fun p q => p.doc < q.doc) (c : Score) (r : Nat) :
    top (fun _ => c) r list = (list.map (·.doc)).take r := by
  have hbefore : ∀ p ∈ list, ∀ q ∈ list, decide (p.doc ≤ q.doc) = ranksBefore (p.doc, c) (q.doc, c) := by
    intro p _ q _
    rw [Bool.eq_iff_iff, ranksBefore_iff]
    simp
  rw [top_eq_take, ranked_eq_map_mergeSort hbefore,
    List.mergeSort_of_pairwise (hascending.imp fun hlt => decide_eq_true (Nat.le_of_lt hlt))]

end Alike

end Champions

/-! ## Exact weights -/

/-- Numbers that are not rounded, as far as weights go: products and sums grow with the frequency, and the logarithm is
zero at one and positive above. -/
structure Scale.Exact (α : Type) [Zero α] [One α] [Add α] [Mul α] [Div α] [LinearOrder α] [Scale α] : Prop where
  mul_lt_mul (rarity : α) (hrarity : 0 < rarity) (m n : Nat) (h : m < n) : ofCount m * rarity < ofCount n * rarity
  add_lt_add (rarity : α) (hrarity : 0 ≤ rarity) (m n : Nat) (h : m < n) : ofCount m + rarity < ofCount n + rarity
  mul_zero (n : Nat) : ofCount n * (0 : α) = 0
  div_self (n : Nat) (hn : 0 < n) : ofCount n / ofCount n = (1 : α)
  one_lt_div (df n : Nat) (hdf : 0 < df) (h : df < n) : (1 : α) < ofCount n / ofCount df
  log10_one : log10 (1 : α) = 0
  log10_pos (x : α) (h : 1 < x) : 0 < log10 x

section Exact
variable {α : Type} [Zero α] [One α] [Add α] [Mul α] [Div α] [LinearOrder α] [Scale α]

/-- All products with a rarity of zero tie. -/
theorem Weighting.combine_product_zero (h : Scale.Exact α) (frequency : Nat) :
    Weighting.product.combine frequency (0 : α) = 0 := h.mul_zero frequency

/-- Sums are in the order of the frequencies, and so are products if the rarity is positive. -/
theorem Weighting.combine_le_combine_iff (h : Scale.Exact α) {w : Weighting} {rarity : α} (hrarity : 0 ≤ rarity)
    (hw : w = .sum ∨ 0 < rarity) {m n : Nat} : w.combine m rarity ≤ w.combine n rarity ↔ m ≤ n := by
  have hmono : StrictMono fun frequency => w.combine frequency rarity := by
    intro m n hlt
    cases w with
    | product => exact h.mul_lt_mul rarity (hw.resolve_left nofun) m n hlt
    | sum => exact h.add_lt_add rarity hrarity m n hlt
  exact hmono.le_iff_le

namespace Store

variable {s : Store} {df : Nat}

theorem idf_pos (h : Scale.Exact α) (hpos : 0 < df) (hlt : df < s.documentCount) :
    (0 : α) < Weight.idf s.documentCount df :=
  h.log10_pos _ (h.one_lt_div df s.documentCount hpos hlt)

theorem idf_eq_zero (h : Scale.Exact α) (hpos : 0 < df) (heq : df = s.documentCount) :
    Weight.idf s.documentCount df = (0 : α) := by
  subst heq
  rw [Weight.idf, h.div_self _ hpos, h.log10_one]

/-- **Exact weights are in the order of the frequencies**, unless they are products with a rarity of zero. -/
theorem orderAlike_rank {Score : Type} [LinearOrder Score] {rank : α → Score} (h : Scale.Exact α)
    (hrank : StrictMono rank) (hpos : 0 < df) (hle : df ≤ s.documentCount)
    (hw : s.weighting = .sum ∨ df < s.documentCount) (list : List Posting) :
    Champions.OrderAlike (fun n => rank (s.combine df n)) (fun n => n) list := by
  have hrarity : (0 : α) ≤ Weight.idf s.documentCount df := by
    rcases Nat.lt_or_eq_of_le hle with hlt | heq
    · exact (idf_pos h hpos hlt).le
    · exact (idf_eq_zero h hpos heq).ge
  intro p _ q _
  exact hrank.le_iff_le.trans (Weighting.combine_le_combine_iff h hrarity (hw.imp_right (idf_pos h hpos)))

theorem combine_eq_zero (h : Scale.Exact α) (hpos : 0 < df) (hproduct : s.weighting = .product)
    (heq : df = s.documentCount) : (fun n => (s.combine df n : α)) = fun _ => 0 := by
  funext frequency
  rw [combine, hproduct, idf_eq_zero h hpos heq, Weighting.combine_product_zero h]

end Store

end Exact

/-! ## Champions -/

namespace Store

section Counted
variable {s : Store} {term : String} {count : DocId → Nat} {r : Nat} {best : List DocId}

theorem Counts.postingsOf_of_eq_some (h : s.Counts term count) {list : List Posting}
    (hlist : s.postings[term]? = some list) :
    s.postingsOf term = list ∧ Lists list count ∧ 0 < list.length ∧ s.documentFrequency term = list.length := by
  have hpostings : s.postingsOf term = list := by
    rw [postingsOf, Std.TreeMap.getD_eq_getD_getElem?, hlist, Option.getD_some]
  exact ⟨hpostings, h.lists_of_eq_some hlist, List.length_pos_of_ne_nil (h.ne_nil_of_eq_some hlist),
    by rw [documentFrequency, hpostings]⟩

/-- The documents with the greatest frequencies, by the list of postings. -/
theorem Counts.leading_iff (h : s.Counts term count) :
    Champions.Leading (s.frequency term) (s.docSet term).ids r best ↔
      best = Champions.top (fun n => n) r (s.postingsOf term) := by
  have hvalue : ∀ p ∈ s.postingsOf term, s.frequency term p.doc = p.frequency := by
    intro p hp
    rw [h.frequency_eq, ((h.lists.mem_iff p).1 hp).2]
  rw [h.ids_docSet]
  exact Champions.leading_iff hvalue h.nodup_docsWith

section Rank
variable {α Score : Type} [Add α] [Mul α] [Div α] [Scale α] [LinearOrder Score] {rank : α → Score}

/-- **Where weights are in the order of the frequencies, the champions are the documents with the greatest
frequencies.** -/
theorem Counts.championsOf?_iff_leading (h : s.Counts term count)
    (halike : 0 < s.documentFrequency term → Champions.OrderAlike
      (fun n => rank (s.combine (s.documentFrequency term) n)) (fun n => n) (s.postingsOf term)) :
    (s.rankChampions rank r).championsOf? term = some best ↔
      s.contains term = true ∧ Champions.Leading (s.frequency term) (s.docSet term).ids r best := by
  rw [championsOf?_rankChampions, contains, Std.TreeMap.contains_eq_isSome_getElem?]
  cases hlist : s.postings[term]? with
  | none => simp
  | some list =>
    obtain ⟨hpostings, hlists, hpos, hdf⟩ := h.postingsOf_of_eq_some hlist
    rw [hdf, hpostings] at halike
    rw [Option.map_some, (halike hpos).top_eq r, h.leading_iff, hpostings, Option.some.injEq, eq_comm]
    simp

/-- **Where all weights tie, the champions are the documents with the smallest ids.** -/
theorem Counts.championsOf?_iff_take (h : s.Counts term count) (c : Score)
    (hconst : 0 < s.documentFrequency term → (fun n => rank (s.combine (s.documentFrequency term) n)) = fun _ => c) :
    (s.rankChampions rank r).championsOf? term = some best ↔
      s.contains term = true ∧ best = (s.docSet term).ids.take (min r (s.documentFrequency term)) := by
  rw [championsOf?_rankChampions, contains, Std.TreeMap.contains_eq_isSome_getElem?]
  cases hlist : s.postings[term]? with
  | none => simp
  | some list =>
    obtain ⟨hpostings, hlists, hpos, hdf⟩ := h.postingsOf_of_eq_some hlist
    have hlength : min r list.length = min r (list.map (·.doc)).length := by rw [List.length_map]
    rw [hdf] at hconst
    rw [Option.map_some, hconst hpos, Champions.top_const hlists.ascending, h.ids_docSet, docsWith, hpostings, hdf,
      hlength, ← List.take_eq_take_min, Option.some.injEq, eq_comm]
    simp

theorem isSome_championsOf?_rankChampions (s : Store) (rank : α → Score) (r : Nat) (term : String) :
    ((s.rankChampions rank r).championsOf? term).isSome = s.contains term := by
  rw [championsOf?_rankChampions, Option.isSome_map, contains, Std.TreeMap.contains_eq_isSome_getElem?]

end Rank

end Counted

end Store

/-! ## Histories -/

namespace Index

/-- The postings of a history and its addresses do not depend on how terms are weighed. -/
theorem postings_weighting (t : Tokenizer) (w w' : Weighting) (updates : List Update) :
    (history t w updates).store.postings = (history t w' updates).store.postings ∧
      (history t w updates).vocabulary = (history t w' updates).vocabulary := by
  induction updates using List.reverseRecOn with
  | nil => exact ⟨rfl, rfl⟩
  | append_singleton updates u ih =>
    rw [history_append, history_append]
    cases u with
    | corpus documents =>
      have hgather : (history t w updates).gather documents = (history t w' updates).gather documents := by
        rw [gather, gather, tokenizer_history, tokenizer_history, ih.2]
      have hpostings (w : Weighting) : ((history t w updates).update (.corpus documents)).store.postings =
          .ofDocuments ((history t w updates).gather documents).2 := rfl
      have hvocabulary (w : Weighting) : ((history t w updates).update (.corpus documents)).vocabulary =
          ((history t w updates).gather documents).1 := rfl
      rw [hpostings, hpostings, hvocabulary, hvocabulary, hgather]
      exact ⟨rfl, rfl⟩
    | champions r => exact ih

/-- What is read off the postings does not depend on how terms are weighed. -/
theorem same_postings (t : Tokenizer) (updates : List Update) (term : String) :
    let product := (history t .product updates).store
    let sum := (history t .sum updates).store
    product.postings = sum.postings ∧ product.documentCount = sum.documentCount ∧
    product.contains term = sum.contains term ∧ product.documentFrequency term = sum.documentFrequency term ∧
    product.docSet term = sum.docSet term ∧ product.frequency term = sum.frequency term := by
  intro product sum
  obtain ⟨hpostings, hvocabulary⟩ := postings_weighting t .product .sum updates
  have hcount : product.documentCount = sum.documentCount := by
    rw [documentCount_history, hvocabulary, ← documentCount_history]
  have hlist : product.postingsOf term = sum.postingsOf term := by rw [Store.postingsOf, hpostings, Store.postingsOf]
  refine ⟨hpostings, hcount, ?_, congrArg List.length hlist, ?_, ?_⟩
  · rw [Store.contains, hpostings, Store.contains]
  · rw [Store.docSet, Store.docsWith, hlist, Store.docSet, Store.docsWith]
  · funext doc
    rw [Store.frequency, hlist, Store.frequency]

/-- **Weighting changes the champions of terms only that are in every document.** Take a history with products and with
sums, numbers that are not rounded with ranks in their order, and champion lists for at most `r` documents a term. The
lists of an index are made like this, of floating-point numbers.
* Both have the same postings, and champion lists for the terms that occur.
* By sums the champions of a term are its documents with the greatest frequencies, `r` of them or as many as there are,
  and of equal frequencies the smaller ids come first.
* By products they are the same unless the term is in every document; then they are its documents with the smallest
  ids. -/
theorem champions_by_frequency {α Score : Type} [Zero α] [One α] [Add α] [Mul α] [Div α] [LinearOrder α] [Scale α]
    [LinearOrder Score] {rank : α → Score} (h : Scale.Exact α) (hrank : StrictMono rank) (t : Tokenizer)
    (updates : List Update) (r : Nat) (term : String) :
    let product := (history t .product updates).store
    let sum := (history t .sum updates).store
    let champions (s : Store) := (s.rankChampions rank r).championsOf? term
    let df := sum.documentFrequency term
    let n := sum.documentCount
    (∀ s : Store, s.updateChampions r = s.rankChampions Weight.rank r) ∧
    (product.postings = sum.postings ∧ product.documentCount = n ∧ df ≤ n) ∧
    ((champions product).isSome = sum.contains term ∧ (champions sum).isSome = sum.contains term) ∧
    (∀ list, champions sum = some list ↔
      sum.contains term = true ∧ Champions.Leading (sum.frequency term) (sum.docSet term).ids r list) ∧
    (df < n → champions product = champions sum) ∧
    (df = n → ∀ list, champions product = some list ↔
      sum.contains term = true ∧ list = (sum.docSet term).ids.take (min r df)) := by
  intro product sum champions df n
  have hproduct := counts_history t .product updates term
  have hsum := counts_history t .sum updates term
  obtain ⟨hpostings, hcount, hcontains, hdf, hdocs, hfrequency⟩ := same_postings t updates term
  have hle : df ≤ n := by
    have hle := documentFrequency_le t .sum updates term
    rwa [← documentCount_history] at hle
  have hproductLe : product.documentFrequency term ≤ product.documentCount := by
    rw [hdf, hcount]
    exact hle
  have hbySum (best : List DocId) : champions sum = some best ↔
      sum.contains term = true ∧ Champions.Leading (sum.frequency term) (sum.docSet term).ids r best :=
    hsum.championsOf?_iff_leading fun hpos =>
      Store.orderAlike_rank h hrank hpos hle (.inl (weighting_history t .sum updates)) _
  have hsome (s : Store) : (champions s).isSome = s.contains term := s.isSome_championsOf?_rankChampions _ r term
  refine ⟨fun s => rfl, ⟨hpostings, hcount, hle⟩, ⟨(hsome product).trans hcontains, hsome sum⟩, hbySum,
    fun hlt => ?_, fun heq best => ?_⟩
  · apply Option.ext
    intro best
    rw [hbySum, hproduct.championsOf?_iff_leading fun hpos =>
      Store.orderAlike_rank h hrank hpos hproductLe (.inr (by rw [hdf, hcount]; exact hlt)) _,
      hcontains, hdocs, hfrequency]
  · have hzero (hpos : 0 < product.documentFrequency term) :
        (fun n => rank (product.combine (product.documentFrequency term) n)) = fun _ => rank 0 :=
      congrArg (rank ∘ ·)
        (Store.combine_eq_zero h hpos (weighting_history t .product updates) (by rw [hdf, hcount]; exact heq))
    rw [hproduct.championsOf?_iff_take (rank 0) hzero, hcontains, hdocs, hdf]

end Index

/-! ## Real numbers -/

noncomputable instance : Scale ℝ where
  ofCount n := n
  log10 := Real.logb 10

theorem Scale.exact_real : Scale.Exact ℝ where
  mul_lt_mul rarity hrarity m n h := mul_lt_mul_of_pos_right (Nat.cast_lt.2 h) hrarity
  add_lt_add rarity _ m n h := add_lt_add_left (Nat.cast_lt.2 h) rarity
  mul_zero n := mul_zero (n : ℝ)
  div_self n hn := div_self (Nat.cast_ne_zero.2 hn.ne')
  one_lt_div df n hdf h := (one_lt_div (Nat.cast_pos.2 hdf)).2 (Nat.cast_lt.2 h)
  log10_one := Real.logb_one
  log10_pos x h := Real.logb_pos (by norm_num) h

namespace Index

def exampleUniversal : List Update := [.champions 1, .corpus [("u", "a"), ("v", "a a")]]

/-- A third document without the term. -/
def exampleRare : List Update := [.champions 1, .corpus [("u", "a"), ("v", "a a"), ("w", "")]]

theorem postingsOf_example {updates : List Update}
    (hfirst : textOf? (history {} .sum updates).vocabulary (latest updates) 0 = some "a")
    (hsecond : textOf? (history {} .sum updates).vocabulary (latest updates) 1 = some "a a")
    (hothers : ∀ doc, occurrences {} (textOf? (history {} .sum updates).vocabulary (latest updates) (doc + 2)) "a" = 0) :
    (history {} .sum updates).store.postingsOf "a" = [⟨0, 1⟩, ⟨1, 2⟩] := by
  have htwice : ({} : Tokenizer).tokenize "a a" = ["a", "a"] := by
    have hwords : Text.words "a a" = ["a", "a"] := by decide
    rw [Tokenizer.tokenize_eq_flatMap_words, hwords, List.flatMap_cons, List.flatMap_singleton, Tokenizer.tokenize_letter]
    rfl
  have hcounts := counts_history {} .sum updates "a"
  have hlists : Lists [⟨0, 1⟩, ⟨1, 2⟩] fun doc => if doc = 0 then 1 else if doc = 1 then 2 else 0 := by
    refine ⟨by decide, fun ⟨doc, n⟩ => ?_⟩
    simp only [List.mem_cons, Posting.mk.injEq, List.not_mem_nil, or_false]
    grind
  refine hcounts.lists.ext hlists fun doc => ?_
  rcases doc with _ | _ | doc
  · rw [hfirst, occurrences, Tokenizer.tokenize_letter]
    rfl
  · rw [hsecond, occurrences, htwice]
    rfl
  · exact hothers doc

/-- The champion by frequency, and the first document. -/
theorem leading_example {s : Store} {count : DocId → Nat} (h : s.Counts "a" count)
    (hlist : s.postingsOf "a" = [⟨0, 1⟩, ⟨1, 2⟩]) :
    s.contains "a" = true ∧ Champions.Leading (s.frequency "a") (s.docSet "a").ids 1 [1] ∧
      [0] = (s.docSet "a").ids.take (min 1 (s.documentFrequency "a")) := by
  have hids := h.ids_docSet
  rw [Store.docsWith, hlist] at hids
  refine ⟨?_, ?_, ?_⟩
  · rw [Store.contains, Std.TreeMap.contains_eq_isSome_getElem?, h.isSome_iff_documentFrequency,
      Store.documentFrequency, hlist]
    decide
  · rw [hids, funext fun doc => show s.frequency "a" doc = _ by rw [Store.frequency, hlist]]
    refine ⟨rfl, by decide, by decide, List.pairwise_singleton _ _, ?_⟩
    unfold Champions.Precedes
    decide
  · rw [hids, Store.documentFrequency, hlist]
    rfl

/-- One champion by either weighting: of a term that is in every document the smallest id by products and the greatest
frequency by sums; once there is a document without the term, the greatest frequency by both. -/
theorem champions_by_frequency_universal :
    let champion (w : Weighting) (updates : List Update) :=
      ((history {} w updates).store.rankChampions (fun weight : ℝ => weight) 1).championsOf? "a"
    Scale.Exact ℝ ∧
    (champion .product exampleUniversal = some [0] ∧ champion .sum exampleUniversal = some [1]) ∧
    champion .product exampleRare = some [1] ∧ champion .sum exampleRare = some [1] := by
  intro champion
  have huniversal : (history {} .sum exampleUniversal).store.postingsOf "a" = [⟨0, 1⟩, ⟨1, 2⟩] :=
    postingsOf_example (by decide) (by decide) fun _ => rfl
  have hothers (doc : DocId) :
      occurrences {} (textOf? (history {} .sum exampleRare).vocabulary (latest exampleRare) (doc + 2)) "a" = 0 := by
    cases doc with
    | zero =>
      have hempty : textOf? (history {} .sum exampleRare).vocabulary (latest exampleRare) 2 = some "" := by decide
      have hwords : Text.words "" = [] := by decide
      rw [Nat.zero_add, hempty, occurrences, Tokenizer.tokenize_eq_flatMap_words, hwords]
      rfl
    | succ doc => rfl
  have hrare : (history {} .sum exampleRare).store.postingsOf "a" = [⟨0, 1⟩, ⟨1, 2⟩] :=
    postingsOf_example (by decide) (by decide) hothers
  have hall : (history {} .sum exampleUniversal).store.documentFrequency "a" =
      (history {} .sum exampleUniversal).store.documentCount := by
    rw [Store.documentFrequency, huniversal]
    rfl
  have hsome : (history {} .sum exampleRare).store.documentFrequency "a" <
      (history {} .sum exampleRare).store.documentCount := by
    rw [Store.documentFrequency, hrare]
    decide
  obtain ⟨hcontains, hleading, hfirst⟩ :=
    leading_example (counts_history {} .sum exampleUniversal "a") huniversal
  obtain ⟨hcontains', hleading', -⟩ := leading_example (counts_history {} .sum exampleRare "a") hrare
  obtain ⟨-, -, -, hbySum, -, hbyProduct⟩ :=
    champions_by_frequency Scale.exact_real (strictMono_id (α := ℝ)) {} exampleUniversal 1 "a"
  obtain ⟨-, -, -, hbySum', hsame, -⟩ :=
    champions_by_frequency Scale.exact_real (strictMono_id (α := ℝ)) {} exampleRare 1 "a"
  have hchampion : champion .sum exampleRare = some [1] := (hbySum' _).2 ⟨hcontains', hleading'⟩
  exact ⟨Scale.exact_real, ⟨(hbyProduct hall _).2 ⟨hcontains, hfirst⟩, (hbySum _).2 ⟨hcontains, hleading⟩⟩,
    (hsame hsome).trans hchampion, hchampion⟩

end Index

end Retrieval
