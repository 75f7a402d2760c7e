import Mathlib.Data.Finset.Card
import Retrieval.Proofs.Ordered
import Retrieval.Proofs.Shingle

/-!
# Samples

A sketch keeps the shingles with the smallest hashes. It is a sample of a set: what is kept does not depend on how the
shingles are listed, and the sample of a union is found in the samples of its parts.

* `Sample list n sample` : the first `n` distinct shingles of a list, told by what is kept and what is left out;
* `sketchSize` : how many shingles a sketch keeps;
* `sketch_eq_ok_iff` : a sketch is the sample of its size;
* `Sample.of_between`, `Sample.mem_of_mem` : samples of fewer shingles, and of more;
* `sketch_selects_smallest` : what a sketch is;
* `exists_supershingles` : super-shingles of any text, for groups and windows of any size;
* `sketch_append` : the sketch of two lists is that of their sketches.
-/

namespace Retrieval

variable {list other sample : List Shingle} {k limit n : Nat} {s t : Shingle}

/-! ## How many shingles are distinct -/

theorem card_eq_length_distinct (list : List Shingle) : list.toFinset.card = (distinct list).length := by
  have hset : list.toFinset = (distinct list).toFinset := by
    ext s
    rw [List.mem_toFinset, List.mem_toFinset, mem_distinct]
  rw [hset, List.toFinset_card_of_nodup (pairwise_distinct list).nodup]

theorem toFinset_mono (h : ∀ s ∈ list, s ∈ other) : list.toFinset ⊆ other.toFinset := by
  intro s hs
  rw [List.mem_toFinset] at hs ⊢
  exact h s hs

theorem card_toFinset_mono (h : ∀ s ∈ list, s ∈ other) : list.toFinset.card ≤ other.toFinset.card :=
  Finset.card_le_card (toFinset_mono h)

/-! ## Samples of a list -/

/-- `n` shingles of a list, in order and before all others of the list. -/
structure Sample (list : List Shingle) (n : Nat) (sample : List Shingle) : Prop where
  length_eq : sample.length = n
  ordered : sample.Pairwise Before
  subset : ∀ s ∈ sample, s ∈ list
  behind : ∀ t ∈ list, t ∉ sample → ∀ s ∈ sample, Before s t

instance (list : List Shingle) (n : Nat) (sample : List Shingle) : Decidable (Sample list n sample) :=
  decidable_of_iff (sample.length = n ∧ sample.Pairwise Before ∧ (∀ s ∈ sample, s ∈ list) ∧
      ∀ t ∈ list, t ∉ sample → ∀ s ∈ sample, Before s t)
    ⟨fun h => ⟨h.1, h.2.1, h.2.2.1, h.2.2.2⟩, fun h => ⟨h.length_eq, h.ordered, h.subset, h.behind⟩⟩

/-- **A list has one sample of each size.** -/
theorem sample_iff (hn : n ≤ list.toFinset.card) : Sample list n sample ↔ sample = (distinct list).take n := by
  have hdistinct := pairwise_distinct list
  constructor
  · intro h
    have hfront := eq_take_of_behind hdistinct h.ordered (fun s hs => mem_distinct.2 (h.subset s hs))
      (fun t ht hout => h.behind t (mem_distinct.1 ht) hout)
    rwa [h.length_eq] at hfront
  · rintro rfl
    refine ⟨?_, hdistinct.sublist (List.take_sublist n _), ?_, ?_⟩
    · rw [List.length_take, ← card_eq_length_distinct, Nat.min_eq_left hn]
    · exact fun s hs => mem_distinct.1 (List.mem_of_mem_take hs)
    · exact fun t ht hout => behind_take hdistinct n t (mem_distinct.2 ht) hout

namespace Sample

theorem nodup (h : Sample list n sample) : sample.Nodup := h.ordered.nodup

theorem card_eq (h : Sample list n sample) : sample.toFinset.card = n := by
  rw [List.toFinset_card_of_nodup h.nodup, h.length_eq]

/-- A sample is one of every part of the list that it comes from. -/
theorem of_between (h : Sample list n sample) (hsample : ∀ s ∈ sample, s ∈ other) (hother : ∀ s ∈ other, s ∈ list) :
    Sample other n sample :=
  ⟨h.length_eq, h.ordered, hsample, fun t ht hout => h.behind t (hother t ht) hout⟩

theorem mem_of_card_le (h : Sample list n sample) (hcard : list.toFinset.card ≤ n) (hs : s ∈ list) : s ∈ sample := by
  rw [← h.card_eq] at hcard
  have heq := Finset.eq_of_subset_of_card_le (toFinset_mono h.subset) hcard
  rwa [← List.mem_toFinset, heq, List.mem_toFinset]

/-- What a sample of more shingles takes of some of them is in every sample of these that is as large, or that has all
of them. -/
theorem mem_of_mem {m : Nat} {larger : List Shingle} (h : Sample list n sample) (hlarger : Sample other m larger)
    (hother : ∀ s ∈ list, s ∈ other) (hsize : m ≤ n ∨ list.toFinset.card ≤ n) (hs : s ∈ list) (hin : s ∈ larger) :
    s ∈ sample := by
  by_contra hout
  rcases hsize with hsize | hsize
  · -- the whole sample comes before `s`, so that it is in the larger one too, which has `s` besides
    have hbefore := h.behind s hs hout
    have hsubset : ∀ t ∈ s :: sample, t ∈ larger := by
      intro t ht
      rcases List.mem_cons.1 ht with rfl | ht
      · exact hin
      · by_contra hnot
        exact (hbefore t ht).asymm (hlarger.behind t (hother t (h.subset t ht)) hnot s hin)
    have hcard := card_toFinset_mono hsubset
    rw [List.toFinset_card_of_nodup (List.nodup_cons.2 ⟨hout, h.nodup⟩), hlarger.card_eq, List.length_cons,
      h.length_eq] at hcard
    omega
  · exact hout (h.mem_of_card_le hsize hs)

end Sample

/-! ## Sketches -/

def sketchSize (list : List Shingle) (k limit : Nat) : Nat := min list.toFinset.card limit / k * k

theorem sketchSize_le_card (list : List Shingle) (k limit : Nat) : sketchSize list k limit ≤ list.toFinset.card :=
  (Nat.div_mul_le_self _ _).trans (Nat.min_le_left _ _)

theorem sketchSize_le_limit (list : List Shingle) (k limit : Nat) : sketchSize list k limit ≤ limit :=
  (Nat.div_mul_le_self _ _).trans (Nat.min_le_right _ _)

/-- **A sketch is the sample of its size, and nothing else is.** -/
theorem sketch_eq_ok_iff (hk : 0 < k) :
    sketch list k limit = .ok sample ↔ Sample list (sketchSize list k limit) sample := by
  rw [sample_iff (sketchSize_le_card list k limit), sketch_eq hk.ne', sketchSize, card_eq_length_distinct,
    Except.ok.injEq, eq_comm]
  rfl

theorem exists_sample (hk : 0 < k) (list : List Shingle) (limit : Nat) :
    ∃ sample, sketch list k limit = .ok sample ∧ Sample list (sketchSize list k limit) sample :=
  ⟨_, sketch_eq hk.ne' list limit, (sketch_eq_ok_iff hk).1 (sketch_eq hk.ne' list limit)⟩

theorem sketch_sketch (hk : 0 < k) (h : sketch list k limit = .ok sample) : sketch sample k limit = .ok sample := by
  have hsample := (sketch_eq_ok_iff hk).1 h
  have hsize : sketchSize sample k limit = sketchSize list k limit := by
    rw [sketchSize, hsample.card_eq, Nat.min_eq_left (sketchSize_le_limit list k limit), sketchSize,
      Nat.mul_div_cancel _ hk]
  rw [sketch_eq_ok_iff hk, hsize]
  exact hsample.of_between (fun _ hs => hs) hsample.subset

/-- **A sketch is the set of the smallest shingles.** It is the one list of so many of the distinct shingles, in order,
that all others come behind them: as many as there are, but no more than the limit allows, cut to whole groups. It has
no shingle twice, it depends on nothing but the set of the shingles, and it is its own sketch. -/
theorem sketch_selects_smallest (hk : 0 < k) (list : List Shingle) (limit : Nat) :
    ∃ sample, sketch list k limit = .ok sample ∧
      (∀ other, Sample list (min list.toFinset.card limit / k * k) other ↔ other = sample) ∧
      sample.Nodup ∧ k ∣ sample.length ∧ sample.length ≤ limit ∧
      (∀ other, (∀ s, s ∈ other ↔ s ∈ list) → sketch other k limit = .ok sample) ∧
      sketch sample k limit = .ok sample := by
  obtain ⟨sample, hsketch, hsample⟩ := exists_sample hk list limit
  refine ⟨sample, hsketch, ?_, hsample.nodup, ?_, ?_, ?_, sketch_sketch hk hsketch⟩
  · intro other
    have hother : sketch list k limit = .ok other ↔ Sample list (sketchSize list k limit) other := sketch_eq_ok_iff hk
    rw [hsketch, Except.ok.injEq, sketchSize] at hother
    rw [← hother, eq_comm]
  · rw [hsample.length_eq]
    exact Nat.dvd_mul_left k _
  · rw [hsample.length_eq]
    exact sketchSize_le_limit list k limit
  · intro other hother
    rw [sketch_congr hother, hsketch]

/-- Of three shingles, one of them given twice, a sketch of groups of two keeps those with the smallest hashes. -/
theorem sketch_selects_smallest_pair :
    0 < 2 ∧ sketch [["c"], ["a"], ["c"], ["b"]] 2 3 = .ok [["b"], ["a"]] ∧
      sketch [["b"], ["a"]] 2 3 = .ok [["b"], ["a"]] := by
  refine ⟨by decide, ?_⟩
  obtain ⟨sample, hsketch, hsample, -, -, -, -, hself⟩ :=
    sketch_selects_smallest (k := 2) (by decide) [["c"], ["a"], ["c"], ["b"]] 3
  have heq := (hsample [["b"], ["a"]]).1 (by decide +kernel)
  rw [heq]
  exact ⟨hsketch, hself⟩

/-! ## Super-shingles -/

/-- **Every text has super-shingles**: one for each group of its sketch, which has as many of its distinct windows as
the limit allows, cut to whole groups. -/
theorem exists_supershingles {n k : Nat} (hn : 0 < n) (hk : 0 < k) (text : String) (limit : Nat)
    (hash : List Shingle → UInt64) :
    ∃ (W : Finset Shingle) (all sample : List Shingle) (print : List UInt64),
      shingles text n = .ok all ∧ sketch all k limit = .ok sample ∧ supershingles sample hash k = .ok print ∧
      (∀ w, w ∈ W ↔ w.length = n ∧ w <:+: Text.words text) ∧
      sample.length = k * print.length ∧ print.length = min W.card limit / k ∧
      ∀ i < print.length, print[i]? = some (hash ((sample.drop (k * i)).take k)) := by
  obtain ⟨sample, hsketch, hsample⟩ := exists_sample hk (windows n (Text.words text)) limit
  have hlength : sample.length = min (windows n (Text.words text)).toFinset.card limit / k * k := hsample.length_eq
  have hgroups : sample.length % k = 0 := by rw [hlength, Nat.mul_mod_left]
  have hprint : sample.length / k = min (windows n (Text.words text)).toFinset.card limit / k := by
    rw [hlength, Nat.mul_div_cancel _ hk]
  refine ⟨(windows n (Text.words text)).toFinset, _, sample, _, if_neg hn.ne', hsketch,
    supershingles_eq hk.ne' hgroups hash, ?_, ?_, ?_, ?_⟩
  · intro w
    rw [List.mem_toFinset, mem_windows_iff]
  · rw [List.length_map, List.length_range, Nat.mul_div_cancel' (Nat.dvd_of_mod_eq_zero hgroups)]
  · rw [List.length_map, List.length_range, hprint]
  · intro i hi
    rw [List.length_map, List.length_range] at hi
    rw [List.getElem?_map, List.getElem?_range hi, Nat.mul_comm k i]
    rfl

/-! ## Sketches of two lists -/

section Append
variable {left right : List Shingle}

/-- Nothing but the limit cuts the sketch of a list that is large enough, or that fills whole groups. -/
theorem sketchSize_of_full (hlimit : k ∣ limit) (h : limit ≤ list.toFinset.card ∨ k ∣ list.toFinset.card) :
    sketchSize list k limit = min list.toFinset.card limit := by
  unfold sketchSize
  apply Nat.div_mul_cancel
  rcases h with hlarge | hwhole
  · rwa [Nat.min_eq_right hlarge]
  · rcases Nat.le_total list.toFinset.card limit with hle | hle
    · rwa [Nat.min_eq_left hle]
    · rwa [Nat.min_eq_right hle]

theorem mem_append_of_samples {a b : List Shingle} {m : Nat} (ha : Sample left m a) (hb : Sample right n b)
    (hs : s ∈ a ++ b) : s ∈ left ++ right := by
  rcases List.mem_append.1 hs with hin | hin
  · exact List.mem_append_left right (ha.subset s hin)
  · exact List.mem_append_right left (hb.subset s hin)

/-- As many shingles are kept of two lists as of samples of them that the limit alone has cut. -/
theorem sketchSize_append {a b : List Shingle} (ha : Sample left (min left.toFinset.card limit) a)
    (hb : Sample right (min right.toFinset.card limit) b) :
    sketchSize (a ++ b) k limit = sketchSize (left ++ right) k limit := by
  have hless : (a ++ b).toFinset.card ≤ (left ++ right).toFinset.card :=
    card_toFinset_mono fun s => mem_append_of_samples ha hb
  have hleft : a.toFinset.card ≤ (a ++ b).toFinset.card := card_toFinset_mono fun s hs => List.mem_append_left b hs
  have hright : b.toFinset.card ≤ (a ++ b).toFinset.card := card_toFinset_mono fun s hs => List.mem_append_right a hs
  rw [ha.card_eq] at hleft
  rw [hb.card_eq] at hright
  have hmin : min (a ++ b).toFinset.card limit = min (left ++ right).toFinset.card limit := by
    by_cases hsmall : left.toFinset.card ≤ limit ∧ right.toFinset.card ≤ limit
    · -- both samples are complete
      have hmore : (left ++ right).toFinset.card ≤ (a ++ b).toFinset.card := by
        apply card_toFinset_mono
        intro s hs
        apply List.mem_append.2
        apply (List.mem_append.1 hs).imp
        · exact ha.mem_of_card_le (by omega)
        · exact hb.mem_of_card_le (by omega)
      omega
    · omega
  unfold sketchSize
  rw [hmin]

/-- **The sketch of two lists is that of their sketches**, if the limit fills whole groups and each list is either large
enough for it or fills whole groups itself. So whatever of a list is kept of both is kept of that list alone. -/
theorem sketch_append (hk : 0 < k) (hlimit : k ∣ limit)
    (hleft : limit ≤ left.toFinset.card ∨ k ∣ left.toFinset.card)
    (hright : limit ≤ right.toFinset.card ∨ k ∣ right.toFinset.card) :
    ∃ a b both, sketch left k limit = .ok a ∧ sketch right k limit = .ok b ∧
      sketch (left ++ right) k limit = .ok both ∧ sketch (a ++ b) k limit = .ok both ∧
      (∀ s ∈ left, s ∈ both → s ∈ a) ∧ (∀ s ∈ right, s ∈ both → s ∈ b) := by
  obtain ⟨a, hsketchA, ha⟩ := exists_sample hk left limit
  obtain ⟨b, hsketchB, hb⟩ := exists_sample hk right limit
  obtain ⟨both, hsketch, hboth⟩ := exists_sample hk (left ++ right) limit
  rw [sketchSize_of_full hlimit hleft] at ha
  rw [sketchSize_of_full hlimit hright] at hb
  have hsize := sketchSize_le_limit (left ++ right) k limit
  have hkeepA : ∀ s ∈ left, s ∈ both → s ∈ a := fun s hs hin =>
    ha.mem_of_mem hboth (fun _ => List.mem_append_left right) (by omega) hs hin
  have hkeepB : ∀ s ∈ right, s ∈ both → s ∈ b := fun s hs hin =>
    hb.mem_of_mem hboth (fun _ => List.mem_append_right left) (by omega) hs hin
  refine ⟨a, b, both, hsketchA, hsketchB, hsketch, ?_, hkeepA, hkeepB⟩
  rw [sketch_eq_ok_iff hk, sketchSize_append ha hb]
  apply hboth.of_between
  · intro s hs
    rcases List.mem_append.1 (hboth.subset s hs) with hin | hin
    · exact List.mem_append_left b (hkeepA s hin hs)
    · exact List.mem_append_right a (hkeepB s hin hs)
  · exact fun s => mem_append_of_samples ha hb

def exampleFew : List Shingle := [["a"], ["b"], ["a"]]

def exampleMany : List Shingle := [["b"], ["c"], ["d"], ["e"], ["f"]]

theorem sketch_append_overlapping :
    0 < 2 ∧ 2 ∣ 4 ∧ (4 ≤ exampleFew.toFinset.card ∨ 2 ∣ exampleFew.toFinset.card) ∧
      (4 ≤ exampleMany.toFinset.card ∨ 2 ∣ exampleMany.toFinset.card) ∧
      ∃ a b both, sketch exampleFew 2 4 = .ok a ∧ sketch exampleMany 2 4 = .ok b ∧
        sketch (exampleFew ++ exampleMany) 2 4 = .ok both ∧ sketch (a ++ b) 2 4 = .ok both ∧
        (∀ s ∈ exampleFew, s ∈ both → s ∈ a) ∧ (∀ s ∈ exampleMany, s ∈ both → s ∈ b) := by
  have hfew : 2 ∣ exampleFew.toFinset.card := by decide +kernel
  have hmany : 4 ≤ exampleMany.toFinset.card := by decide +kernel
  refine ⟨by decide, by decide, .inr hfew, .inl hmany, ?_⟩
  exact sketch_append (by decide) (by decide) (.inr hfew) (.inl hmany)

end Append

end Retrieval
