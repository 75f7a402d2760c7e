import Retrieval.Proofs.Shingle
import Retrieval.Proofs.Text.Spacing

/-!
# Shingles keep all words

The windows of a list overlap, so that every item but those at the ends stands in several of them. Nothing is lost
as long as there is a window at all: each item stands in one, at a place that is known from its own place.

* `length_windows`, `getElem?_windows` : how many windows there are, and which is the next;
* `exists_window_of_lt` : an item stands in a window;
* `windows_inj` : lists with the same windows are equal, if they have any;
* `shingles_lossless` : the shingles of a text, and which texts have the same.
-/

namespace Retrieval

section Windows
variable {α : Type} {n i k : Nat} {items other : List α}

/-! ## Places -/

theorem length_windows (n : Nat) (items : List α) : (windows n items).length = items.length + 1 - n := by
  rw [windows_eq, List.length_map, List.length_range]

theorem getElem?_windows (hi : i < (windows n items).length) :
    (windows n items)[i]? = some ((items.drop i).take n) := by
  rw [length_windows] at hi
  rw [windows_eq, List.getElem?_map, List.getElem?_range hi, Option.map_some]

theorem getElem?_window (hk : k < n) : ((items.drop i).take n)[k]? = items[i + k]? := by
  rw [List.getElem?_take_of_lt hk, List.getElem?_drop]

theorem length_window (hi : i < (windows n items).length) : ((items.drop i).take n).length = n := by
  rw [length_windows] at hi
  rw [List.length_take, List.length_drop]
  omega

/-! ## Lists with the same windows -/

/-- Every item stands in a window: in the one that begins with it, or in the last one. The place is the same in all
lists of the same length. -/
theorem exists_window_of_lt (hn : 0 < n) (hlength : n ≤ items.length) (hk : k < items.length) :
    ∃ i j, i < items.length + 1 - n ∧ j < n ∧ i + j = k := by
  by_cases hlast : k ≤ items.length - n
  · exact ⟨k, 0, by omega, hn, rfl⟩
  · exact ⟨items.length - n, k - (items.length - n), by omega, by omega, by omega⟩

theorem length_eq_of_windows_eq (hlength : n ≤ items.length) (hother : n ≤ other.length)
    (h : windows n items = windows n other) : items.length = other.length := by
  have hcount := congrArg List.length h
  rw [length_windows, length_windows] at hcount
  omega

/-- **Lists that have windows are told by them.** -/
theorem windows_inj (hn : 0 < n) (hlength : n ≤ items.length) (hother : n ≤ other.length) :
    windows n items = windows n other ↔ items = other := by
  refine ⟨fun h => ?_, fun h => h ▸ rfl⟩
  have hsize : items.length = other.length := length_eq_of_windows_eq hlength hother h
  apply List.ext_getElem?
  intro k
  by_cases hk : k < items.length
  · obtain ⟨i, j, hi, hj, rfl⟩ := exists_window_of_lt hn hlength hk
    rw [← length_windows] at hi
    have hwindow : (items.drop i).take n = (other.drop i).take n := by
      apply Option.some.inj
      rw [← getElem?_windows hi, h, getElem?_windows (h ▸ hi)]
    rw [← getElem?_window hj, hwindow, getElem?_window hj]
  · rw [List.getElem?_eq_none (by omega), List.getElem?_eq_none (by omega)]

end Windows

/-! ## Shingles -/

theorem shingles_eq {n : Nat} (hn : 0 < n) (text : String) : shingles text n = .ok (windows n (Text.words text)) := by
  rw [shingles, if_neg (by omega)]

/-- **Shingles keep all words.** A text of `T` words has `T - n + 1` shingles of `n` words, or none if this is negative,
and the one at a place is made of the words from this place on. Texts with at least `n` words have the same shingles
just if they have the same words, which is to say that they differ in their blanks only. -/
theorem shingles_lossless {n : Nat} (hn : 0 < n) (text : String) :
    (∃ list, shingles text n = .ok list ∧
      (list.length : Int) = max ((Text.words text).length - n + 1 : Int) 0 ∧
      ∀ i < list.length, ∃ shingle, list[i]? = some shingle ∧ shingle.length = n ∧
        ∀ k < n, shingle[k]? = (Text.words text)[i + k]?) ∧
    ∀ other, n ≤ (Text.words text).length → n ≤ (Text.words other).length →
      (shingles text n = shingles other n ↔ Text.words text = Text.words other) ∧
      (shingles text n = shingles other n ↔ Text.DifferInBlanks text other) := by
  refine ⟨⟨_, shingles_eq hn text, ?_, fun i hi => ?_⟩, fun other htext hother => ?_⟩
  · rw [length_windows]
    omega
  · exact ⟨_, getElem?_windows hi, length_window hi, fun k hk => getElem?_window hk⟩
  · have hsame : shingles text n = shingles other n ↔ Text.words text = Text.words other := by
      rw [shingles_eq hn, shingles_eq hn, Except.ok.injEq, windows_inj hn htext hother]
    exact ⟨hsame, hsame.trans Text.words_eq_words_iff⟩

theorem shingles_lossless_respaced :
    2 ≤ (Text.words "a b\ta b").length ∧ 2 ≤ (Text.words " a  b a\nb ").length ∧ 2 ≤ (Text.words "b a b a").length ∧
    shingles "a b\ta b" 2 = shingles " a  b a\nb " 2 ∧ Text.DifferInBlanks "a b\ta b" " a  b a\nb " ∧
    shingles "a b\ta b" 2 ≠ shingles "b a b a" 2 := by
  have hwords : Text.words "a b\ta b" = ["a", "b", "a", "b"] := by decide +kernel
  have hother : Text.words " a  b a\nb " = ["a", "b", "a", "b"] := by decide +kernel
  -- of the same two shingles, in another order
  have hmoved : Text.words "b a b a" = ["b", "a", "b", "a"] := by decide +kernel
  obtain ⟨-, hpairs⟩ := shingles_lossless (n := 2) (by decide) "a b\ta b"
  obtain ⟨hsame, hblanks⟩ := hpairs " a  b a\nb " (by rw [hwords]; decide) (by rw [hother]; decide)
  obtain ⟨hdiffers, -⟩ := hpairs "b a b a" (by rw [hwords]; decide) (by rw [hmoved]; decide)
  have hequal := hsame.2 (hwords.trans hother.symm)
  rw [hwords, hother, hmoved]
  refine ⟨by decide, by decide, by decide, hequal, hblanks.1 hequal, fun h => ?_⟩
  have h' := hdiffers.1 h
  rw [hwords, hmoved] at h'
  exact absurd h' (by decide)

end Retrieval
