import Mathlib.Data.Option.Basic
import Retrieval.Index.Vocabulary

/-!
# Adding addresses

* `Vocabulary.url?_injective` : an address has one id;
* `Vocabulary.url?_add_self`, `Vocabulary.url?_add_of_ne` : an address that is added has an id, and the other ids stay
  with their addresses;
* `Vocabulary.isSome_url?_iff` : the ids in use are those below the size.
-/

namespace Retrieval.Vocabulary

theorem url?_injective {v : Vocabulary} {url : String} {i j : DocId} (hi : v.url? i = some url)
    (hj : v.url? j = some url) : i = j := by
  rw [← id?_eq_some_iff] at hi hj
  exact Option.some.inj (hi.symm.trans hj)

theorem isSome_url?_iff {v : Vocabulary} {i : DocId} : (v.url? i).isSome ↔ i < v.size := by
  rw [url?, size, isSome_getElem?]

theorem url?_insert (v : Vocabulary) (url : String) (h : v.ids[url]? = none) (i : DocId) :
    (v.insert url h).url? i = if i = v.size then some url else v.url? i := by
  rw [url?, insert, url?, size, Array.getElem?_push]

theorem url?_add_self (v : Vocabulary) (url : String) : (v.add url).1.url? (v.add url).2 = some url := by
  unfold add
  split
  · next id h => exact (v.id_iff url id).1 h
  · next h => rw [url?_insert, if_pos rfl]

theorem url?_add_of_ne {v : Vocabulary} {url : String} {i : DocId} (hi : i ≠ (v.add url).2) :
    (v.add url).1.url? i = v.url? i := by
  revert hi
  unfold add
  split
  · exact fun _ => rfl
  · next h => exact fun hi => by rw [url?_insert, if_neg hi]

end Retrieval.Vocabulary
