import Std.Data.TreeMap
import Retrieval.Index.DocSet

/-!
# The vocabulary of documents

Documents are known by their address. Ids are dense, follow the order of first sighting and are never
reused or renumbered.

* `Vocabulary` : the addresses in order of their ids, and the way back;
* `Vocabulary.add` : the id of an address, which becomes known if it was not.
-/

namespace Retrieval

/-- Known addresses. An address has the id `i` just if it stands at position `i`. -/
structure Vocabulary where
  urls : Array String := #[]
  ids : Std.TreeMap String DocId := ∅
  id_iff : ∀ (url : String) (i : DocId), ids[url]? = some i ↔ urls[i]? = some url := by simp

namespace Vocabulary

instance : EmptyCollection Vocabulary := ⟨{}⟩

instance : Inhabited Vocabulary := ⟨∅⟩

def size (v : Vocabulary) : Nat := v.urls.size

def url? (v : Vocabulary) (id : DocId) : Option String := v.urls[id]?

def id? (v : Vocabulary) (url : String) : Option DocId := v.ids[url]?

def docs (v : Vocabulary) : DocSet := .below v.size

theorem id?_eq_some_iff {v : Vocabulary} {url : String} {i : DocId} :
    v.id? url = some i ↔ v.url? i = some url := v.id_iff url i

def insert (v : Vocabulary) (url : String) (h : v.ids[url]? = none) : Vocabulary where
  urls := v.urls.push url
  ids := v.ids.insert url v.urls.size
  id_iff u i := by
    have known := v.id_iff u i
    have fresh : ∀ j, v.urls[j]? ≠ some url := fun j hj => by
      have := (v.id_iff url j).2 hj
      simp_all
    have := fresh i
    grind

/-- The id of an address, together with the vocabulary that knows it. -/
def add (v : Vocabulary) (url : String) : Vocabulary × DocId :=
  match h : v.ids[url]? with
  | some id => (v, id)
  | none => (v.insert url h, v.size)

end Vocabulary

end Retrieval
