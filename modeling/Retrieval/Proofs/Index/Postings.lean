import Mathlib.Data.List.Basic
import Retrieval.Index.Postings
import Retrieval.Proofs.Lookup

/-!
# What postings hold

* `getElem?_termCounts` : the count of a term in a list of terms;
* `Postings.getElem?_addDocument` : a document more goes in front of the lists of its terms;
* `Postings.getElem?_ofDocuments`, `Postings.getD_ofDocuments` : the list of a term, read off the counted documents;
* `Postings.mem_docs_ofDocuments` : the documents on it.
-/

namespace Retrieval

/-! ## Counts -/

theorem getElem?_foldl_count (terms : List String) (counts : TermCounts) (term : String) :
    (terms.foldl (fun counts term => counts.alter term fun n => some (n.getD 0 + 1)) counts)[term]? =
      if terms.count term = 0 then counts[term]? else some (counts[term]?.getD 0 + terms.count term) := by
  induction terms generalizing counts with
  | nil => rfl
  | cons first rest ih =>
    rw [List.foldl_cons, ih, getElem?_alter_ite]
    by_cases h : term = first
    · subst h
      rw [if_pos rfl, List.count_cons_self, if_neg (Nat.succ_ne_zero _)]
      split
      · next hzero => rw [hzero]
      · rw [Option.getD_some, Nat.add_assoc, Nat.add_comm 1]
    · rw [if_neg h, List.count_cons_of_ne (Ne.symm h)]

theorem getElem?_termCounts (terms : List String) (term : String) :
    (termCounts terms)[term]? = if terms.count term = 0 then none else some (terms.count term) := by
  rw [termCounts, getElem?_foldl_count, Std.TreeMap.getElem?_emptyc, Option.getD_none, Nat.zero_add]

theorem termCounts_isSome_iff {terms : List String} {term : String} :
    (termCounts terms)[term]?.isSome ↔ term ∈ terms := by
  rw [getElem?_termCounts, ← List.count_pos_iff]
  split
  · next h => simp [h]
  · next h => simp [Nat.pos_of_ne_zero h]

namespace Postings

/-! ## One document -/

/-- What adding a list of counted terms does to the list of a term that is not among them. -/
theorem getElem?_foldl_of_not_mem {doc : DocId} {term : String} {l : List (String × Nat)} {p : Postings}
    (h : ∀ n, (term, n) ∉ l) :
    (l.foldl (fun p e => p.alter e.1 fun list => some (⟨doc, e.2⟩ :: list.getD [])) p)[term]? = p[term]? := by
  induction l generalizing p with
  | nil => rfl
  | cons e rest ih =>
    have hne : term ≠ e.1 := by
      rintro rfl
      exact h e.2 List.mem_cons_self
    rw [List.foldl_cons, ih fun n hn => h n (List.mem_cons_of_mem _ hn), getElem?_alter_ite, if_neg hne]

/-- A term that is among them is so only once: later terms leave its list alone. -/
theorem getElem?_foldl_of_mem {doc : DocId} {term : String} {n : Nat} {l : List (String × Nat)} {p : Postings}
    (hl : l.Pairwise fun a b => ¬ compare a.1 b.1 = .eq) (h : (term, n) ∈ l) :
    (l.foldl (fun p e => p.alter e.1 fun list => some (⟨doc, e.2⟩ :: list.getD [])) p)[term]? =
      some (⟨doc, n⟩ :: p[term]?.getD []) := by
  induction l generalizing p with
  | nil => cases h
  | cons e rest ih =>
    obtain ⟨hfirst, hrest⟩ := List.pairwise_cons.1 hl
    rw [List.foldl_cons]
    rcases List.mem_cons.1 h with rfl | hmem
    · have hnot : ∀ m, (term, m) ∉ rest := fun m hm => hfirst _ hm Std.ReflCmp.compare_self
      rw [getElem?_foldl_of_not_mem hnot, getElem?_alter_ite, if_pos rfl]
    · have hne : term ≠ e.1 := fun he => hfirst _ hmem (Std.LawfulEqCmp.compare_eq_iff_eq.2 he.symm)
      rw [ih hrest hmem, getElem?_alter_ite, if_neg hne]

/-- A document goes in front of the lists of its terms and leaves the others as they are. -/
theorem getElem?_addDocument (doc : DocId) (counts : TermCounts) (p : Postings) (term : String) :
    (addDocument doc counts p)[term]? =
      match counts[term]? with
      | none => p[term]?
      | some n => some (⟨doc, n⟩ :: p[term]?.getD []) := by
  rw [addDocument, Std.TreeMap.foldl_eq_foldl_toList]
  split
  · next h =>
    refine getElem?_foldl_of_not_mem fun n hn => ?_
    rw [Std.TreeMap.mem_toList_iff_getElem?_eq_some, h] at hn
    cases hn
  · next n h =>
    exact getElem?_foldl_of_mem Std.TreeMap.distinct_keys_toList (Std.TreeMap.mem_toList_iff_getElem?_eq_some.2 h)

/-! ## A collection -/

def posting? (term : String) (document : DocId × TermCounts) : Option Posting :=
  document.2[term]?.map fun n => ⟨document.1, n⟩

theorem getElem?_foldr (term : String) (l : List (DocId × TermCounts)) :
    (l.foldr (fun e p => addDocument e.1 e.2 p) (∅ : Postings))[term]? =
      if l.filterMap (posting? term) = [] then none else some (l.filterMap (posting? term)) := by
  induction l with
  | nil => exact Std.TreeMap.getElem?_emptyc
  | cons e rest ih =>
    rw [List.foldr_cons, getElem?_addDocument, ih, List.filterMap_cons, posting?]
    cases e.2[term]? with
    | none => rfl
    | some n =>
      simp only [Option.map_some, reduceCtorEq, if_false]
      split
      · next h => rw [h]; rfl
      · rfl

/-- **The list of a term has the documents with the term, in the order of their ids.** -/
theorem getElem?_ofDocuments (documents : Std.TreeMap DocId TermCounts) (term : String) :
    (ofDocuments documents)[term]? =
      if documents.toList.filterMap (posting? term) = [] then none
      else some (documents.toList.filterMap (posting? term)) :=
  getElem?_foldr term documents.toList

theorem getD_ofDocuments (documents : Std.TreeMap DocId TermCounts) (term : String) :
    (ofDocuments documents).getD term [] = documents.toList.filterMap (posting? term) := by
  rw [Std.TreeMap.getD_eq_getD_getElem?, getElem?_ofDocuments]
  split
  · next h => rw [h]; rfl
  · rfl

theorem mem_docs_ofDocuments {documents : Std.TreeMap DocId TermCounts} {term : String} {doc : DocId} :
    doc ∈ ((ofDocuments documents).getD term []).map (·.doc) ↔
      ∃ counts, documents[doc]? = some counts ∧ counts[term]?.isSome := by
  rw [getD_ofDocuments, List.mem_map]
  constructor
  · rintro ⟨p, hp, rfl⟩
    obtain ⟨⟨id, counts⟩, hmem, hcounts⟩ := List.mem_filterMap.1 hp
    obtain ⟨n, hn, rfl⟩ := Option.map_eq_some_iff.1 hcounts
    exact ⟨counts, Std.TreeMap.mem_toList_iff_getElem?_eq_some.1 hmem, by rw [hn]; rfl⟩
  · rintro ⟨counts, hdoc, hterm⟩
    obtain ⟨n, hn⟩ := Option.isSome_iff_exists.1 hterm
    refine ⟨⟨doc, n⟩, List.mem_filterMap.2 ⟨(doc, counts), ?_, ?_⟩, rfl⟩
    · exact Std.TreeMap.mem_toList_iff_getElem?_eq_some.2 hdoc
    · rw [posting?, hn]
      rfl

end Postings

end Retrieval
