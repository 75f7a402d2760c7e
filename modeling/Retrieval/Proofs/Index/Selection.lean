import Mathlib.Data.List.Basic
import Mathlib.Order.Compare
import Retrieval.Proofs.Index.Staleness
import Retrieval.Proofs.Ordered

/-!
# The best documents of a term

A champion list is cut from the documents of a term in the order of their weights. As no two documents tie, there is one
such order, so that a list is known by what is on it and what is left out.

* `Champions.Precedes` : greater values come first, and of equal ones the smaller ids;
* `Champions.ranked` : the documents of a list of postings in the order of their scores;
* `Champions.top_eq_take`, `Champions.pairwise_ranked` : champions are cut from it, and it is in order;
* `Champions.Leading`, `Champions.leading_iff` : the documents in front, and that champions are these;
* `Champions.collect` : the champion lists of terms that come in any order;
* `Store.standing_of_mem` : a posting is scored by the weight of its term in its document;
* `Store.Best`, `Store.best_iff` : the documents with the greatest weights, and that champions are these;
* `Index.updateChampions_selects_best` : champion lists after every history.
-/

namespace Retrieval

namespace Champions

/-! ## Documents in order -/

section Order
variable {Score : Type} [LinearOrder Score] {value : DocId → Score} {score : Nat → Score} {list : List Posting}

/-- A document comes before another by a greater value or, where the values are equal, by a smaller id. -/
def Precedes (value : DocId → Score) (a b : DocId) : Prop := value b < value a ∨ value a = value b ∧ a < b

theorem Precedes.irrefl (a : DocId) : ¬ Precedes value a a := by
  simp [Precedes]

theorem Precedes.asymm {a b : DocId} (hab : Precedes value a b) (hba : Precedes value b a) : False := by
  rcases hab with hab | ⟨heq, hab⟩ <;> rcases hba with hba | ⟨heq', hba⟩
  · exact lt_asymm hab hba
  · exact absurd heq' hab.ne
  · exact absurd heq hba.ne
  · exact Nat.lt_asymm hab hba

theorem ranksBefore_iff {a b : DocId × Score} :
    ranksBefore a b = true ↔ b.2 < a.2 ∨ a.2 = b.2 ∧ a.1 ≤ b.1 := by
  unfold ranksBefore
  rcases lt_trichotomy a.2 b.2 with h | h | h
  · rw [compare_lt_iff_lt.2 h]
    simp [h.ne, h.le]
  · rw [compare_eq_iff_eq.2 h]
    simp [h]
  · rw [compare_gt_iff_gt.2 h]
    simp [h]

theorem ranksBefore_trans (a b c : DocId × Score) (hab : ranksBefore a b = true) (hbc : ranksBefore b c = true) :
    ranksBefore a c = true := by
  rw [ranksBefore_iff] at *
  rcases hab with hab | ⟨heq, hab⟩ <;> rcases hbc with hbc | ⟨heq', hbc⟩
  · exact .inl (hbc.trans hab)
  · exact .inl (heq' ▸ hab)
  · exact .inl (heq ▸ hbc)
  · exact .inr ⟨heq.trans heq', hab.trans hbc⟩

theorem ranksBefore_total (a b : DocId × Score) : (ranksBefore a b || ranksBefore b a) = true := by
  rw [Bool.or_eq_true, ranksBefore_iff, ranksBefore_iff]
  rcases lt_trichotomy a.2 b.2 with h | h | h
  · exact .inr (.inl h)
  · rcases Nat.le_total a.1 b.1 with hid | hid
    · exact .inl (.inr ⟨h, hid⟩)
    · exact .inr (.inr ⟨h.symm, hid⟩)
  · exact .inl (.inl h)

/-- The documents of a list of postings in the order of their scores. -/
def ranked (score : Nat → Score) (list : List Posting) : List DocId :=
  ((scored score list).mergeSort ranksBefore).map (·.1)

theorem top_eq_take (score : Nat → Score) (r : Nat) (list : List Posting) :
    top score r list = (ranked score list).take r := List.map_take

theorem top_prefix_top (score : Nat → Score) {r r' : Nat} (h : r ≤ r') (list : List Posting) :
    top score r list <+: top score r' list := by
  rw [top_eq_take, top_eq_take]
  exact List.take_prefix_take_left h

theorem ranked_perm (score : Nat → Score) (list : List Posting) : (ranked score list).Perm (list.map (·.doc)) := by
  have hdocs : (scored score list).map (·.1) = list.map (·.doc) := by simp [scored]
  rw [← hdocs]
  exact (List.mergeSort_perm _ _).map _

/-- The documents are in strict order where none of them is listed twice. -/
theorem pairwise_ranked (hvalue : ∀ p ∈ list, value p.doc = score p.frequency) (hdistinct : (list.map (·.doc)).Nodup) :
    (ranked score list).Pairwise (Precedes value) := by
  have hsorted := List.pairwise_mergeSort ranksBefore_trans ranksBefore_total (scored score list)
  have hnodup : ((scored score list).mergeSort ranksBefore).Pairwise (fun a b => a.1 ≠ b.1) :=
    List.pairwise_map.1 ((ranked_perm score list).nodup_iff.2 hdistinct)
  have hscore : ∀ a ∈ (scored score list).mergeSort ranksBefore, value a.1 = a.2 := by
    intro a ha
    obtain ⟨p, hp, rfl⟩ := List.mem_map.1 (List.mem_mergeSort.1 ha)
    exact hvalue p hp
  unfold ranked
  rw [List.pairwise_map]
  apply (hsorted.and hnodup).imp_of_mem
  intro a b ha hb hab
  rw [Precedes, hscore a ha, hscore b hb]
  apply (ranksBefore_iff.1 hab.1).imp_right
  exact fun ⟨heq, hle⟩ => ⟨heq, Nat.lt_of_le_of_ne hle hab.2⟩

/-! ## Documents in front -/

/-- The first of some documents by their values: as many as there are, but no more than `r`. They are in order, and all
others come behind them. -/
structure Leading (value : DocId → Score) (docs : List DocId) (r : Nat) (best : List DocId) : Prop where
  length_eq : best.length = min r docs.length
  nodup : best.Nodup
  contain : ∀ doc ∈ best, doc ∈ docs
  ordered : best.Pairwise (Precedes value)
  behind : ∀ doc ∈ docs, doc ∉ best → ∀ champion ∈ best, Precedes value champion doc

/-- **The documents in front are the champions, and no other list is that.** -/
theorem leading_iff (hvalue : ∀ p ∈ list, value p.doc = score p.frequency) (hdistinct : (list.map (·.doc)).Nodup)
    {r : Nat} {best : List DocId} : Leading value (list.map (·.doc)) r best ↔ best = top score r list := by
  have : Std.Irrefl (Precedes value) := ⟨Precedes.irrefl⟩
  have : Std.Antisymm (Precedes value) := ⟨fun a b hab hba => (hab.asymm hba).elim⟩
  have hranked := pairwise_ranked hvalue hdistinct
  have hperm := ranked_perm score list
  rw [top_eq_take]
  generalize ranked score list = docs at *
  constructor
  · intro hbest
    have hcut := eq_take_of_behind hranked hbest.ordered
      (fun doc hdoc => hperm.mem_iff.2 (hbest.contain doc hdoc))
      (fun doc hdoc hout => hbest.behind doc (hperm.mem_iff.1 hdoc) hout)
    rw [hcut, hbest.length_eq, ← hperm.length_eq, ← List.take_eq_take_min]
  · rintro rfl
    have hordered : (docs.take r).Pairwise (Precedes value) := hranked.sublist (List.take_sublist r docs)
    refine ⟨?_, ?_, ?_, hordered, ?_⟩
    · rw [List.length_take, hperm.length_eq]
    · apply hordered.imp
      rintro a b hab rfl
      exact Precedes.irrefl a hab
    · exact fun doc hdoc => hperm.mem_iff.1 (List.mem_of_mem_take hdoc)
    · exact fun doc hdoc hout => behind_take hranked r doc (hperm.mem_iff.2 hdoc) hout

end Order

/-! ## Terms in any order -/

section Terms
variable {Score : Type} [Ord Score] {score : Nat → Nat → Score} {r : Nat} {p : Postings}

def collect (score : Nat → Nat → Score) (r : Nat) (entries : List (String × List Posting)) : Champions :=
  .ofList (entries.map fun entry => (entry.1, top (score entry.2.length) r entry.2))

/-- The order in which the terms come does not matter. -/
theorem getElem?_collect {entries : List (String × List Posting)} (h : entries.Perm p.toList) (term : String) :
    (collect score r entries)[term]? = (ofPostings score r p)[term]? := by
  have hdistinct : (entries.map fun entry => (entry.1, top (score entry.2.length) r entry.2)).Pairwise
      fun a b => ¬ compare a.1 b.1 = .eq := by
    rw [List.pairwise_map]
    apply h.symm.pairwise Std.TreeMap.distinct_keys_toList
    exact fun hab hba => hab (Std.OrientedCmp.eq_symm hba)
  rw [getElem?_ofPostings]
  cases hlist : p[term]? with
  | none =>
    apply Std.TreeMap.getElem?_ofList_of_contains_eq_false
    rw [← Bool.not_eq_true, List.contains_iff_mem, List.map_map, List.mem_map]
    rintro ⟨⟨name, list⟩, hentry, rfl⟩
    rw [h.mem_iff, Std.TreeMap.mem_toList_iff_getElem?_eq_some] at hentry
    exact absurd (hlist.symm.trans hentry) nofun
  | some list =>
    apply Std.TreeMap.getElem?_ofList_of_mem Std.ReflCmp.compare_self hdistinct
    apply List.mem_map_of_mem (f := fun entry => (entry.1, top (score entry.2.length) r entry.2)) (a := (term, list))
    rw [h.mem_iff, Std.TreeMap.mem_toList_iff_getElem?_eq_some]
    exact hlist

end Terms

end Champions

/-! ## Weights -/

namespace Store

/-- The place of the weight of a term in a document among all weights. -/
def standing (s : Store) (term : String) (doc : DocId) : Int := Weight.rank (s.weight term doc)

/-- The best documents of a term: as many as there are, but no more than `r`. They are in order, and all other documents
of the term come behind them. -/
structure Best (s : Store) (term : String) (r : Nat) (best : List DocId) : Prop where
  length_eq : best.length = min r (s.documentFrequency term)
  nodup : best.Nodup
  contain : ∀ doc ∈ best, doc ∈ s.docsWith term
  ordered : best.Pairwise (Champions.Precedes (s.standing term))
  behind : ∀ doc ∈ s.docsWith term, doc ∉ best → ∀ champion ∈ best, Champions.Precedes (s.standing term) champion doc

section Best
variable {s : Store} {term : String} {count : DocId → Nat} (h : s.Counts term count)
include h

theorem standing_of_mem {p : Posting} (hp : p ∈ s.postingsOf term) :
    s.standing term p.doc = s.score (s.documentFrequency term) p.frequency := by
  obtain ⟨hpos, hcount⟩ := (h.lists.mem_iff p).1 hp
  have hne : count p.doc ≠ 0 := by omega
  rw [standing, h.weight_eq, if_neg hne, ← hcount, score]

/-- **The champions of a term are its best documents, and no other list is.** -/
theorem best_iff {r : Nat} {best : List DocId} :
    s.Best term r best ↔ best = Champions.top (s.score (s.documentFrequency term)) r (s.postingsOf term) := by
  have hlength : (s.docsWith term).length = s.documentFrequency term := List.length_map _
  have hbest : s.Best term r best ↔ Champions.Leading (s.standing term) (s.docsWith term) r best := by
    constructor
    · rintro ⟨hcount, hnodup, hcontain, hordered, hbehind⟩
      exact ⟨hlength ▸ hcount, hnodup, hcontain, hordered, hbehind⟩
    · rintro ⟨hcount, hnodup, hcontain, hordered, hbehind⟩
      exact ⟨hlength ▸ hcount, hnodup, hcontain, hordered, hbehind⟩
  rw [hbest]
  exact Champions.leading_iff (fun p hp => standing_of_mem h hp) h.nodup_docsWith

end Best

end Store

namespace Index

/-- **Champion lists name the best documents.** After every history, a rebuild with at most `r` champions a term leaves
this:
* the terms with a champion list are those that occur, and the list of a term is the one list of its best documents;
* the lists are the same in whatever order the terms come;
* the list for a greater number goes on where this one ends;
* a further rebuild with the same number changes nothing. -/
theorem updateChampions_selects_best (t : Tokenizer) (w : Weighting) (updates : List Update) (r : Nat) :
    let index := history t w updates
    let store := (index.updateChampions r).store
    (∀ term list, store.championsOf? term = some list ↔ store.contains term = true ∧ store.Best term r list) ∧
    (∀ term, (store.championsOf? term).isSome = store.contains term) ∧
    (∀ entries : List (String × List Posting), entries.Perm store.postings.toList →
      ∀ term : String, (Champions.collect store.score r entries)[term]? = store.championsOf? term) ∧
    (∀ r', r ≤ r' → ∀ term list, store.championsOf? term = some list →
      ∃ more, (index.updateChampions r').store.championsOf? term = some (list ++ more)) ∧
    (index.updateChampions r).updateChampions r = index.updateChampions r := by
  intro index store
  have hcounts (term : String) : ∃ count, store.Counts term count := by
    have hlater := counts_history t w (updates ++ [.champions r]) term
    rw [history_append] at hlater
    exact ⟨_, hlater⟩
  have hlists (r : Nat) (term : String) : (index.updateChampions r).store.championsOf? term =
      index.store.postings[term]?.map fun list => Champions.top (index.store.score list.length) r list :=
    index.store.getElem?_freshChampions r term
  refine ⟨fun term list => ?_, fun term => index.store.contains_freshChampions r term, ?_, ?_, rfl⟩
  · obtain ⟨count, hcount⟩ := hcounts term
    rw [hlists, Store.best_iff hcount, Store.contains, Std.TreeMap.contains_eq_isSome_getElem?,
      Store.documentFrequency, Store.postingsOf, Std.TreeMap.getD_eq_getD_getElem?]
    -- a rebuild keeps the postings and how they are scored
    show _ ↔ index.store.postings[term]?.isSome = true ∧ list = Champions.top
      (index.store.score (index.store.postings[term]?.getD []).length) r (index.store.postings[term]?.getD [])
    cases index.store.postings[term]? with
    | none => simp
    | some postings => simp [eq_comm]
  · intro entries hentries term
    exact Champions.getElem?_collect hentries term
  · intro r' hr term list hlist
    rw [hlists, Option.map_eq_some_iff] at hlist
    obtain ⟨postings, hpostings, rfl⟩ := hlist
    obtain ⟨more, hmore⟩ := Champions.top_prefix_top (index.store.score postings.length) hr postings
    exact ⟨more, by rw [hlists, hpostings, Option.map_some, hmore]⟩

end Index

end Retrieval
