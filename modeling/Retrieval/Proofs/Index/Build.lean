import Mathlib.Data.List.SplitBy
import Retrieval.Proofs.Index.Bounds
import Retrieval.Proofs.Ordered

/-!
# The build by sorted pairs

An index can be built with one sort. Every document of a corpus takes a slot, which keeps the last of its texts, and the
terms of all slots are laid out as pairs of a term and an id. Once these are sorted, the pairs of a term are one run, in
which equal ids are neighbours: the list of a term is folded by looking at no more than its last posting. Lengths come
last, from the weights that the finished postings give. This build makes the same index.

* `Slots`, `Slots.put`, `Slots.terms?_put` : documents with their terms, in the order of their first listing;
* `pairs`, `Slots.count_pairs` : the pairs of some documents, and how often each of them is there;
* `addPair`, `Lists.addPair`, `lists_foldRun` : a run is folded into the list of its counts;
* `TermRun`, `pairwise_runs` : a sorted list falls into one run for every term;
* `postingsOfPairs`, `counts_postingsOfPairs` : the lists of all runs count the pairs;
* `Index.fill`, `Index.build` : the build;
* `Index.Agrees`, `Index.Agrees.build`, `Index.agrees_history` : it agrees with `Index.indexCorpus` in all that an
  index answers, after every history.
-/

namespace Retrieval

/-! ## Slots -/

/-- Documents with their terms and the way to each of them. A document has a slot just if it stands there. -/
structure Slots where
  documents : Array (DocId × List String) := #[]
  places : Std.TreeMap DocId Nat := ∅
  place_iff : ∀ (id : DocId) (i : Nat), places[id]? = some i ↔ documents[i]?.map Prod.fst = some id := by simp

namespace Slots

instance : EmptyCollection Slots := ⟨{}⟩

/-- Puts the terms of a document into its slot, which is a new one at the end unless it has one. -/
def put (s : Slots) (id : DocId) (terms : List String) : Slots :=
  match h : s.places[id]? with
  | some place => { s with
      documents := s.documents.modify place fun document => (document.1, terms)
      place_iff := fun id i => by
        rw [s.place_iff, Array.getElem?_modify]
        split <;> simp [Function.comp_def] }
  | none => {
      documents := s.documents.push (id, terms)
      places := s.places.insert id s.documents.size
      place_iff := fun other i => by
        have hfresh : s.documents[i]?.map Prod.fst ≠ some id := fun hi => by
          rw [(s.place_iff id i).2 hi] at h
          cases h
        have hknown := s.place_iff other i
        rw [getElem?_insert_ite, Array.getElem?_push]
        by_cases hother : other = id <;> by_cases hi : i = s.documents.size <;> simp_all [eq_comm] }

/-- The terms of a document that has a slot. -/
def terms? (s : Slots) (id : DocId) : Option (List String) := (s.places[id]?.bind (s.documents[·]?)).map Prod.snd

theorem terms?_eq_some_iff {s : Slots} {id : DocId} {terms : List String} :
    s.terms? id = some terms ↔ (id, terms) ∈ s.documents.toList := by
  rw [terms?, Array.mem_toList_iff, Array.mem_iff_getElem?]
  simp only [Option.map_eq_some_iff, Option.bind_eq_some_iff]
  constructor
  · rintro ⟨document, ⟨place, hplace, hdocument⟩, rfl⟩
    rw [s.place_iff, hdocument, Option.map_some, Option.some.injEq] at hplace
    exact ⟨place, by rw [hdocument, ← hplace]⟩
  · rintro ⟨place, hdocument⟩
    exact ⟨_, ⟨place, (s.place_iff id place).2 (by rw [hdocument]; rfl), hdocument⟩, rfl⟩

theorem nodup_documents (s : Slots) : (s.documents.toList.map Prod.fst).Nodup := by
  rw [List.nodup_iff_getElem?_ne_getElem?]
  intro i j hij hj heq
  have hplace (k : Nat) (id : DocId) (h : (s.documents.toList.map Prod.fst)[k]? = some id) :
      s.places[id]? = some k := by
    rw [s.place_iff, ← h, List.getElem?_map, Array.getElem?_toList]
  have hsecond := List.getElem?_eq_getElem hj
  have := (hplace i _ (heq.trans hsecond)).symm.trans (hplace j _ hsecond)
  simp at this
  omega

theorem terms?_put (s : Slots) (id : DocId) (terms : List String) (other : DocId) :
    (s.put id terms).terms? other = if other = id then some terms else s.terms? other := by
  unfold put
  split
  · next place hplace =>
    have hdocument := (s.place_iff id place).1 hplace
    unfold terms?
    by_cases h : other = id
    · subst h
      rw [if_pos rfl, hplace, Option.bind_some, Array.getElem?_modify, if_pos rfl, Option.map_map]
      obtain ⟨document, hdocument, -⟩ := Option.map_eq_some_iff.1 hdocument
      rw [hdocument]
      rfl
    · rw [if_neg h]
      refine congrArg _ (Option.bind_congr fun i hi => ?_)
      rw [Array.getElem?_modify, if_neg]
      rintro rfl
      rw [s.place_iff, hdocument, Option.some.injEq] at hi
      exact h hi.symm
  · next hplace =>
    unfold terms?
    rw [getElem?_insert_ite]
    by_cases h : other = id
    · rw [if_pos h, if_pos h, Option.bind_some, Array.getElem?_push_size, Option.map_some]
    · rw [if_neg h, if_neg h]
      refine congrArg _ (Option.bind_congr fun i hi => ?_)
      rw [Array.getElem?_push, if_neg]
      rintro rfl
      rw [s.place_iff, Array.getElem?_eq_none (Nat.le_refl _)] at hi
      cases hi

end Slots

/-! ## Pairs -/

def pairs (documents : List (DocId × List String)) : List (String × DocId) :=
  documents.flatMap fun (id, terms) => terms.map fun term => (term, id)

theorem count_map_pair (terms : List String) (id doc : DocId) (term : String) :
    (terms.map fun term => (term, id)).count (term, doc) = if doc = id then terms.count term else 0 := by
  by_cases h : doc = id
  · subst h
    rw [if_pos rfl]
    exact List.count_map_of_injective terms (fun term => (term, doc)) (fun _ _ h => congrArg Prod.fst h) term
  · rw [if_neg h, List.count_eq_zero, List.mem_map]
    rintro ⟨_, -, heq⟩
    exact h (congrArg Prod.snd heq).symm

theorem count_pairs_of_notMem {documents : List (DocId × List String)} {doc : DocId}
    (h : doc ∉ documents.map Prod.fst) (term : String) : (pairs documents).count (term, doc) = 0 := by
  rw [List.count_eq_zero, pairs, List.mem_flatMap]
  rintro ⟨⟨id, terms⟩, hdocument, hpair⟩
  obtain ⟨_, -, heq⟩ := List.mem_map.1 hpair
  exact h (List.mem_map.2 ⟨_, hdocument, congrArg Prod.snd heq⟩)

/-- A pair is there as often as the term is among the terms of the document. -/
theorem Slots.count_pairs (s : Slots) (term : String) (doc : DocId) :
    (pairs s.documents.toList).count (term, doc) = ((s.terms? doc).getD []).count term := by
  cases hterms : s.terms? doc with
  | none =>
    apply count_pairs_of_notMem
    rw [List.mem_map]
    rintro ⟨⟨id, terms⟩, hmem, rfl⟩
    rw [terms?_eq_some_iff.2 hmem] at hterms
    cases hterms
  | some terms =>
    obtain ⟨before, after, hsplit⟩ := List.append_of_mem (terms?_eq_some_iff.1 hterms)
    have hdistinct := s.nodup_documents
    rw [hsplit, List.map_append, List.map_cons, List.nodup_append, List.nodup_cons] at hdistinct
    obtain ⟨-, ⟨hafter, -⟩, hbefore⟩ := hdistinct
    have hbefore : doc ∉ before.map Prod.fst := fun h => hbefore doc h doc List.mem_cons_self rfl
    have happend : pairs s.documents.toList =
        pairs before ++ ((terms.map fun term => (term, doc)) ++ pairs after) := by
      rw [hsplit, pairs, List.flatMap_append, List.flatMap_cons, pairs, pairs]
    rw [happend, List.count_append, List.count_append, count_pairs_of_notMem hbefore, count_pairs_of_notMem hafter,
      count_map_pair, if_pos rfl, Nat.zero_add, Nat.add_zero, Option.getD_some]

def pairOrder (a b : String × DocId) : Bool := decide (a.1 < b.1 ∨ a.1 = b.1 ∧ a.2 ≤ b.2)

theorem pairOrder_iff {a b : String × DocId} : pairOrder a b = true ↔ a.1 < b.1 ∨ a.1 = b.1 ∧ a.2 ≤ b.2 :=
  decide_eq_true_iff

theorem pairwise_sorted (l : List (String × DocId)) : (l.mergeSort pairOrder).Pairwise fun a b => pairOrder a b := by
  apply List.pairwise_mergeSort
  · intro a b c hab hbc
    rw [pairOrder_iff] at *
    rcases hab with hab | ⟨hab, hab'⟩
    · rcases hbc with hbc | ⟨hbc, -⟩
      · exact .inl (hab.trans hbc)
      · exact .inl (hbc ▸ hab)
    · rcases hbc with hbc | ⟨hbc, hbc'⟩
      · exact .inl (hab ▸ hbc)
      · exact .inr ⟨hab.trans hbc, hab'.trans hbc'⟩
  · intro a b
    rw [Bool.or_eq_true, pairOrder_iff, pairOrder_iff]
    rcases lt_trichotomy a.1 b.1 with hlt | heq | hgt
    · exact .inl (.inl hlt)
    · rcases Nat.le_total a.2 b.2 with hle | hle
      · exact .inl (.inr ⟨heq, hle⟩)
      · exact .inr (.inr ⟨heq.symm, hle⟩)
    · exact .inr (.inl hgt)

/-! ## Runs -/

/-- Takes one more pair into the list of its term: into the last posting if that is of the same document, and else as a
new one. -/
def addPair (list : List Posting) (pair : String × DocId) : List Posting :=
  match list.getLast? with
  | some last =>
    if last.doc = pair.2 then list.dropLast ++ [{ last with frequency := last.frequency + 1 }]
    else list ++ [⟨pair.2, 1⟩]
  | none => [⟨pair.2, 1⟩]

def foldRun (run : List (String × DocId)) : List Posting := run.foldl addPair []

/-- A pair counts once more for its document, if no document before has a greater id. -/
theorem Lists.addPair {list : List Posting} {count : DocId → Nat} (h : Lists list count) {pair : String × DocId}
    (hle : ∀ p ∈ list, p.doc ≤ pair.2) :
    Lists (addPair list pair) fun doc => count doc + if doc = pair.2 then 1 else 0 := by
  obtain ⟨term, id⟩ := pair
  rcases List.eq_nil_or_concat list with rfl | ⟨before, last, rfl⟩
  · have hzero := h.eq_nil_iff.1 rfl
    refine ⟨List.pairwise_singleton _ _, fun ⟨doc, n⟩ => ?_⟩
    simp only [Retrieval.addPair, List.getLast?_nil, List.mem_singleton, Posting.mk.injEq, hzero]
    grind
  · rw [List.concat_eq_append] at *
    obtain ⟨hascending, hmem⟩ := h
    obtain ⟨hfront, -, hbefore⟩ := List.pairwise_append.1 hascending
    have hlast := (hmem last).1 (List.mem_append_right before (List.mem_singleton_self last))
    have hlastLe : last.doc ≤ id := hle last (List.mem_append_right before (List.mem_singleton_self last))
    have hnew : Retrieval.addPair (before ++ [last]) (term, id) =
        if last.doc = id then before ++ [{ last with frequency := last.frequency + 1 }]
        else before ++ [last] ++ [⟨id, 1⟩] := by
      rw [Retrieval.addPair, List.getLast?_concat, List.dropLast_concat]
    rw [hnew]
    split
    · next heq =>
      subst heq
      refine ⟨List.pairwise_append.2 ⟨hfront, List.pairwise_singleton _ _, ?_⟩, fun ⟨doc, n⟩ => ?_⟩
      · intro p hp q hq
        rw [List.mem_singleton.1 hq]
        exact hbefore p hp last (List.mem_singleton_self last)
      · have hold := hmem ⟨doc, n⟩
        have hfresh (hp : ⟨doc, n⟩ ∈ before) : doc < last.doc := hbefore _ hp last (List.mem_singleton_self last)
        by_cases hdoc : doc = last.doc
        · grind
        · grind
    · next hne =>
      have hless : last.doc < id := Nat.lt_of_le_of_ne hlastLe hne
      have hall : ∀ p ∈ before ++ [last], p.doc < id := by
        intro p hp
        rcases List.mem_append.1 hp with hp | hp
        · exact (hbefore p hp last (List.mem_singleton_self last)).trans hless
        · rwa [List.mem_singleton.1 hp]
      have hzero : count id = 0 := by
        by_contra hpos
        exact Nat.lt_irrefl id (hall ⟨id, count id⟩ ((hmem _).2 ⟨Nat.pos_of_ne_zero hpos, rfl⟩))
      refine ⟨List.pairwise_append.2 ⟨hascending, List.pairwise_singleton _ _, ?_⟩, fun ⟨doc, n⟩ => ?_⟩
      · intro p hp q hq
        rw [List.mem_singleton.1 hq]
        exact hall p hp
      · rw [List.mem_append, List.mem_singleton, Posting.mk.injEq, hmem]
        change 1 ≤ n ∧ n = count doc ∨ doc = id ∧ n = 1 ↔ 1 ≤ n ∧ n = count doc + if doc = id then 1 else 0
        by_cases hdoc : doc = id
        · rw [if_pos hdoc, hdoc, hzero]
          grind
        · rw [if_neg hdoc]
          grind

/-- **A sorted run of one term is folded into the list of its counts.** -/
theorem lists_foldRun {run : List (String × DocId)} (h : (run.map Prod.snd).Pairwise (· ≤ ·)) :
    Lists (foldRun run) fun doc => (run.map Prod.snd).count doc := by
  induction run using List.reverseRecOn with
  | nil => exact ⟨List.Pairwise.nil, fun p => by simp [foldRun]; omega⟩
  | append_singleton run pair ih =>
    rw [List.map_append, List.pairwise_append] at h
    have hlists := ih h.1
    have hle : ∀ p ∈ foldRun run, p.doc ≤ pair.2 := by
      intro p hp
      obtain ⟨hpos, hcount⟩ := (hlists.mem_iff p).1 hp
      exact h.2.2 p.doc (List.count_pos_iff.1 (by omega)) pair.2 (by simp)
    have hfold : foldRun (run ++ [pair]) = addPair (foldRun run) pair := by
      rw [foldRun, List.foldl_append]
      rfl
    have hcount (doc : DocId) : ((run ++ [pair]).map Prod.snd).count doc =
        (run.map Prod.snd).count doc + if doc = pair.2 then 1 else 0 := by
      rw [List.map_append, List.count_append, List.map_singleton, List.count_singleton]
      simp only [beq_iff_eq, @eq_comm _ doc]
    rw [hfold]
    simp only [hcount]
    exact hlists.addPair hle

/-- The pairs of one term. -/
def TermRun (run : List (String × DocId)) (term : String) : Prop := run ≠ [] ∧ ∀ pair ∈ run, pair.1 = term

/-- Neighbours of the same term stand in one run. -/
def runs (sorted : List (String × DocId)) : List (List (String × DocId)) := sorted.splitBy fun a b => a.1 == b.1

theorem exists_termRun {sorted run : List (String × DocId)} (h : run ∈ runs sorted) : ∃ term, TermRun run term := by
  obtain ⟨pair, rest, rfl⟩ := List.exists_cons_of_ne_nil (List.ne_nil_of_mem_splitBy h)
  refine ⟨pair.1, List.cons_ne_nil _ _, ?_⟩
  have hchain := List.isChain_of_mem_splitBy h
  have htrans : IsTrans (String × DocId) fun a b => (a.1 == b.1) = true := ⟨fun a b c hab hbc => by simp_all⟩
  have hsame := (List.pairwise_cons.1 (List.isChain_iff_pairwise.1 hchain)).1
  intro other hother
  rcases List.mem_cons.1 hother with rfl | hother
  · rfl
  · exact (eq_of_beq (hsame other hother)).symm

/-- **In a sorted list every term has one run.** -/
theorem pairwise_runs {sorted : List (String × DocId)} (h : sorted.Pairwise fun a b => a.1 ≤ b.1) :
    (runs sorted).Pairwise fun a b => ∀ x ∈ a, ∀ y ∈ b, x.1 < y.1 := by
  rw [← List.flatten_splitBy (fun a b => a.1 == b.1) sorted, List.pairwise_flatten] at h
  have hchain := List.isChain_getLast_head_splitBy (fun a b => a.1 == b.1) sorted
  have hterms : ∀ run ∈ runs sorted, ∃ term, TermRun run term := fun _ => exists_termRun
  change (∀ run ∈ runs sorted, _) ∧ (runs sorted).Pairwise _ at h
  obtain ⟨-, hle⟩ := h
  change (runs sorted).IsChain _ at hchain
  generalize runs sorted = all at *
  induction all with
  | nil => exact List.Pairwise.nil
  | cons a all ih =>
    obtain ⟨hfirst, hrest⟩ := List.pairwise_cons.1 hle
    refine List.pairwise_cons.2 ⟨?_, ih (fun run h => hterms run (List.mem_cons_of_mem _ h)) hrest hchain.tail⟩
    cases all with
    | nil => exact fun _ h => absurd h List.not_mem_nil
    | cons b all =>
      obtain ⟨t, -, ht⟩ := hterms a List.mem_cons_self
      obtain ⟨u, hb, hu⟩ := hterms b (List.mem_cons_of_mem _ List.mem_cons_self)
      obtain ⟨ha, hhead, hdiffer⟩ := (List.isChain_cons_cons.1 hchain).1
      -- the terms of the two runs differ where they meet, and the later one is greater
      have hlt : t < u := by
        have hmeet := hfirst b List.mem_cons_self _ (List.getLast_mem ha) _ (List.head_mem hb)
        rw [ht _ (List.getLast_mem ha), hu _ (List.head_mem hb)] at hmeet hdiffer
        exact lt_of_le_of_ne hmeet (by simpa using hdiffer)
      intro c hc x hx y hy
      rw [ht x hx]
      rcases List.mem_cons.1 hc with rfl | hc
      · rwa [hu y hy]
      · have hbehind := (List.pairwise_cons.1 hrest).1 c hc _ (List.head_mem hb) y hy
        rw [hu _ (List.head_mem hb)] at hbehind
        exact lt_of_lt_of_le hlt hbehind

def insertRun (p : Postings) (run : List (String × DocId)) : Postings :=
  match run with
  | [] => p
  | (term, _) :: _ => p.insert term (foldRun run)

def postingsOfPairs (sorted : List (String × DocId)) : Postings := (runs sorted).foldl insertRun ∅

theorem getElem?_foldl_insertRun {all : List (List (String × DocId))} (hruns : ∀ run ∈ all, ∃ term, TermRun run term)
    (hdistinct : all.Pairwise fun a b => ∀ x ∈ a, ∀ y ∈ b, x.1 < y.1) (p : Postings) (term : String) :
    (all.foldl insertRun p)[term]? =
      if all.flatten.filter (·.1 = term) = [] then p[term]?
      else some (foldRun (all.flatten.filter (·.1 = term))) := by
  induction all generalizing p with
  | nil => rfl
  | cons run all ih =>
    obtain ⟨hfirst, hrest⟩ := List.pairwise_cons.1 hdistinct
    rw [List.foldl_cons, ih (fun run h => hruns run (List.mem_cons_of_mem _ h)) hrest, List.flatten_cons,
      List.filter_append]
    obtain ⟨t, hne, hterm⟩ := hruns run List.mem_cons_self
    obtain ⟨⟨first, id⟩, rest, rfl⟩ := List.exists_cons_of_ne_nil hne
    obtain rfl : first = t := hterm _ List.mem_cons_self
    rw [insertRun, getElem?_insert_ite]
    by_cases h : term = first
    · subst h
      have hrun : ((term, id) :: rest).filter (·.1 = term) = (term, id) :: rest := by
        rw [List.filter_eq_self]
        exact fun pair hpair => decide_eq_true (hterm pair hpair)
      have hnone : all.flatten.filter (·.1 = term) = [] := by
        rw [List.filter_eq_nil_iff]
        intro pair hpair heq
        obtain ⟨run, hrun, hpair⟩ := List.mem_flatten.1 hpair
        exact (hfirst run hrun _ List.mem_cons_self pair hpair).ne' (of_decide_eq_true heq)
      rw [hrun, hnone, if_pos rfl, if_pos rfl, List.append_nil, if_neg (List.cons_ne_nil _ _)]
    · have hrun : ((first, id) :: rest).filter (·.1 = term) = [] := by
        rw [List.filter_eq_nil_iff]
        intro pair hpair heq
        exact h ((of_decide_eq_true heq).symm.trans (hterm pair hpair))
      rw [hrun, List.nil_append, if_neg h]

/-- **The list of a term is folded from its pairs.** -/
theorem getElem?_postingsOfPairs {sorted : List (String × DocId)} (h : sorted.Pairwise fun a b => a.1 ≤ b.1)
    (term : String) : (postingsOfPairs sorted)[term]? =
      if sorted.filter (·.1 = term) = [] then none else some (foldRun (sorted.filter (·.1 = term))) := by
  rw [postingsOfPairs, getElem?_foldl_insertRun (fun _ => exists_termRun) (pairwise_runs h), runs, List.flatten_splitBy]
  rfl

theorem count_filter_term (l : List (String × DocId)) (term : String) (doc : DocId) :
    ((l.filter (·.1 = term)).map Prod.snd).count doc = l.count (term, doc) := by
  rw [List.count, List.countP_map, List.countP_filter, List.count]
  refine List.countP_congr fun pair _ => ?_
  simp [Prod.ext_iff, and_comm]

/-- **Sorted pairs make the postings of their counts.** -/
theorem counts_postingsOfPairs (l : List (String × DocId)) (term : String) :
    Store.Counts { postings := postingsOfPairs (l.mergeSort pairOrder) } term fun doc => l.count (term, doc) := by
  have hsorted := pairwise_sorted l
  have hcount (doc : DocId) :
      (((l.mergeSort pairOrder).filter (·.1 = term)).map Prod.snd).count doc = l.count (term, doc) := by
    rw [count_filter_term]
    exact (List.mergeSort_perm l pairOrder).count_eq _
  have hterms : (l.mergeSort pairOrder).Pairwise fun a b => a.1 ≤ b.1 := by
    refine hsorted.imp fun hab => ?_
    rcases pairOrder_iff.1 hab with hlt | ⟨heq, -⟩
    · exact hlt.le
    · exact heq.le
  have hids : (((l.mergeSort pairOrder).filter (·.1 = term)).map Prod.snd).Pairwise (· ≤ ·) := by
    rw [List.pairwise_map]
    refine (hsorted.filter _).imp_of_mem fun {a b} ha hb hab => ?_
    have hsame : a.1 = b.1 := by
      rw [List.mem_filter, decide_eq_true_iff] at ha hb
      exact ha.2.trans hb.2.symm
    rcases pairOrder_iff.1 hab with hlt | ⟨-, hle⟩
    · exact absurd hsame hlt.ne
    · exact hle
  have hlists := lists_foldRun hids
  have hget := getElem?_postingsOfPairs hterms term
  simp only [hcount] at hlists
  generalize (l.mergeSort pairOrder).filter (·.1 = term) = run at *
  constructor
  · rw [Store.postingsOf, Std.TreeMap.getD_eq_getD_getElem?, hget]
    split
    · next hnil => rwa [hnil] at hlists
    · exact hlists
  · rw [hget]
    simp only [← hcount, List.count_eq_zero]
    split
    · next hnil => simp [hnil]
    · next hne =>
      obtain ⟨pair, hpair⟩ := List.exists_mem_of_ne_nil run hne
      simp only [reduceCtorEq, false_iff, not_forall, not_not]
      exact ⟨pair.2, List.mem_map_of_mem hpair⟩

/-! ## The index -/

namespace Index

/-- Takes in one document: its address gets an id, and its terms get the slot of the id. -/
def slotStep (t : Tokenizer) (state : Vocabulary × Slots) (document : String × String) : Vocabulary × Slots :=
  let (v, id) := state.1.add document.1
  (v, state.2.put id (t.tokenize document.2))

/-- The vocabulary after a corpus of addresses and texts, and the slots of its documents. -/
def fill (index : Index) (corpus : List (String × String)) : Vocabulary × Slots :=
  corpus.foldl (slotStep index.tokenizer) (index.vocabulary, ∅)

/-- The length of a document: the root of the sum of the squared weights that a store answers for its distinct terms,
which are taken in ascending order. -/
def lengthOf (s : Store) (doc : DocId) (terms : List String) : Float :=
  let distinct := (terms.mergeSort fun a b => decide (a ≤ b)).eraseReps
  (distinct.foldl (fun sum term => sum + s.weight term doc * s.weight term doc) (-0.0)).sqrt

/-- Indexes a corpus by slots and sorted pairs. -/
def build (index : Index) (corpus : List (String × String)) : Index :=
  let (vocabulary, slots) := index.fill corpus
  let documents := slots.documents.toList
  let store := { index.store with
    postings := postingsOfPairs ((pairs documents).mergeSort pairOrder)
    documentCount := vocabulary.size
    championsStale := true }
  let lengths := documents.foldl (fun lengths (id, terms) => lengths.insert id (lengthOf store id terms)) ∅
  { index with vocabulary, store := { store with lengths } }

/-- Slots hold the terms of the last texts of a corpus. -/
theorem terms?_fill (index : Index) (corpus : List (String × String)) (doc : DocId) :
    (index.fill corpus).2.terms? doc =
      (textOf? (index.fill corpus).1 corpus doc).map index.tokenizer.tokenize := by
  induction corpus using List.reverseRecOn with
  | nil =>
    change none = ((index.vocabulary.url? doc).bind fun _ => none).map index.tokenizer.tokenize
    cases index.vocabulary.url? doc <;> rfl
  | append_singleton corpus document ih =>
    rw [fill, List.foldl_append, List.foldl_cons, List.foldl_nil, slotStep, Slots.terms?_put, textOf?_add]
    split
    · rfl
    · exact ih

theorem vocabulary_fill (index : Index) (corpus : List (String × String)) :
    (index.fill corpus).1 = (index.gather corpus).1 := by
  have hfold (state : Vocabulary × Slots) :
      (corpus.foldl (slotStep index.tokenizer) state).1 = (state.1.addAll (corpus.map Prod.fst)).1 := by
    induction corpus generalizing state with
    | nil => rfl
    | cons document corpus ih =>
      rw [List.foldl_cons, ih]
      rfl
  rw [vocabulary_gather]
  exact hfold (index.vocabulary, ∅)

end Index

/-! ## Lengths -/

theorem getElem?_foldl_insert_of_notMem {β : Type} {f : DocId → List String → β} {doc : DocId}
    {documents : List (DocId × List String)} (h : doc ∉ documents.map Prod.fst) (m : Std.TreeMap DocId β) :
    (documents.foldl (fun m (id, terms) => m.insert id (f id terms)) m)[doc]? = m[doc]? := by
  induction documents generalizing m with
  | nil => rfl
  | cons document documents ih =>
    rw [List.map_cons, List.mem_cons, not_or] at h
    rw [List.foldl_cons, ih h.2, getElem?_insert_ite, if_neg h.1]

/-- What is computed for every document is found under its id. -/
theorem Slots.getElem?_foldl_insert {β : Type} (s : Slots) (f : DocId → List String → β) (doc : DocId) :
    (s.documents.toList.foldl (fun m (id, terms) => m.insert id (f id terms)) (∅ : Std.TreeMap DocId β))[doc]? =
      (s.terms? doc).map (f doc) := by
  cases hterms : s.terms? doc with
  | none =>
    rw [getElem?_foldl_insert_of_notMem, Std.TreeMap.getElem?_emptyc, Option.map_none]
    rw [List.mem_map]
    rintro ⟨⟨id, terms⟩, hmem, rfl⟩
    rw [terms?_eq_some_iff.2 hmem] at hterms
    cases hterms
  | some terms =>
    obtain ⟨before, after, hsplit⟩ := List.append_of_mem (terms?_eq_some_iff.1 hterms)
    have hdistinct := s.nodup_documents
    rw [hsplit, List.map_append, List.map_cons, List.nodup_append, List.nodup_cons] at hdistinct
    rw [hsplit, List.foldl_append, List.foldl_cons, getElem?_foldl_insert_of_notMem hdistinct.2.1.1,
      getElem?_insert_ite, if_pos rfl, Option.map_some]

namespace Index

/-- Sorting terms and dropping the repetitions next to each other leaves every term once, in ascending order. -/
theorem eraseReps_mergeSort (terms : List String) :
    (terms.mergeSort fun a b => decide (a ≤ b)).eraseReps = distinctTerms (terms : Multiset String) := by
  have hsorted : (terms.mergeSort fun a b => decide (a ≤ b)).Pairwise (· ≤ ·) := List.pairwise_mergeSort' (· ≤ ·) terms
  have hascending := (pairwise_eraseReps (fun _ _ => le_antisymm) hsorted).imp fun h => lt_of_le_of_ne h.1 h.2
  have hmem : (terms.mergeSort fun a b => decide (a ≤ b)).eraseReps.toFinset = (terms : Multiset String).toFinset := by
    ext term
    rw [List.mem_toFinset, mem_eraseReps, List.mem_mergeSort, Multiset.mem_toFinset, Multiset.mem_coe]
  rw [distinctTerms, ← hmem]
  exact ((List.toFinset_sort (· ≤ ·) (hascending.imp ne_of_lt)).2 (hascending.imp le_of_lt)).symm

theorem lengthOf_eq_norm (s : Store) (doc : DocId) (terms : List String) :
    lengthOf s doc terms = Weight.norm ((distinctTerms (terms : Multiset String)).map (s.weight · doc)) := by
  rw [lengthOf, eraseReps_mergeSort, Weight.norm, List.foldl_map]

end Index

/-! ## Agreement -/

/-- Stores that answer alike. -/
structure Store.Agrees (s s' : Store) : Prop where
  postings (term : String) : s.postings[term]? = s'.postings[term]?
  documentCount : s.documentCount = s'.documentCount
  length (doc : DocId) : s.length doc = s'.length doc
  championsOf? (term : String) : s.championsOf? term = s'.championsOf? term
  championsStale : s.championsStale = s'.championsStale
  weighting : s.weighting = s'.weighting

theorem Store.Agrees.updateChampions {s s' : Store} (h : s.Agrees s') (r : Nat) :
    (s.updateChampions r).Agrees (s'.updateChampions r) where
  postings := h.postings
  documentCount := h.documentCount
  length := h.length
  championsOf? term := by
    have hcombine (df n : Nat) : (s.combine df n : Float) = s'.combine df n := by
      rw [combine, combine, h.weighting, h.documentCount]
    rw [Store.updateChampions, Store.updateChampions, championsOf?_rankChampions, championsOf?_rankChampions,
      h.postings]
    simp only [hcombine]
  championsStale := rfl
  weighting := h.weighting

namespace Index

/-- Indexes that answer alike. -/
structure Agrees (index index' : Index) : Prop where
  vocabulary : index.vocabulary = index'.vocabulary
  tokenizer : index.tokenizer = index'.tokenizer
  store : index.store.Agrees index'.store

section Build
variable {index index' : Index} (h : index.Agrees index') (corpus : List (String × String))
include h

theorem Agrees.vocabulary_build : (index.build corpus).vocabulary = (index'.indexCorpus corpus).vocabulary := by
  change (index.fill corpus).1 = (index'.gather corpus).1
  rw [vocabulary_fill, vocabulary_gather, vocabulary_gather, h.vocabulary]

/-- **The lists that are folded from sorted pairs are those that count the documents.** -/
theorem Agrees.postings_build (term : String) :
    (index.build corpus).store.postings[term]? = (index'.indexCorpus corpus).store.postings[term]? := by
  have hpairs := counts_postingsOfPairs (pairs (index.fill corpus).2.documents.toList) term
  refine hpairs.getElem?_congr ((reflects_indexCorpus index' corpus).counts term) fun doc => ?_
  have hvocabulary : (index.fill corpus).1 = (index'.indexCorpus corpus).vocabulary := h.vocabulary_build corpus
  have htokenizer : index.tokenizer = (index'.indexCorpus corpus).tokenizer := h.tokenizer
  rw [Slots.count_pairs, terms?_fill, hvocabulary, htokenizer]
  cases textOf? (index'.indexCorpus corpus).vocabulary corpus doc <;> rfl

theorem Agrees.length_build (doc : DocId) :
    (index.build corpus).store.length doc = (index'.indexCorpus corpus).store.length doc := by
  have hlengths : (index.build corpus).store.lengths[doc]? =
      ((index.fill corpus).2.terms? doc).map (lengthOf (index.build corpus).store doc) :=
    Slots.getElem?_foldl_insert _ _ doc
  have hvocabulary : (index.fill corpus).1 = (index'.indexCorpus corpus).vocabulary := h.vocabulary_build corpus
  have hweight (term : String) :
      (index.build corpus).store.weight term doc = (index'.indexCorpus corpus).store.weight term doc :=
    Store.weight_congr (h.postings_build corpus term) (congrArg Vocabulary.size (h.vocabulary_build corpus))
      h.store.weighting doc
  rw [measures_indexCorpus index' corpus doc, Store.length, hlengths, terms?_fill, hvocabulary]
  cases textOf? (index'.indexCorpus corpus).vocabulary corpus doc with
  | none => rfl
  | some text =>
    refine congrArg Except.ok ?_
    rw [lengthOf_eq_norm, h.tokenizer]
    exact congrArg Weight.norm (List.map_congr_left fun term _ => hweight term)

/-- **The build by sorted pairs makes the same index.** -/
theorem Agrees.build : (index.build corpus).Agrees (index'.indexCorpus corpus) where
  vocabulary := h.vocabulary_build corpus
  tokenizer := h.tokenizer
  store := {
    postings := h.postings_build corpus
    documentCount := congrArg Vocabulary.size (h.vocabulary_build corpus)
    length := h.length_build corpus
    championsOf? := h.store.championsOf?
    championsStale := rfl
    weighting := h.store.weighting }

end Build

/-- The index after an update, where corpora are indexed by sorted pairs. -/
def updateBySort (index : Index) : Update → Index
  | .corpus documents => index.build documents
  | .champions r => index.updateChampions r

/-- **After every history the indexes agree**, whether corpora are indexed by sorted pairs or not. -/
theorem agrees_history (t : Tokenizer) (w : Weighting) (updates : List Update) :
    (updates.foldl updateBySort (new t w)).Agrees (history t w updates) := by
  induction updates using List.reverseRecOn with
  | nil => exact ⟨rfl, rfl, ⟨fun _ => rfl, rfl, fun _ => rfl, fun _ => rfl, rfl, rfl⟩⟩
  | append_singleton updates u ih =>
    rw [history_append, List.foldl_append]
    cases u with
    | corpus documents => exact ih.build documents
    | champions r => exact ⟨ih.vocabulary, ih.tokenizer, ih.store.updateChampions r⟩

end Index

end Retrieval
