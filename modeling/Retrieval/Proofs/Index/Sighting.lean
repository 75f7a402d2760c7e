import Retrieval.Proofs.Index.History

/-!
# Ids in the order of first sighting

An address that is added for the first time goes behind all others, and nothing ever leaves its place. So the ids of a
vocabulary can be read off the addresses that were added: they are the places in the list of these addresses without
its repetitions.

* `Vocabulary.id?_eq_idxOf?` : ids are places among the addresses;
* `Vocabulary.addAll` : addresses added one after the other, with the ids they were answered with;
* `Vocabulary.toList_add`, `Vocabulary.id_add` : what one address does, and how it is answered;
* `Vocabulary.toList_addAll`, `Vocabulary.ids_addAll` : the same for a sequence of them;
* `Index.listed` : the addresses of all corpora of a history;
* `Index.vocabulary_history` : a history adds the addresses that its corpora list;
* `Index.ids_follow_first_sighting` : ids after any addresses, and after any history.
-/

namespace Retrieval

theorem eraseDups_append_singleton (l : List String) (s : String) :
    (l ++ [s]).eraseDups = if s ∈ l then l.eraseDups else l.eraseDups ++ [s] := by
  rw [List.eraseDups_append]
  by_cases h : s ∈ l
  · simp [List.removeAll, h]
  · simp [List.removeAll, h, List.eraseDups_cons]

namespace Vocabulary

variable {v : Vocabulary} {url : String}

/-! ## Places -/

theorem url?_eq_getElem? (v : Vocabulary) (id : DocId) : v.url? id = v.urls.toList[id]? := by
  simp [url?]

theorem nodup_urls (v : Vocabulary) : v.urls.toList.Nodup := by
  rw [List.nodup_iff_getElem?_ne_getElem?]
  intro i j hij hj heq
  have hsome : v.url? j = some v.urls.toList[j] := by rw [url?_eq_getElem?, List.getElem?_eq_getElem hj]
  have hsame : v.url? i = some v.urls.toList[j] := by rw [url?_eq_getElem?, heq, List.getElem?_eq_getElem hj]
  exact absurd (url?_injective hsame hsome) (Nat.ne_of_lt hij)

theorem idxOf_eq_of_url? {id : DocId} (h : v.url? id = some url) : v.urls.toList.idxOf url = id := by
  rw [url?_eq_getElem?] at h
  obtain ⟨hlt, rfl⟩ := List.getElem?_eq_some_iff.1 h
  exact v.nodup_urls.idxOf_getElem id hlt

theorem id?_eq_idxOf? (v : Vocabulary) (url : String) : v.id? url = v.urls.toList.idxOf? url := by
  apply Option.ext
  intro id
  rw [id?_eq_some_iff, List.idxOf?_eq_some_iff]
  constructor
  · intro h
    have hidx := idxOf_eq_of_url? h
    rw [url?_eq_getElem?] at h
    obtain ⟨hlt, hget⟩ := List.getElem?_eq_some_iff.1 h
    refine ⟨hlt, hget, fun j hj hbefore => ?_⟩
    have hj' := v.nodup_urls.idxOf_getElem j (by omega)
    rw [hbefore, hidx] at hj'
    omega
  · rintro ⟨hlt, hget, -⟩
    rw [url?_eq_getElem?, List.getElem?_eq_getElem hlt, hget]

theorem isSome_id?_iff : (v.id? url).isSome ↔ url ∈ v.urls.toList := by
  rw [id?_eq_idxOf?, List.isSome_idxOf?]

/-! ## Adding addresses -/

/-- Adds addresses one after the other. Each is answered with its id. -/
def addAll (v : Vocabulary) : List String → Vocabulary × List DocId
  | [] => (v, [])
  | url :: urls =>
    let (next, id) := v.add url
    let (last, ids) := next.addAll urls
    (last, id :: ids)

theorem toList_add (v : Vocabulary) (url : String) :
    (v.add url).1.urls.toList = if url ∈ v.urls.toList then v.urls.toList else v.urls.toList ++ [url] := by
  have hmem : url ∈ v.urls.toList ↔ v.ids[url]?.isSome := isSome_id?_iff.symm
  unfold add
  split
  · next id h => rw [if_pos (hmem.2 (by rw [h]; rfl))]
  · next h =>
    have hnew : url ∉ v.urls.toList := fun hin => by simpa [h] using hmem.1 hin
    rw [if_neg hnew]
    exact Array.toList_push

theorem id_add (v : Vocabulary) (url : String) : (v.add url).2 = (v.add url).1.urls.toList.idxOf url :=
  (idxOf_eq_of_url? (v.url?_add_self url)).symm

theorem prefix_addAll (v : Vocabulary) (urls : List String) : v.urls.toList <+: (v.addAll urls).1.urls.toList := by
  induction urls generalizing v with
  | nil => exact List.prefix_rfl
  | cons url urls ih =>
    refine List.IsPrefix.trans ?_ (ih (v.add url).1)
    rw [toList_add]
    split
    · exact List.prefix_rfl
    · exact List.prefix_append _ _

theorem toList_addAll {added : List String} (h : v.urls.toList = added.eraseDups) (urls : List String) :
    (v.addAll urls).1.urls.toList = (added ++ urls).eraseDups := by
  induction urls generalizing v added with
  | nil => rwa [List.append_nil]
  | cons url urls ih =>
    have hnext : (v.add url).1.urls.toList = (added ++ [url]).eraseDups := by
      rw [toList_add, eraseDups_append_singleton, h]
      simp
    show ((v.add url).1.addAll urls).1.urls.toList = _
    rw [ih hnext, List.append_assoc, List.singleton_append]

theorem mem_toList_addAll {urls : List String} :
    url ∈ (v.addAll urls).1.urls.toList ↔ url ∈ v.urls.toList ∨ url ∈ urls := by
  induction urls generalizing v with
  | nil => simp [addAll]
  | cons added urls ih =>
    show url ∈ ((v.add added).1.addAll urls).1.urls.toList ↔ _
    rw [ih, toList_add, List.mem_cons]
    split
    · next h =>
      constructor
      · exact Or.imp_right .inr
      · rintro (hold | rfl | hlater)
        · exact .inl hold
        · exact .inl h
        · exact .inr hlater
    · rw [List.mem_append, List.mem_singleton, or_assoc]

/-- An address is answered with its place among all of them, also among those that come later. -/
theorem ids_addAll (v : Vocabulary) (urls : List String) :
    (v.addAll urls).2 = urls.map (v.addAll urls).1.urls.toList.idxOf := by
  induction urls generalizing v with
  | nil => rfl
  | cons url urls ih =>
    show (v.add url).2 :: ((v.add url).1.addAll urls).2 = _
    rw [ih, List.map_cons]
    congr 1
    obtain ⟨later, hlater⟩ := (v.add url).1.prefix_addAll urls
    have hmem : url ∈ (v.add url).1.urls.toList := by
      rw [toList_add]
      split <;> simp [*]
    show _ = ((v.add url).1.addAll urls).1.urls.toList.idxOf url
    rw [id_add, ← hlater, List.idxOf_append, if_pos hmem]

theorem url?_addAll {id : DocId} (h : v.url? id = some url) (urls : List String) :
    (v.addAll urls).1.url? id = some url := by
  rw [url?_eq_getElem?] at h ⊢
  obtain ⟨later, hlater⟩ := v.prefix_addAll urls
  obtain ⟨hlt, -⟩ := List.getElem?_eq_some_iff.1 h
  rw [← hlater, List.getElem?_append_left hlt, h]

/-- The addresses in use are those of a list. Their ids are the places in the order of first sighting, and there are no
other ids. -/
structure Enumerates (v : Vocabulary) (urls : List String) : Prop where
  toList_eq : v.urls.toList = urls.eraseDups
  url?_eq : ∀ id, v.url? id = urls.eraseDups[id]?
  id?_eq : ∀ url, v.id? url = urls.eraseDups.idxOf? url
  exists_url : ∀ id < v.size, ∃ url ∈ urls, v.url? id = some url ∧ v.id? url = some id
  exists_id : ∀ url ∈ urls, ∃ id < v.size, v.id? url = some id ∧ v.url? id = some url
  docs_eq : v.docs.ids = List.range urls.eraseDups.length

theorem enumerates_of_toList {urls : List String} (h : v.urls.toList = urls.eraseDups) : v.Enumerates urls where
  toList_eq := h
  url?_eq id := by rw [url?_eq_getElem?, h]
  id?_eq url := by rw [id?_eq_idxOf?, h]
  exists_url id hid := by
    obtain ⟨url, hurl⟩ := Option.isSome_iff_exists.1 (isSome_url?_iff.2 hid)
    refine ⟨url, ?_, hurl, id?_eq_some_iff.2 hurl⟩
    rw [url?_eq_getElem?, h] at hurl
    exact List.mem_eraseDups.1 (List.mem_of_getElem? hurl)
  exists_id url hurl := by
    have hsome : (v.id? url).isSome := isSome_id?_iff.2 (by rw [h]; exact List.mem_eraseDups.2 hurl)
    obtain ⟨id, hid⟩ := Option.isSome_iff_exists.1 hsome
    have hback := id?_eq_some_iff.1 hid
    exact ⟨id, isSome_url?_iff.1 (by rw [hback]; rfl), hid, hback⟩
  docs_eq := by
    rw [← h, Array.length_toList]
    rfl

end Vocabulary

namespace Index

/-! ## Histories -/

/-- The addresses that the corpora of a history list, all corpora in a row. -/
def listed (updates : List Update) : List String := (updates.filterMap Update.corpus?).flatten.map Prod.fst

theorem listed_append_corpus (updates : List Update) (documents : List (String × String)) :
    listed (updates ++ [.corpus documents]) = listed updates ++ documents.map Prod.fst := by
  simp [listed, Update.corpus?]

theorem listed_append_champions (updates : List Update) (r : Nat) :
    listed (updates ++ [.champions r]) = listed updates := by
  simp [listed, Update.corpus?]

theorem vocabulary_gather (index : Index) (corpus : List (String × String)) :
    (index.gather corpus).1 = (index.vocabulary.addAll (corpus.map Prod.fst)).1 := by
  have hfold (state : Vocabulary × Std.TreeMap DocId TermCounts) :
      (corpus.foldl (gatherStep index.tokenizer) state).1 = (state.1.addAll (corpus.map Prod.fst)).1 := by
    induction corpus generalizing state with
    | nil => rfl
    | cons document corpus ih =>
      rw [List.foldl_cons, ih]
      rfl
  exact hfold (index.vocabulary, ∅)

theorem url?_update {index : Index} {id : DocId} {url : String} (h : index.vocabulary.url? id = some url)
    (u : Update) : (index.update u).vocabulary.url? id = some url := by
  cases u with
  | champions r => exact h
  | corpus documents =>
    show (index.gather documents).1.url? id = some url
    rw [vocabulary_gather]
    exact Vocabulary.url?_addAll h _

theorem url?_history {t : Tokenizer} {w : Weighting} {updates : List Update} {id : DocId} {url : String}
    (h : (history t w updates).vocabulary.url? id = some url) (more : List Update) :
    (history t w (updates ++ more)).vocabulary.url? id = some url := by
  induction more using List.reverseRecOn with
  | nil => rwa [List.append_nil]
  | append_singleton more u ih =>
    rw [← List.append_assoc, history_append]
    exact url?_update ih u

theorem enumerates_history (t : Tokenizer) (w : Weighting) (updates : List Update) :
    (history t w updates).vocabulary.Enumerates (listed updates) := by
  apply Vocabulary.enumerates_of_toList
  induction updates using List.reverseRecOn with
  | nil => rfl
  | append_singleton updates u ih =>
    rw [history_append]
    cases u with
    | champions r => rwa [listed_append_champions]
    | corpus documents =>
      show ((history t w updates).gather documents).1.urls.toList = _
      rw [vocabulary_gather, Vocabulary.toList_addAll ih, listed_append_corpus]

/-- **Ids are dense, stable and in the order of first sighting.**
* After any addresses were added one after the other, the ids in use are the places of these addresses in the order of
  first sighting, the way there and the way back; each address was answered with its place, and whatever is added
  later leaves all ids and addresses together.
* After any history they are the places in the row of all its corpora, which no later corpus or rebuild changes. -/
theorem ids_follow_first_sighting :
    (∀ urls : List String,
      let v := (Vocabulary.addAll ∅ urls).1
      v.Enumerates urls ∧ (Vocabulary.addAll ∅ urls).2 = urls.map urls.eraseDups.idxOf ∧
      ∀ more id url, (v.url? id = some url → (v.addAll more).1.url? id = some url) ∧
        (v.id? url = some id → (v.addAll more).1.id? url = some id)) ∧
    ∀ t w updates,
      let v := (history t w updates).vocabulary
      v.Enumerates (listed updates) ∧
      ∀ more id url, (v.url? id = some url → (history t w (updates ++ more)).vocabulary.url? id = some url) ∧
        (v.id? url = some id → (history t w (updates ++ more)).vocabulary.id? url = some id) := by
  constructor
  · intro urls v
    have hempty : (∅ : Vocabulary).urls.toList = ([] : List String).eraseDups := rfl
    have htoList : v.urls.toList = urls.eraseDups := Vocabulary.toList_addAll hempty urls
    refine ⟨Vocabulary.enumerates_of_toList htoList, ?_, fun more id url => ⟨fun h => ?_, fun h => ?_⟩⟩
    · rw [Vocabulary.ids_addAll, ← htoList]
    · exact Vocabulary.url?_addAll h more
    · rw [Vocabulary.id?_eq_some_iff] at h ⊢
      exact Vocabulary.url?_addAll h more
  · intro t w updates v
    refine ⟨enumerates_history t w updates, fun more id url => ⟨fun h => ?_, fun h => ?_⟩⟩
    · exact url?_history h more
    · rw [Vocabulary.id?_eq_some_iff] at h ⊢
      exact url?_history h more

end Index

end Retrieval
