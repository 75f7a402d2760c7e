import Retrieval.Proofs.Corpus.Document

/-!
# Lists of documents

An array of documents is read from the front of a text. It is read as the documents that its values describe, whatever
follows it, and refused if one of the values describes none.

* `Document.ListReader.feed_inside` : an item of the array is read as a document is;
* `Document.ListReader.feed_array` : the tokens of an array of values;
* `Document.readAll_iff` : a text that begins with an array of values.
-/

namespace Retrieval.Document

open Json (Malformed Token Value feed_cons)

namespace ListReader

variable {v : Value} {rest : List Token} {x : List Document × List Token}

/-- In the middle of an item the tokens are those of a document. -/
theorem feed_inside (done : List Document) (r : Reader) (tokens : List Token) :
    Json.feed step (.inside done r) tokens =
      (Json.feed Reader.step r tokens).bind fun p => Json.feed step (.separator (p.1 :: done)) p.2 := by
  induction tokens generalizing r with
  | nil => rfl
  | cons t tokens ih =>
    rw [feed_cons, feed_cons]
    change ((r.step t).map _).bind _ = _
    cases r.step t with
    | error e => rfl
    | ok next =>
      cases next with
      | inl next => exact ih next
      | inr document => rfl

theorem feed_item (done : List Document) : Json.feed step (.item done) (v.tokens ++ rest) = .ok x ↔
    ∃ d, Describes v d ∧ Json.feed step (.separator (d :: done)) rest = .ok x := by
  have hinside : Json.feed step (.item done) (v.tokens ++ rest) =
      Json.feed step (.inside done {}) (v.tokens ++ rest) := by
    cases v
    all_goals
      rw [Value.tokens]
      rfl
  rw [hinside, feed_inside]
  refine bind_eq_ok_iff.trans ?_
  simp only [Reader.feed_tokens]
  constructor
  · rintro ⟨⟨d, behind⟩, ⟨hd, rfl⟩, h⟩
    exact ⟨d, hd, h⟩
  · rintro ⟨d, hd, h⟩
    exact ⟨(d, rest), ⟨hd, rfl⟩, h⟩

/-- The items behind the first ones, and the end of the array. -/
theorem feed_items (values : List Value) (done : List Document) :
    Json.feed step (.separator done) ((values.map Value.tokens).flatMap (.comma :: ·) ++ .rightBracket :: rest) =
        .ok x ↔
      ∃ documents, List.Forall₂ Describes values documents ∧ x = (done.reverse ++ documents, rest) := by
  induction values generalizing done with
  | nil =>
    rw [List.map_nil, List.flatMap_nil, List.nil_append, feed_cons]
    change Except.ok (ε := Malformed) (done.reverse, rest) = .ok x ↔ _
    simp [List.forall₂_nil_left_iff, eq_comm]
  | cons v values ih =>
    rw [List.map_cons, List.flatMap_cons, List.append_assoc, List.cons_append, feed_cons]
    change Json.feed step (.item done) (v.tokens ++ _) = .ok x ↔ _
    rw [feed_item]
    simp only [ih, List.forall₂_cons_left_iff]
    constructor
    · rintro ⟨d, hd, others, hothers, rfl⟩
      exact ⟨d :: others, ⟨d, others, hd, hothers, rfl⟩, by simp⟩
    · rintro ⟨_, ⟨d, others, hd, hothers, rfl⟩, rfl⟩
      exact ⟨d, hd, others, hothers, by simp⟩

/-- The tokens of an array are read as the documents that its values describe. -/
theorem feed_array (values : List Value) : Json.feed step .start ((Value.array values).tokens ++ rest) = .ok x ↔
    List.Forall₂ Describes values x.1 ∧ x.2 = rest := by
  rw [Value.tokens, Value.itemTokens_eq, List.append_assoc, List.cons_append, List.singleton_append, feed_cons]
  change Json.feed step .firstItem _ = _ ↔ _
  cases values with
  | nil =>
    change Except.ok (ε := Malformed) ([], rest) = .ok x ↔ _
    simp [List.forall₂_nil_left_iff, Prod.ext_iff, eq_comm]
  | cons v values =>
    have hitem (tokens : List Token) :
        Json.feed step .firstItem (v.tokens ++ tokens) = Json.feed step (.item []) (v.tokens ++ tokens) := by
      cases v
      all_goals
        rw [Value.tokens]
        rfl
    rw [List.map_cons, Json.intercalate_cons, List.append_assoc, hitem, feed_item]
    simp only [feed_items, List.forall₂_cons_left_iff]
    constructor
    · rintro ⟨d, hd, others, hothers, rfl⟩
      exact ⟨⟨d, others, hd, hothers, rfl⟩, rfl⟩
    · rintro ⟨⟨d, others, hd, hothers, hx⟩, hrest⟩
      exact ⟨d, hd, others, hothers, Prod.ext hx hrest⟩

end ListReader

/-- **An array at the front of a text is read as the documents that its values describe**, whatever follows it. -/
theorem readAll_iff {chars rest : List Char} {values : List Value} {documents : List Document}
    (h : Json.Spells chars (.array values)) :
    readAll ((chars ++ rest).map some) = .ok documents ↔ List.Forall₂ Describes values documents := by
  have htokens : Token.scan ((chars ++ rest).map some) = _ := h.tokensOf_array_append rest
  rw [readAll, htokens, map_eq_ok_iff]
  simp only [ListReader.feed_array]
  constructor
  · rintro ⟨⟨read, behind⟩, ⟨hread, rfl⟩, rfl⟩
    exact hread
  · intro hdocuments
    exact ⟨(documents, _), ⟨hdocuments, rfl⟩, rfl⟩

end Retrieval.Document
