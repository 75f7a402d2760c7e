import Retrieval.Corpus.Document
import Retrieval.Proofs.Each
import Retrieval.Proofs.Json.Reading

/-!
# The two ways to read a document

A document is read straight from the tokens of its text, or from the value that the text spells. The former is refused
at the first token that does not fit, the latter when all of the value is known. Where no object repeats a key and all
numbers are in range they accept the same texts, and make the same documents of them. The reader of tokens does not look at
the values it skips, and refuses a field of its own that is repeated.

* `Document.Describes` : the document that a value describes;
* `Document.ofValue_iff` : documents made from values;
* `Document.Reader.feed_tokens` : documents made from tokens;
* `Document.read_iff_describes`, `Document.read_iff` : documents made from texts.
-/

namespace Retrieval.Document

open Json (Malformed Progress Token Value feed_cons resume)

/-- A value describes a document: it is an array of the two texts, or an object in which each of the two has one value. -/
inductive Describes : Value → Document → Prop where
  | array (d : Document) : Describes (.array [.text d.url, .text d.text]) d
  | object {fields : List (String × Value)} {d : Document}
      (hurl : (fields.filter (·.1 = "url")).map (·.2) = [.text d.url])
      (htext : (fields.filter fun f => f.1 = "text" ∨ f.1 = "body").map (·.2) = [.text d.text]) :
      Describes (.object fields) d

/-! ## Values of fields -/

/-- The values of the fields that are read as one. -/
def valuesOf (field : Field) (fields : List (String × Value)) : List Value :=
  (fields.filter fun p => Field.ofKey p.1 = field).map (·.2)

section Fields
variable {fields : List (String × Value)} {key : String} {v : Value} {d : Document}

theorem textOf_eq_ok_iff {s : String} : textOf v = .ok s ↔ v = .text s := by
  cases v with
  | text t => simp [textOf]
  | _ => simp [textOf]

theorem ofTexts_eq_ok_iff {url text : Value} :
    (do pure ⟨← textOf url, ← textOf text⟩ : Except Malformed Document) = .ok d ↔
      url = .text d.url ∧ text = .text d.text := by
  rw [← textOf_eq_ok_iff, ← textOf_eq_ok_iff]
  obtain ⟨u, t⟩ := d
  cases textOf url with
  | error e => exact iff_of_false (fun h => by cases h) (fun h => by cases h.1)
  | ok a =>
    cases textOf text with
    | error e => exact iff_of_false (fun h => by cases h) (fun h => by cases h.2)
    | ok b =>
      show Except.ok (ε := Malformed) (Document.mk a b) = .ok ⟨u, t⟩ ↔ _
      simp

theorem last?_eq (key : String) : Value.last? key fields = ((fields.filter (·.1 = key)).map (·.2)).getLast? := by
  rw [Value.last?, ← List.head?_filter, List.filter_reverse, List.head?_reverse, List.getLast?_map]

/-- A key that is not repeated has one value at most. -/
theorem toList_last? (hkeys : (fields.map (·.1)).Nodup) (key : String) :
    (Value.last? key fields).toList = (fields.filter (·.1 = key)).map (·.2) := by
  rw [Value.last?]
  induction fields with
  | nil => rfl
  | cons p fields ih =>
    rw [List.map_cons, List.nodup_cons] at hkeys
    rw [List.reverse_cons, List.find?_append]
    by_cases hp : p.1 = key
    · have hnone : ∀ q ∈ fields, ¬ q.1 = key := fun q hq h => hkeys.1 (hp ▸ h ▸ List.mem_map_of_mem hq)
      have hfind : fields.reverse.find? (·.1 = key) = none := by simpa using hnone
      have hfilter : fields.filter (·.1 = key) = [] := by simpa using hnone
      simp [hfind, hfilter, hp]
    · simp [hp, ← ih hkeys.2]

/-- Two conditions that exclude each other leave one item if one of them does. -/
theorem filter_or_eq_singleton_iff {α : Type} {p q : α → Bool} (hpq : ∀ a, p a → q a = false) {list : List α} {b : α} :
    list.filter (fun a => p a || q a) = [b] ↔
      list.filter p = [b] ∧ list.filter q = [] ∨ list.filter p = [] ∧ list.filter q = [b] := by
  induction list with
  | nil => simp
  | cons a list ih =>
    have hnil : list.filter (fun a => p a || q a) = [] ↔ list.filter p = [] ∧ list.filter q = [] := by
      simp [List.filter_eq_nil_iff, forall_and]
    cases hp : p a with
    | true => simp [hp, hpq a hp, hnil, and_assoc]
    | false =>
      cases hq : q a with
      | true => simp [hp, hq, hnil, and_left_comm]
      | false => simpa [hp, hq] using ih

theorem valuesOf_url : valuesOf .url fields = (fields.filter (·.1 = "url")).map (·.2) := by
  have hkey (p : String × Value) : Field.ofKey p.1 = .url ↔ p.1 = "url" := by
    rw [Field.ofKey]
    split_ifs <;> simp [*]
  simp only [valuesOf, hkey]

theorem valuesOf_text :
    valuesOf .text fields = (fields.filter fun f => f.1 = "text" ∨ f.1 = "body").map (·.2) := by
  have hkey (p : String × Value) : Field.ofKey p.1 = .text ↔ p.1 = "text" ∨ p.1 = "body" := by
    rw [Field.ofKey]
    split_ifs <;> simp [*]
  simp only [valuesOf, hkey]

theorem describes_object_iff : Describes (.object fields) d ↔
    valuesOf .url fields = [.text d.url] ∧ valuesOf .text fields = [.text d.text] := by
  rw [valuesOf_url, valuesOf_text]
  constructor
  · rintro (_ | ⟨hurl, htext⟩)
    exact ⟨hurl, htext⟩
  · rintro ⟨hurl, htext⟩
    exact .object hurl htext

theorem describes_array_iff {items : List Value} :
    Describes (.array items) d ↔ items = [.text d.url, .text d.text] := by
  constructor
  · rintro (_ | _)
    rfl
  · rintro rfl
    exact .array d

theorem valuesOf_text_iff {v : Value} : valuesOf .text fields = [v] ↔
    (fields.filter (·.1 = "text")).map (·.2) = [v] ∧ (fields.filter (·.1 = "body")).map (·.2) = [] ∨
      (fields.filter (·.1 = "text")).map (·.2) = [] ∧ (fields.filter (·.1 = "body")).map (·.2) = [v] := by
  have hkey (p : String × Value) :
      decide (Field.ofKey p.1 = .text) = (decide (p.1 = "text") || decide (p.1 = "body")) := by
    rw [Field.ofKey]
    split_ifs with hurl htext
    · simp [hurl]
    · simpa using htext
    · simpa using htext
  have hexclusive (p : String × Value) (h : decide (p.1 = "text") = true) : decide (p.1 = "body") = false := by
    simp [of_decide_eq_true h]
  simp only [valuesOf, hkey, List.map_eq_singleton_iff, List.map_eq_nil_iff, filter_or_eq_singleton_iff hexclusive]
  constructor
  · rintro ⟨p, ⟨htext, hbody⟩ | ⟨htext, hbody⟩, hp⟩
    · exact .inl ⟨⟨p, htext, hp⟩, hbody⟩
    · exact .inr ⟨htext, p, hbody, hp⟩
  · rintro (⟨⟨p, htext, hp⟩, hbody⟩ | ⟨htext, p, hbody, hp⟩)
    · exact ⟨p, .inl ⟨htext, hbody⟩, hp⟩
    · exact ⟨p, .inr ⟨htext, hbody⟩, hp⟩

theorem ofValue_object_iff : ofValue (.object fields) = .ok d ↔ Value.last? "url" fields = some (.text d.url) ∧
    (Value.last? "text" fields = some (.text d.text) ∧ Value.last? "body" fields = none ∨
      Value.last? "text" fields = none ∧ Value.last? "body" fields = some (.text d.text)) := by
  rw [ofValue]
  generalize Value.last? "url" fields = url, Value.last? "text" fields = text, Value.last? "body" fields = body
  cases url with
  | none => simp
  | some url =>
    cases text with
    | none =>
      cases body with
      | none => simp
      | some body => exact ofTexts_eq_ok_iff.trans (by simp)
    | some text =>
      cases body with
      | none => exact ofTexts_eq_ok_iff.trans (by simp)
      | some body => simp

theorem Describes.ofValue_eq (h : Describes v d) : ofValue v = .ok d := by
  cases h with
  | array => rfl
  | object hurl htext =>
    rw [← valuesOf_text, valuesOf_text_iff] at htext
    simp only [ofValue_object_iff, last?_eq, hurl, List.getLast?_singleton, true_and]
    obtain ⟨htext, hbody⟩ | ⟨htext, hbody⟩ := htext
    · exact .inl ⟨by rw [htext, List.getLast?_singleton], by rw [hbody, List.getLast?_nil]⟩
    · exact .inr ⟨by rw [htext, List.getLast?_nil], by rw [hbody, List.getLast?_singleton]⟩

theorem Describes.unique {d' : Document} (h : Describes v d) (h' : Describes v d') : d = d' :=
  Except.ok.inj (h.ofValue_eq.symm.trans h'.ofValue_eq)

/-- Where no object repeats a key, a document is made of just the values that describe one. -/
theorem ofValue_iff {depth : Nat} (hv : v.Within depth) : ofValue v = .ok d ↔ Describes v d := by
  refine ⟨fun h => ?_, Describes.ofValue_eq⟩
  cases hv with
  | literal | number | text => cases h
  | @array _ items _ =>
    obtain ⟨url, text, rfl⟩ : ∃ url text, items = [url, text] := by
      match items, h with
      | [url, text], _ => exact ⟨url, text, rfl⟩
    obtain ⟨rfl, rfl⟩ := ofTexts_eq_ok_iff.1 h
    exact .array d
  | object hkeys _ =>
    rw [describes_object_iff, valuesOf_url, valuesOf_text_iff, ← toList_last? hkeys, ← toList_last? hkeys,
      ← toList_last? hkeys]
    simpa only [Option.toList_eq_singleton_iff, Option.toList_eq_nil_iff] using ofValue_object_iff.1 h

end Fields

/-! ## Tokens -/

namespace Reader

variable {v : Value} {rest : List Token} {x : Document × List Token}

/-- No number fits where another kind of value is due, whether it is in range or not. -/
theorem exists_misfit_ofNumber {β : Type} (spelling : String) : ∃ e, misfit (β := β) (.ofNumber spelling) = .error e := by
  unfold Token.ofNumber Json.Scan.numberToken
  split_ifs
  · exact ⟨_, rfl⟩
  · exact ⟨_, rfl⟩

/-- A text is due: the value has to be one. -/
theorem feed_textStep {r : Reader} (next : String → Reader)
    (hstep : ∀ t : Token, t ≠ .rightBracket → r.step t = (textStep t).map fun s => .inl (next s)) :
    Json.feed step r (v.tokens ++ rest) = .ok x ↔ ∃ s, v = .text s ∧ Json.feed step (next s) rest = .ok x := by
  have hrefused {t : Token} {tokens : List Token} {e : Malformed} (ht : t ≠ .rightBracket)
      (herror : textStep t = .error e) :
      Json.feed step r (t :: tokens) ≠ .ok x := by
    rw [feed_cons, hstep t ht, herror]
    intro h
    cases h
  cases v
  case text s =>
    rw [Value.tokens, List.singleton_append, feed_cons, hstep _ (by intro h; cases h)]
    simp only [Value.text.injEq, exists_eq_left']
    rfl
  all_goals
    simp only [reduceCtorEq, false_and, exists_false, iff_false]
    rw [Value.tokens]
  case number spelling =>
    obtain ⟨e, he⟩ := exists_misfit_ofNumber (β := String) spelling
    exact hrefused (by intro h; cases h) he
  all_goals exact hrefused (by intro h; cases h) rfl

/-- What is skipped is read as it is anywhere. -/
theorem feed_skipped (r : Reader) (inner : Json.Reader Unit) (tokens : List Token) :
    Json.feed step { r with due := .skipped inner } tokens =
      (Json.feed (Json.Reader.step Json.skipping) inner tokens).bind fun p =>
        Json.feed step { r with due := .separator } p.2 := by
  induction tokens generalizing inner with
  | nil => rfl
  | cons t tokens ih =>
    rw [feed_cons, feed_cons]
    change ((inner.step Json.skipping t).map _).bind _ = _
    cases inner.step Json.skipping t with
    | error e => rfl
    | ok next =>
      cases next with
      | inl next => exact ih next
      | inr done => rfl

/-! ### Fields -/

def texts (read : Option String) : List Value := (read.map Value.text).toList

theorem texts_append_eq_texts_iff {read next : Option String} : texts read ++ [v] = texts next ↔
    read = none ∧ ∃ s, v = .text s ∧ next = some s := by
  cases read with
  | none =>
    cases next with
    | none => simp [texts]
    | some s => simp [texts]
  | some r =>
    cases next with
    | none => simp [texts]
    | some s => simp [texts]

theorem texts_injective {read next : Option String} (h : texts read = texts next) : read = next := by
  cases read with
  | none =>
    cases next with
    | none => rfl
    | some s => cases h
  | some r =>
    cases next with
    | none => cases h
    | some s =>
      cases h
      rfl

theorem exists_eq_texts {front more : List Value} {s : String} (h : front ++ more = [.text s]) :
    ∃ read, front = texts read := by
  obtain ⟨rfl, -⟩ | ⟨rfl, -⟩ := List.append_eq_singleton_iff.1 h
  · exact ⟨none, rfl⟩
  · exact ⟨some s, rfl⟩

/-- A field that has been read before is refused. -/
theorem feed_key {key : String} {field : Field} (hkey : Field.ofKey key = field) (url text : Option String)
    (tokens : List Token) : Json.feed step ⟨.key, url, text⟩ (.ofText key :: .colon :: tokens) =
      if Reader.has ⟨.key, url, text⟩ field then .error .shape
      else Json.feed step ⟨.value field, url, text⟩ tokens := by
  have hstep : step ⟨.key, url, text⟩ (.ofText key) =
      if Reader.has ⟨.key, url, text⟩ field then .error .shape else .ok (.inl ⟨.colon field, url, text⟩) := by
    rw [← hkey]
    rfl
  rw [feed_cons, hstep]
  split_ifs
  · rfl
  · change Json.feed step ⟨.colon field, url, text⟩ (.colon :: tokens) = _
    rw [feed_cons]
    rfl

theorem feed_other (url text : Option String) :
    Json.feed step ⟨.value .other, url, text⟩ (v.tokens ++ rest) = Json.feed step ⟨.separator, url, text⟩ rest := by
  have hskip : Json.feed step ⟨.value .other, url, text⟩ (v.tokens ++ rest) =
      Json.feed step ⟨.skipped {}, url, text⟩ (v.tokens ++ rest) := by
    cases v
    all_goals
      rw [Value.tokens]
      rfl
  have hroom : ∀ m ∈ Json.skipping.maxDepth, ([] : List (Json.Frame Unit)).length + 0 ≤ m := by
    intro m hm
    cases hm
  rw [hskip, feed_skipped ⟨.start, url, text⟩, Json.Reader.reads_skipping v 0 _ _ hroom]
  rfl

/-- A field that is taken up, if it has not been read before. -/
theorem feed_taken {read : Option String} {r : Reader} (next : Option String → Reader)
    (hstep : ∀ t : Token, t ≠ .rightBracket → r.step t = (textStep t).map fun s => .inl (next (some s))) :
    (if read.isSome then .error .shape else Json.feed step r (v.tokens ++ rest)) = .ok x ↔
      ∃ read', texts read ++ [v] = texts read' ∧ Json.feed step (next read') rest = .ok x := by
  simp only [texts_append_eq_texts_iff]
  cases read with
  | some s =>
    rw [Option.isSome_some, if_pos rfl]
    exact iff_of_false (fun h => by cases h) (fun ⟨_, ⟨h, _⟩, _⟩ => by cases h)
  | none =>
    rw [Option.isSome_none, if_neg Bool.false_ne_true, feed_textStep (fun s => next (some s)) hstep]
    constructor
    · rintro ⟨s, hs, h⟩
      exact ⟨some s, ⟨rfl, s, hs, rfl⟩, h⟩
    · rintro ⟨read', ⟨-, s, hs, rfl⟩, h⟩
      exact ⟨s, hs, h⟩

theorem feed_field {key : String} (url text : Option String) :
    Json.feed step ⟨.key, url, text⟩ (.ofText key :: .colon :: v.tokens ++ rest) = .ok x ↔
      ∃ url' text', texts url ++ valuesOf .url [(key, v)] = texts url' ∧
        texts text ++ valuesOf .text [(key, v)] = texts text' ∧
        Json.feed step ⟨.separator, url', text'⟩ rest = .ok x := by
  rw [List.cons_append, List.cons_append, feed_key rfl]
  cases hfield : Field.ofKey key with
  | other =>
    have hurl : valuesOf .url [(key, v)] = [] := by simp [valuesOf, hfield]
    have htext : valuesOf .text [(key, v)] = [] := by simp [valuesOf, hfield]
    have hnot : ¬ Reader.has ⟨.key, url, text⟩ .other = true := Bool.false_ne_true
    rw [if_neg hnot, feed_other, hurl, htext, List.append_nil, List.append_nil]
    constructor
    · intro h
      exact ⟨url, text, rfl, rfl, h⟩
    · rintro ⟨url', text', hurl, htext, h⟩
      rw [texts_injective hurl, texts_injective htext]
      exact h
  | url =>
    have hurl : valuesOf .url [(key, v)] = [v] := by simp [valuesOf, hfield]
    have htext : valuesOf .text [(key, v)] = [] := by simp [valuesOf, hfield]
    refine (feed_taken (fun read => ⟨.separator, read, text⟩) fun _ _ => rfl).trans ?_
    rw [hurl, htext, List.append_nil]
    constructor
    · rintro ⟨url', hurl', h⟩
      exact ⟨url', text, hurl', rfl, h⟩
    · rintro ⟨url', text', hurl', htext', h⟩
      exact ⟨url', hurl', texts_injective htext' ▸ h⟩
  | text =>
    have hurl : valuesOf .url [(key, v)] = [] := by simp [valuesOf, hfield]
    have htext : valuesOf .text [(key, v)] = [v] := by simp [valuesOf, hfield]
    refine (feed_taken (fun read => ⟨.separator, url, read⟩) fun _ _ => rfl).trans ?_
    rw [hurl, htext, List.append_nil]
    constructor
    · rintro ⟨text', htext', h⟩
      exact ⟨url, text', rfl, htext', h⟩
    · rintro ⟨url', text', hurl', htext', h⟩
      exact ⟨text', htext', texts_injective hurl' ▸ h⟩

/-- The fields behind the first ones, and the end of the object. -/
theorem feed_fields (fields : List (String × Value)) (url text : Option String) :
    Json.feed step ⟨.separator, url, text⟩
        ((fields.map fun p => .ofText p.1 :: .colon :: p.2.tokens).flatMap (.comma :: ·) ++ .rightBrace :: rest) =
        .ok x ↔
      (texts url ++ valuesOf .url fields = [.text x.1.url] ∧ texts text ++ valuesOf .text fields = [.text x.1.text]) ∧
        x.2 = rest := by
  induction fields generalizing url text with
  | nil =>
    obtain ⟨⟨u, t⟩, behind⟩ := x
    rw [List.map_nil, List.flatMap_nil, List.nil_append, feed_cons]
    cases url with
    | none => exact iff_of_false (fun h => by cases h) (fun h => by cases h.1.1)
    | some url =>
      cases text with
      | none => exact iff_of_false (fun h => by cases h) (fun h => by cases h.1.2)
      | some text =>
        change Except.ok (ε := Malformed) (Document.mk url text, rest) = .ok (⟨u, t⟩, behind) ↔ _
        simp [texts, valuesOf, eq_comm]
  | cons p fields ih =>
    have hcons (field : Field) : valuesOf field (p :: fields) = valuesOf field [p] ++ valuesOf field fields := by
      rw [valuesOf, valuesOf, valuesOf, ← List.map_append, ← List.filter_append, List.singleton_append]
    rw [List.map_cons, List.flatMap_cons, List.append_assoc, List.cons_append, feed_cons]
    change Json.feed step ⟨.key, url, text⟩ _ = _ ↔ _
    rw [feed_field, hcons, hcons, ← List.append_assoc, ← List.append_assoc]
    simp only [ih]
    constructor
    · rintro ⟨url', text', hurl, htext, h⟩
      rw [hurl, htext]
      exact h
    · rintro ⟨⟨hurl, htext⟩, hrest⟩
      obtain ⟨url', hurl'⟩ := exists_eq_texts hurl
      obtain ⟨text', htext'⟩ := exists_eq_texts htext
      exact ⟨url', text', hurl', htext', ⟨hurl' ▸ hurl, htext' ▸ htext⟩, hrest⟩

/-! ### Documents -/

theorem feed_refused {r : Reader} {t : Token} {tokens : List Token} {e : Malformed} (h : step r t = .error e) :
    Json.feed step r (t :: tokens) ≠ .ok x := by
  rw [feed_cons, h]
  intro h
  cases h

theorem feed_firstItem : Json.feed step ⟨.firstItem, none, none⟩ (v.tokens ++ rest) = .ok x ↔
    ∃ s, v = .text s ∧ Json.feed step ⟨.comma, some s, none⟩ rest = .ok x := by
  refine feed_textStep (fun s => ⟨.comma, some s, none⟩) fun t ht => ?_
  cases t
  case rightBracket => exact absurd rfl ht
  all_goals rfl

theorem feed_secondItem {s : String} : Json.feed step ⟨.comma, some s, none⟩ (.comma :: v.tokens ++ rest) = .ok x ↔
    ∃ t, v = .text t ∧ Json.feed step ⟨.bracket, some s, some t⟩ rest = .ok x := by
  rw [List.cons_append, feed_cons]
  change Json.feed step ⟨.secondItem, some s, none⟩ _ = _ ↔ _
  refine feed_textStep (fun t => ⟨.bracket, some s, some t⟩) fun t ht => ?_
  cases t
  case rightBracket => exact absurd rfl ht
  all_goals rfl

/-- Two texts, and nothing else, in an array. -/
theorem feed_array (items : List Value) : Json.feed step {} ((Value.array items).tokens ++ rest) = .ok x ↔
    items = [.text x.1.url, .text x.1.text] ∧ x.2 = rest := by
  rw [Value.tokens, Value.itemTokens_eq, List.append_assoc, List.cons_append, feed_cons]
  change Json.feed step ⟨.firstItem, none, none⟩ _ = _ ↔ _
  cases items with
  | nil => exact iff_of_false (feed_refused rfl) (fun h => by cases h.1)
  | cons first items =>
    rw [List.map_cons, Json.intercalate_cons, List.append_assoc, feed_firstItem]
    cases items with
    | nil =>
      refine iff_of_false ?_ (fun h => by cases h.1)
      rintro ⟨s, -, h⟩
      exact feed_refused rfl h
    | cons second items =>
      simp only [List.map_cons, List.flatMap_cons, List.append_assoc, feed_secondItem]
      cases items with
      | nil =>
        have hfinish (s t : String) : Json.feed step ⟨.bracket, some s, some t⟩ (.rightBracket :: rest) =
            .ok (⟨s, t⟩, rest) := rfl
        constructor
        · rintro ⟨s, rfl, t, rfl, h⟩
          obtain rfl := Except.ok.inj ((hfinish s t).symm.trans h)
          exact ⟨rfl, rfl⟩
        · rintro ⟨hitems, rfl⟩
          cases hitems
          exact ⟨x.1.url, rfl, x.1.text, rfl, hfinish _ _⟩
      | cons third items =>
        refine iff_of_false ?_ (fun h => by cases h.1)
        rintro ⟨s, -, t, -, h⟩
        exact feed_refused rfl h

theorem feed_object (fields : List (String × Value)) :
    Json.feed step {} ((Value.object fields).tokens ++ rest) = .ok x ↔
      (valuesOf .url fields = [.text x.1.url] ∧ valuesOf .text fields = [.text x.1.text]) ∧ x.2 = rest := by
  rw [Value.tokens, Value.fieldTokens_eq, List.append_assoc, List.cons_append, feed_cons]
  change Json.feed step ⟨.firstKey, none, none⟩ _ = _ ↔ _
  cases fields with
  | nil => exact iff_of_false (fun h => by cases h) (fun h => by cases h.1.1)
  | cons p fields =>
    -- the first key is read as any other one
    refine Iff.trans (Eq.congr_left ?_) (feed_fields (p :: fields) none none)
    rw [List.map_cons, Json.intercalate_cons, List.flatMap_cons, List.append_assoc, List.append_assoc, List.cons_append]
    rfl

/-- **The tokens of a value are read as the document that it describes**, whatever follows. -/
theorem feed_tokens : Json.feed step {} (v.tokens ++ rest) = .ok x ↔ Describes v x.1 ∧ x.2 = rest := by
  cases v with
  | array items => rw [feed_array, describes_array_iff]
  | object fields => rw [feed_object, describes_object_iff]
  | number spelling =>
    obtain ⟨e, he⟩ := exists_misfit_ofNumber (β := Reader ⊕ Document) spelling
    rw [Value.tokens]
    exact iff_of_false (feed_refused he) (fun h => by cases h.1)
  | literal | text =>
    rw [Value.tokens]
    exact iff_of_false (feed_refused rfl) (fun h => by cases h.1)

end Reader

/-! ## Texts -/

variable {chars : List Char} {v : Value} {depth : Nat} {d : Document}

/-- **A text is read as the document that its value describes**, and refused if it describes none. -/
theorem read_iff_describes (h : Json.Spells chars v) : read (chars.map some) = .ok d ↔ Describes v d := by
  rw [read, h.scan_eq]
  refine bind_eq_ok_iff.trans ?_
  simp only [Reader.feed_tokens]
  constructor
  · rintro ⟨⟨d', behind⟩, ⟨hd, rfl⟩, hend⟩
    obtain rfl := Except.ok.inj hend
    exact hd
  · intro hd
    exact ⟨(d, [.ending]), ⟨hd, rfl⟩, rfl⟩

/-- Both ways lead to the same documents. -/
theorem read_iff (h : Json.Spells chars v) (hv : v.Within depth) : read (chars.map some) = .ok d ↔ ofValue v = .ok d :=
  (read_iff_describes h).trans (ofValue_iff hv).symm

end Retrieval.Document
