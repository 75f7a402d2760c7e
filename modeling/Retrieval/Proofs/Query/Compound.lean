import Retrieval.Proofs.Query.Composition
import Retrieval.Proofs.Query.Finding
import Retrieval.Proofs.Query.Rendering
import Retrieval.Proofs.Tokenizer.Segmentation

/-!
# Compound words

A hyphen combines with nothing, has no case and is in no segment, so that the terms of a compound word are those of its
parts. A query for it is answered like one for all of its parts.

* `Text.tables_hyphen`, `Text.Compatibility.inert_hyphen`, `Text.uncased_hyphen` : a hyphen in the tables;
* `Tokenizer.normalForm_hyphen`, `Tokenizer.tokenize_hyphen` : what is on either side of a hyphen is brought into normal
  form, and tokenized, on its own;
* `Query.IsSearchWord` : a word that is one token of a query and has a term;
* `Index.lookup_hyphen` : the documents of a compound word are those of both parts;
* `Index.means_conjunction` : words that are joined by `AND`;
* `Index.evaluate_compound` : compound words of any number of parts.
-/

namespace Retrieval

open Text

/-! ## Hyphens -/

namespace Text

/-- What the tables say of a hyphen: it comes first in no composition, it is neither ignored nor cased next to a sigma,
its lower case is itself, and no segment goes on with it. -/
theorem tables_hyphen :
    (triples (cells compositeRows)).all (fun t => t.1 != '-'.toNat) = true ∧ caseIgnorable.contains '-' = false ∧
      cased.contains '-' = false ∧ lowerChar '-' = ['-'] ∧ isInner '-' = false := by
  decide +kernel

theorem Compatibility.inert_hyphen : Compatibility.Inert '-' where
  toBegins := begins_of_ascii (by decide)
  not_first c := by
    obtain ⟨hfirsts, -⟩ := tables_hyphen
    cases hcompose : compose? '-' c with
    | none => rfl
    | some d =>
      rcases mem_triples_of_compose? hcompose with hsyllable | ⟨n, hmem, -⟩
      · simp [composeSyllable?] at hsyllable
      · have hfirst := List.all_eq_true.1 hfirsts _ hmem
        simp at hfirst

theorem uncased_hyphen : Uncased '-' := ⟨tables_hyphen.2.1, tables_hyphen.2.2.1⟩

end Text

namespace Tokenizer

/-- **Normal forms are taken on either side of a hyphen, which stays.** -/
theorem normalForm_hyphen (x y : String) : normalForm (x ++ "-" ++ y) = normalForm x ++ '-' :: normalForm y := by
  obtain ⟨-, -, -, hlower, -⟩ := tables_hyphen
  have htext : (x ++ "-" ++ y).toList = x.toList ++ '-' :: y.toList := by simp
  rw [normalForm, htext, Compatibility.normalizeList_append_inert (expand_of_lt (by decide))
    Compatibility.inert_hyphen, lowerList_append_uncased uncased_hyphen (by decide), hlower, List.append_assoc]
  rfl

/-- **The terms of a compound word are those of its parts.** -/
theorem tokenize_hyphen (t : Tokenizer) (x y : String) : t.tokenize (x ++ "-" ++ y) = t.tokenize x ++ t.tokenize y := by
  obtain ⟨-, -, -, -, hinner⟩ := tables_hyphen
  rw [tokenize, normalForm_hyphen, terms_append hinner]
  rfl

end Tokenizer

/-! ## Words that may be searched for -/

namespace Query

/-- A word without blanks and parentheses that is no operator and has a term. -/
structure IsSearchWord (t : Tokenizer) (word : String) : Prop where
  unbroken : ∀ c ∈ word.toList, ¬ Token.EndsWord c
  not_operator : word ∉ ["AND", "OR", "NOT"]
  has_term : t.tokenize word ≠ []

namespace IsSearchWord

variable {t : Tokenizer} {x y : String}

theorem ne_empty (h : IsSearchWord t x) : x ≠ "" := by
  rintro rfl
  exact h.has_term (t.tokenize_eq_flatMap_words "")

theorem lex_eq (h : IsSearchWord t x) : Token.lex x = [.word x] :=
  Token.lex_word h.ne_empty h.unbroken h.not_operator

/-- What stands behind a blank is cut into tokens on its own. -/
theorem lex_append_join (h : IsSearchWord t x) (op : Grammar.Join) (s : String) :
    Token.lex (x ++ op.text ++ s) = .word x :: op.token :: Token.lex s := by
  have hapart : Token.Apart (op.text ++ s).toList := by
    have hblank : Token.EndsWord ' ' := .inl rfl
    rw [String.toList_append]
    cases op <;> exact fun c hc => Option.some.inj hc ▸ hblank
  rw [String.append_assoc, Token.lex, String.toList_append, Token.lexFrom_append_apart hapart]
  have hword : Token.lexFrom [] x.toList = [.word x] := h.lex_eq
  rw [hword, ← lex_join_append]
  rfl

theorem hyphen (hx : IsSearchWord t x) (hy : IsSearchWord t y) : IsSearchWord t (x ++ "-" ++ y) where
  unbroken c hc := by
    have hhyphen : ¬ Token.EndsWord '-' := by simp [Token.EndsWord, isBlank]
    simp only [String.toList_append, List.mem_append] at hc
    rcases hc with (hc | hc) | hc
    · exact hx.unbroken c hc
    · rwa [List.mem_singleton.1 hc]
    · exact hy.unbroken c hc
  not_operator := by
    have hmem : '-' ∈ (x ++ "-" ++ y).toList := by simp
    intro h
    simp only [List.mem_cons, List.not_mem_nil, or_false] at h
    rcases h with h | h | h
    all_goals
      rw [h] at hmem
      exact absurd hmem (by decide)
  has_term := by
    rw [t.tokenize_hyphen]
    exact List.append_ne_nil_of_left_ne_nil hx.has_term _

end IsSearchWord

/-- A derivation of what follows a word in a conjunction of words. -/
def Grammar.Tail.ofWords (words : List String) : Grammar.Tail :=
  words.foldr (fun word rest => .atom .and (.word word) rest) .done

end Query

namespace Index

open Query Query.Grammar

variable {index : Index}

/-! ## Documents of compound words -/

/-- The documents of a compound word are those of both parts, however early the look-up of its terms ends. -/
theorem lookup_hyphen {x y : String} (hx : IsSearchWord index.tokenizer x) (hy : IsSearchWord index.tokenizer y) :
    index.lookup (x ++ "-" ++ y) = index.lookup x ∩ index.lookup y := by
  have hxy := hx.hyphen hy
  ext doc
  rw [DocSet.mem_inter, mem_lookup_iff, mem_lookup_iff, mem_lookup_iff, and_iff_right hxy.has_term,
    and_iff_right hx.has_term, and_iff_right hy.has_term, Tokenizer.tokenize_hyphen, List.forall_mem_append]

/-- A compound word of any number of parts may be searched for, and its documents are those of all parts. -/
theorem lookup_compound {x : String} {rest : List String} (hx : IsSearchWord index.tokenizer x)
    (hrest : ∀ word ∈ rest, IsSearchWord index.tokenizer word) :
    IsSearchWord index.tokenizer ("-".intercalate (x :: rest)) ∧
      ∀ doc, doc ∈ index.lookup ("-".intercalate (x :: rest)) ↔ ∀ word ∈ x :: rest, doc ∈ index.lookup word := by
  induction rest generalizing x with
  | nil => simpa using hx
  | cons y rest ih =>
    obtain ⟨hy, hrest⟩ := List.forall_mem_cons.1 hrest
    obtain ⟨hword, hlookup⟩ := ih hy hrest
    rw [String.intercalate_cons_cons]
    refine ⟨hx.hyphen hword, fun doc => ?_⟩
    rw [lookup_hyphen hx hword, DocSet.mem_inter, hlookup, List.forall_mem_cons (a := x)]

/-! ## Words joined by operators -/

-- what is looked up for a word is not opened from here on
attribute [local irreducible] lookup

theorem mem_read_ofWords {words : List String} {found : DocSet} {doc : DocId} :
    doc ∈ (Tail.ofWords words).read index.reading found ↔ doc ∈ found ∧ ∀ word ∈ words, doc ∈ index.lookup word := by
  induction words generalizing found with
  | nil => simp [Tail.ofWords, Tail.read]
  | cons word words ih =>
    have hstep : (Tail.ofWords (word :: words)).read index.reading found =
        (Tail.ofWords words).read index.reading (found ∩ index.lookup word) := rfl
    rw [hstep, ih, DocSet.mem_inter, List.forall_mem_cons, and_assoc]

theorem depth_ofWords (words : List String) : (Tail.ofWords words).depth = 0 := by
  induction words with
  | nil => rfl
  | cons word words ih =>
    rw [Tail.ofWords, List.foldr_cons, Tail.depth, Atom.depth, ← Tail.ofWords, ih]
    rfl

theorem lex_conjunction {t : Tokenizer} {x : String} {rest : List String} (hx : IsSearchWord t x)
    (hrest : ∀ word ∈ rest, IsSearchWord t word) :
    Token.lex (" AND ".intercalate (x :: rest)) = .word x :: (Tail.ofWords rest).tokens := by
  induction rest generalizing x with
  | nil =>
    rw [String.intercalate_singleton, hx.lex_eq]
    rfl
  | cons y rest ih =>
    obtain ⟨hy, hrest⟩ := List.forall_mem_cons.1 hrest
    have hjoin := hx.lex_append_join .and (" AND ".intercalate (y :: rest))
    rw [ih hy hrest] at hjoin
    rw [String.intercalate_cons_cons]
    exact hjoin

/-- Words joined by `AND` open no level, and they mean the documents of all of them. -/
theorem means_conjunction {x : String} {rest : List String} (hx : IsSearchWord index.tokenizer x)
    (hrest : ∀ word ∈ rest, IsSearchWord index.tokenizer word) :
    ∃ found, index.Means 0 (" AND ".intercalate (x :: rest)) found ∧
      ∀ doc, doc ∈ found ↔ ∀ word ∈ x :: rest, doc ∈ index.lookup word := by
  refine ⟨(Tail.ofWords rest).read index.reading (index.lookup x),
    ⟨.plain (.word x) (Tail.ofWords rest), (lex_conjunction hx hrest).symm, ?_, rfl⟩, fun doc => ?_⟩
  · rw [Expr.depth, depth_ofWords]
    rfl
  · rw [mem_read_ofWords, List.forall_mem_cons]

/-- A compound word and the conjunction of its parts have the same answer. -/
theorem evaluate_parts {x : String} {rest : List String} (hx : IsSearchWord index.tokenizer x)
    (hrest : ∀ word ∈ rest, IsSearchWord index.tokenizer word) :
    index.evaluate ("-".intercalate (x :: rest)) = .ok (index.lookup ("-".intercalate (x :: rest))) ∧
      index.evaluate (" AND ".intercalate (x :: rest)) = .ok (index.lookup ("-".intercalate (x :: rest))) := by
  obtain ⟨hword, hlookup⟩ := lookup_compound hx hrest
  obtain ⟨found, hmeans, hfound⟩ := means_conjunction hx hrest
  have hsame : found = index.lookup ("-".intercalate (x :: rest)) := by
    ext doc
    rw [hfound, hlookup]
  refine ⟨evaluate_word index hword.lex_eq, ?_⟩
  rw [← hsame]
  exact hmeans.evaluate_eq (Nat.zero_le _)

/-- **A compound word queries like a conjunction.** Normal forms are taken on either side of a hyphen, which stays. So
for every index, a word of two parts that may be searched for is answered like the parts joined by `AND`, whatever
hyphens the parts have of their own. A word of any number of parts is answered like all of them joined by `AND`, and
then with the documents that have every term of every part. -/
theorem evaluate_compound (index : Index) :
    (∀ x y, Tokenizer.normalForm (x ++ "-" ++ y) = Tokenizer.normalForm x ++ '-' :: Tokenizer.normalForm y) ∧
    (∀ x y, IsSearchWord index.tokenizer x → IsSearchWord index.tokenizer y →
      index.evaluate (x ++ "-" ++ y) = index.evaluate (x ++ " AND " ++ y)) ∧
    ∀ parts, parts ≠ [] → (∀ word ∈ parts, IsSearchWord index.tokenizer word) →
      ∃ found, index.evaluate ("-".intercalate parts) = .ok found ∧
        index.evaluate (" AND ".intercalate parts) = .ok found ∧
        ∀ doc, doc ∈ found ↔
          ∀ word ∈ parts, ∀ term ∈ index.tokenizer.tokenize word, doc ∈ index.store.docsWith term := by
  refine ⟨Tokenizer.normalForm_hyphen, fun x y hx hy => ?_, fun parts hne hparts => ?_⟩
  · have hrest : ∀ word ∈ [y], IsSearchWord index.tokenizer word := fun word hword => List.mem_singleton.1 hword ▸ hy
    obtain ⟨hcompound, hconjunction⟩ := evaluate_parts hx hrest
    simp only [String.intercalate_cons_cons, String.intercalate_singleton] at hcompound hconjunction
    exact hcompound.trans hconjunction.symm
  · obtain ⟨x, rest, rfl⟩ := List.exists_cons_of_ne_nil hne
    obtain ⟨hx, hrest⟩ := List.forall_mem_cons.1 hparts
    obtain ⟨hcompound, hconjunction⟩ := evaluate_parts hx hrest
    refine ⟨_, hcompound, hconjunction, fun doc => ?_⟩
    rw [(lookup_compound hx hrest).2 doc]
    refine forall₂_congr fun word hword => ?_
    rw [mem_lookup_iff, and_iff_right (hparts word hword).has_term]

theorem evaluate_compound_hyphens :
    let index := history {} .sum [.corpus [("u", "c (A)"), ("v", "b-c"), ("w", "C'a, b a")]]
    IsSearchWord index.tokenizer "a" ∧ IsSearchWord index.tokenizer "a-a" ∧
    index.evaluate "a-a-a" = index.evaluate "a AND a-a" := by
  intro index
  have hword : IsSearchWord index.tokenizer "a" := by
    refine ⟨Token.not_endsWord_of_all (by decide), by decide, ?_⟩
    rw [tokenizer_history, Tokenizer.tokenize_letter]
    exact List.cons_ne_nil _ _
  have hcompound : IsSearchWord index.tokenizer "a-a" := hword.hyphen hword
  exact ⟨hword, hcompound, (evaluate_compound index).2.1 "a" "a-a" hword hcompound⟩

end Index

end Retrieval
