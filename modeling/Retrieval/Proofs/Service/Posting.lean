import Mathlib.Data.Nat.Digits.Defs
import Retrieval.Proofs.Corpus.Batch
import Retrieval.Proofs.Service.Admission

/-!
# What a request asks for

A request to change the index says what to make of it: the documents stand in its body, the size of the champion lists in
its parameters.

* `Decimal.Spells` : how a number is written;
* `Service.Posts` : the documents that a body holds, told by the values that are spelled in it;
* `Service.Counts` : the number that a parameter gives;
* `Service.Asks` : the change that a request asks for;
* `Service.asks_of_change?` : what is made of the index is what the request asks for.
-/

namespace Retrieval

/-! ## Numbers -/

namespace Decimal

def digitValue (c : Char) : Nat := c.toNat - '0'.toNat

/-- Digits spell a number, perhaps behind a plus sign. -/
inductive Spells : String → Nat → Prop where
  | mk {sign digits : List Char} (hsign : sign = [] ∨ sign = ['+']) (hdigits : ∀ c ∈ digits, c.isDigit)
      (hne : digits ≠ []) : Spells (.ofList (sign ++ digits)) (Nat.ofDigits 10 (digits.reverse.map digitValue))

theorem ofDigits_eq (digits : List Char) : ofDigits digits = Nat.ofDigits 10 (digits.reverse.map digitValue) := by
  induction digits using List.reverseRecOn with
  | nil => rfl
  | append_singleton digits c ih =>
    rw [List.reverse_concat, List.map_cons, Nat.ofDigits_cons, ← ih, ofDigits, List.foldl_concat, ← ofDigits,
      digitValue]
    omega

/-- What stands behind a plus sign, if there is one. -/
def unsigned : List Char → List Char
  | '+' :: rest => rest
  | chars => chars

theorem eq_append_unsigned (chars : List Char) :
    ∃ sign, (sign = [] ∨ sign = ['+']) ∧ chars = sign ++ unsigned chars := by
  unfold unsigned
  split
  · exact ⟨['+'], .inr rfl, rfl⟩
  · exact ⟨[], .inl rfl, rfl⟩

theorem unsigned_append {sign digits : List Char} (hsign : sign = [] ∨ sign = ['+'])
    (hdigits : ∀ c ∈ digits, c.isDigit) : unsigned (sign ++ digits) = digits := by
  obtain rfl | rfl := hsign
  · rw [List.nil_append, unsigned]
    rintro rest rfl
    exact absurd (hdigits '+' List.mem_cons_self) (by decide)
  · rfl

theorem natural?_eq {bound : Nat} {text : String} : natural? bound text =
    if (unsigned text.toList).isEmpty || (unsigned text.toList).any (!·.isDigit) then none
    else if ofDigits (unsigned text.toList) < bound then some (ofDigits (unsigned text.toList)) else none := rfl

/-- **Just the numbers below the bound are read.** -/
theorem natural?_eq_some_iff {bound n : Nat} {text : String} :
    natural? bound text = some n ↔ Spells text n ∧ n < bound := by
  rw [natural?_eq]
  constructor
  · intro h
    split_ifs at h with hempty hbound
    obtain ⟨hne, hall⟩ : unsigned text.toList ≠ [] ∧ ∀ c ∈ unsigned text.toList, c.isDigit := by
      simpa using hempty
    obtain rfl := Option.some.inj h
    obtain ⟨sign, hsign, htext⟩ := eq_append_unsigned text.toList
    refine ⟨?_, hbound⟩
    have hspells := Spells.mk hsign hall hne
    rwa [← htext, String.ofList_toList, ← ofDigits_eq] at hspells
  · rintro ⟨@⟨sign, digits, hsign, hall, hne⟩, hbound⟩
    have hempty : ¬ (digits.isEmpty || digits.any (!·.isDigit)) = true := by
      simpa using ⟨hne, hall⟩
    rw [String.toList_ofList, unsigned_append hsign hall, if_neg hempty, ofDigits_eq, if_pos hbound]

end Decimal

namespace Service

/-! ## Parameters -/

/-- The number that a parameter gives, which is written below 2 ^ 64, or the one that stands for it if it is left out. -/
inductive Counts (fields : List (String × String)) (name : String) (default_ : Nat) : Nat → Prop where
  | missing (h : ∀ f ∈ fields, f.1 ≠ name) : Counts fields name default_ default_
  | given {text : String} {n : Nat} (h : fields.filter (·.1 = name) = [(name, text)]) (hn : Decimal.Spells text n)
      (hbound : n < 2 ^ 64) : Counts fields name default_ n

section Parameters
variable {fields : List (String × String)} {name : String} {default_ n : Nat}

theorem parameter_eq_ok_iff {value : Option String} : parameter fields name = .ok value ↔
    (value = none ∧ ∀ f ∈ fields, f.1 ≠ name) ∨
      ∃ text, value = some text ∧ fields.filter (·.1 = name) = [(name, text)] := by
  have hnone : fields.filter (·.1 = name) = [] ↔ ∀ f ∈ fields, f.1 ≠ name := by simp
  rw [parameter, ← hnone]
  cases hfields : fields.filter (·.1 = name) with
  | nil => simp [eq_comm]
  | cons field more =>
    cases more with
    | cons => simp
    | nil =>
      have hname : field.1 = name := by
        have hmem : field ∈ fields.filter (·.1 = name) := hfields ▸ List.mem_cons_self
        simpa using (List.mem_filter.1 hmem).2
      simp [Prod.ext_iff, hname, eq_comm]

theorem count_eq_ok_iff : count fields name default_ = .ok n ↔ Counts fields name default_ n := by
  have hbind : count fields name default_ = .ok n ↔ ∃ value, parameter fields name = .ok value ∧
      ((value = none ∧ default_ = n) ∨ ∃ text, value = some text ∧ Decimal.natural? Decimal.countBound text = some n) := by
    refine bind_eq_ok_iff.trans (exists_congr fun value => and_congr_right fun _ => ?_)
    cases value with
    | none => simp [pure, Except.pure]
    | some text =>
      cases hn : Decimal.natural? Decimal.countBound text with
      | none => simp [hn, throw, throwThe, MonadExceptOf.throw]
      | some m => simp [hn, pure, Except.pure]
  rw [hbind]
  constructor
  · rintro ⟨value, hvalue, ⟨rfl, rfl⟩ | ⟨text, rfl, hn⟩⟩
    · obtain ⟨-, h⟩ | ⟨text, h, -⟩ := parameter_eq_ok_iff.1 hvalue
      · exact .missing h
      · cases h
    · obtain ⟨h, -⟩ | ⟨text', h, hfilter⟩ := parameter_eq_ok_iff.1 hvalue
      · cases h
      · obtain rfl := Option.some.inj h
        obtain ⟨hspells, hbound⟩ := Decimal.natural?_eq_some_iff.1 hn
        exact .given hfilter hspells hbound
  · intro h
    cases h with
    | missing h => exact ⟨none, parameter_eq_ok_iff.2 (.inl ⟨rfl, h⟩), .inl ⟨rfl, rfl⟩⟩
    | @given text _ h hn hbound =>
      exact ⟨some text, parameter_eq_ok_iff.2 (.inr ⟨text, rfl, h⟩),
        .inr ⟨text, rfl, Decimal.natural?_eq_some_iff.2 ⟨hn, hbound⟩⟩⟩

end Parameters

/-! ## Bodies -/

/-- The documents that a body posts: if it begins with an array of values, they are the ones that these values describe. -/
def Posts (body : String) (documents : List Document) : Prop :=
  ∀ (chars rest : List Char) (values : List Json.Value), body.toList = chars ++ rest →
    Json.Spells chars (.array values) → List.Forall₂ Document.Describes values documents

section Body
variable {r : Http.Request} {documents : List Document}

theorem bodyDocuments_eq_ok_iff : bodyDocuments r = .ok documents ↔
    declaresJson r = true ∧ r.body.utf8ByteSize ≤ 2 * 1024 * 1024 ∧
      Document.readAll (r.body.toList.map some) = .ok documents := by
  unfold bodyDocuments
  split_ifs with hjson hlarge
  · exact iff_of_false (fun h => by cases h) (fun ⟨h, _⟩ => by simp [h] at hjson)
  · exact iff_of_false (fun h => by cases h) (fun ⟨_, h, _⟩ => Nat.not_le.2 hlarge h)
  · have hjson' : declaresJson r = true := by simpa using hjson
    have hlarge' : r.body.utf8ByteSize ≤ 2 * 1024 * 1024 := Nat.le_of_not_lt hlarge
    have hread : Text.symbolsOf r.body = r.body.toList.map some := rfl
    rw [hread]
    cases Document.readAll (r.body.toList.map some) with
    | error e => simp
    | ok read => simp [hjson', hlarge']

theorem posts_of_bodyDocuments (h : bodyDocuments r = .ok documents) : Posts r.body documents := by
  intro chars rest values hbody hspells
  obtain ⟨-, -, hread⟩ := bodyDocuments_eq_ok_iff.1 h
  rw [hbody] at hread
  exact (Document.readAll_iff hspells).1 hread

end Body

/-! ## Changes -/

/-- The change that a request asks for, told by its path, its body and its parameters. -/
inductive Asks (r : Http.Request) : Index.Update → Prop where
  | batch {documents : List Document} (hsteps : r.steps = ["", "index", "batch"])
      (hdocuments : Posts r.body documents) : Asks r (.corpus (documents.map Document.pair))
  | rebuild {n : Nat} (hsteps : r.steps = ["", "index", "champions"]) (hcount : Counts r.parameters "r" 20 n) :
      Asks r (.champions n)

section Asks
variable {r : Http.Request} {u : Index.Update}

theorem ofSteps?_of_changes {steps : List String} {route : Route} (h : Route.ofSteps? steps = some route)
    (hchanges : route.changes = true) :
    (route = .batch ∧ steps = ["", "index", "batch"]) ∨ (route = .rebuild ∧ steps = ["", "index", "champions"]) := by
  unfold Route.ofSteps? at h
  split at h
  case h_5 => exact .inl ⟨(Option.some.inj h).symm, rfl⟩
  case h_6 => exact .inr ⟨(Option.some.inj h).symm, rfl⟩
  case h_3 | h_4 =>
    split_ifs at h
    obtain rfl := Option.some.inj h
    cases hchanges
  all_goals
    cases h
    try cases hchanges

theorem asksForChange_iff : asksForChange r = true ↔ r.method = "POST" ∧
    (r.steps = ["", "index", "batch"] ∨ r.steps = ["", "index", "champions"]) := by
  have hto : toChange r = true ↔ r.steps = ["", "index", "batch"] ∨ r.steps = ["", "index", "champions"] := by
    constructor
    · intro h
      obtain ⟨route, hroute, hchanges⟩ : ∃ route, Route.ofSteps? r.steps = some route ∧ route.changes = true := by
        simpa [toChange, Option.any_eq_true] using h
      exact (ofSteps?_of_changes hroute hchanges).imp And.right And.right
    · rintro (h | h)
      · rw [toChange, h]
        rfl
      · rw [toChange, h]
        rfl
  rw [asksForChange, Bool.and_eq_true, decide_eq_true_iff, hto]

/-- **The change that is read from a request is the one it asks for.** -/
theorem asks_of_change? (h : change? r = some u) : Asks r u := by
  obtain ⟨call, hcall, hu⟩ : ∃ call, Call.ofRequest r = .ok call ∧ call.change? = some u := by
    unfold change? at h
    cases hcall : Call.ofRequest r with
    | error fault =>
      rw [hcall] at h
      cases h
    | ok call =>
      rw [hcall] at h
      exact ⟨call, rfl, h⟩
  obtain ⟨route, hroute, -, hread⟩ := ofRequest_eq_ok_iff.1 hcall
  cases hchanges : route.changes with
  | false =>
    rw [ofRoute_of_not_changes hread hchanges] at hu
    cases hu
  | true =>
    obtain ⟨rfl, hsteps⟩ | ⟨rfl, hsteps⟩ := ofSteps?_of_changes hroute hchanges
    · obtain ⟨documents, hdocuments, hbatch⟩ := bind_eq_ok_iff.1 hread
      cases hbatch
      cases hu
      exact .batch hsteps (posts_of_bodyDocuments hdocuments)
    · obtain ⟨n, hn, hrebuild⟩ := bind_eq_ok_iff.1 hread
      cases hrebuild
      cases hu
      exact .rebuild hsteps (count_eq_ok_iff.1 hn)

end Asks

end Service

end Retrieval
