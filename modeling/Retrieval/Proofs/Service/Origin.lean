import Retrieval.Proofs.Service.Exchange
import Retrieval.Proofs.Text.Pieces

/-!
# Origins of a setting

Which origin an answer names depends on the setting and on the origin of the request alone.

* `Service.IsEntry` : the entries of a list, told by what stands between its commas;
* `Service.Allows` : those of them that a header can hold;
* `Service.OriginRule.ofSetting_some` : the rule that a list states;
* `Service.allowedOrigin_serve` : the rule stays as it is, whatever is requested;
* `Service.allowed_origins_of_setting` : the origins that answers name, for every setting;
* `Service.any_origin_of_unusable_list` : a list without usable entries lets any origin in.
-/

namespace Retrieval.Service

open OriginRule (entries ofSetting)

/-! ## Entries -/

/-- An entry of a list stands between two commas, or at an end of the list, without the blanks around it. -/
def IsEntry (list entry : String) : Prop := ∃ piece ∈ list.toList.splitOn ',', Text.IsCore piece entry.toList

/-- A list allows those of its entries that a header can hold. -/
def Allows (list origin : String) : Prop := IsEntry list origin ∧ origin.toList.all Http.admissible

section Entries
variable {list entry : String}

theorem isEntry_iff : IsEntry list entry ↔ ∃ piece ∈ Text.split ',' list.toList, Text.trim (.ofList piece) = entry := by
  unfold IsEntry
  rw [Text.split_eq_splitOn]
  refine exists_congr fun piece => and_congr_right fun _ => ?_
  rw [← Text.isCore_iff, String.toList_ofList]

instance : Decidable (IsEntry list entry) := decidable_of_iff _ isEntry_iff.symm

instance : Decidable (Allows list entry) := inferInstanceAs (Decidable (_ ∧ _))

theorem mem_entries_iff : entry ∈ entries list ↔ Allows list entry := by
  rw [entries, List.mem_filter, List.mem_map, ← isEntry_iff]
  rfl

theorem allows_wildcard_iff : Allows list "*" ↔ IsEntry list "*" := and_iff_left (by decide)

end Entries

/-! ## Rules -/

/-- A list that holds the wildcard states no rule. Any other list allows its own entries, and any origin at all if none
of them is allowed. -/
theorem OriginRule.ofSetting_some (list : String) :
    ofSetting (some list) =
      if IsEntry list "*" then .error .wildcardInList
      else .ok (if entries list = [] then .any else .only (entries list)) := by
  have hwildcard : IsEntry list "*" ↔ "*" ∈ entries list := allows_wildcard_iff.symm.trans mem_entries_iff.symm
  rw [ofSetting]
  cases hentries : entries list with
  | nil => simp [hwildcard, hentries]
  | cons entry rest =>
    by_cases h : IsEntry list "*"
    · rw [if_pos h]
      exact if_pos (List.contains_iff_mem.2 (hentries ▸ hwildcard.1 h))
    · rw [if_neg h]
      exact if_neg fun hcontains => h (hwildcard.2 (hentries ▸ List.contains_iff_mem.1 hcontains))

theorem OriginRule.allowed?_only {origins : List String} {origin? : Option String} {origin : String} :
    (only origins).allowed? origin? = some origin ↔ origin? = some origin ∧ origin ∈ origins := by
  simp [allowed?, Option.filter_eq_some_iff]

/-! ## Answers -/

theorem allowedOrigin_answer (s : Service) (r : Http.Request) :
    (s.answer r).1.allowedOrigin = s.origins.allowed? (r.header? "origin") := by
  unfold answer
  split <;> rfl

/-- **The rule of a service stays as it is**, whatever was requested before. -/
theorem allowedOrigin_serve (s : Service) (requests : List Http.Request) (r : Http.Request) :
    ((s.serve requests).2.answer r).1.allowedOrigin = s.origins.allowed? (r.header? "origin") := by
  obtain ⟨updates, -, hlast⟩ := exists_updates s requests
  rw [allowedOrigin_answer, hlast]

/-- **Answers name configured origins.** Without a list, any origin is allowed. With a list:
* the service starts just if the wildcard is no entry of the list;
* if a header can hold some entry, an answer names the origin of its request where this is such an entry, and none
  otherwise;
* if a header can hold no entry, any origin is allowed, as without a list. -/
theorem allowed_origins_of_setting (index : Index) (settings : Settings) :
    (settings.origins = none → ∃ s, start index settings = .ok s ∧
      ∀ requests r, ((s.serve requests).2.answer r).1.allowedOrigin = some "*") ∧
    ∀ list, settings.origins = some list →
      (IsEntry list "*" → start index settings = .error .wildcardInList) ∧
      (¬ IsEntry list "*" → ∃ s, start index settings = .ok s ∧ ∀ requests r,
        let allowed := ((s.serve requests).2.answer r).1.allowedOrigin
        ((∃ entry, Allows list entry) →
          ∀ origin, allowed = some origin ↔ r.header? "origin" = some origin ∧ Allows list origin) ∧
        ((¬ ∃ entry, Allows list entry) → allowed = some "*")) := by
  have hstart (rule : OriginRule) (h : ofSetting settings.origins = .ok rule) :
      start index settings = .ok { index, adminToken := settings.adminToken, origins := rule } := by
    rw [start, h]
    rfl
  constructor
  · intro hunset
    refine ⟨_, hstart .any (by rw [hunset]; rfl), fun requests r => ?_⟩
    rw [allowedOrigin_serve]
    rfl
  · intro list hset
    have hrule := OriginRule.ofSetting_some list
    rw [← hset] at hrule
    constructor
    · intro hwildcard
      rw [if_pos hwildcard] at hrule
      rw [start, hrule]
      rfl
    · intro hwildcard
      rw [if_neg hwildcard] at hrule
      refine ⟨_, hstart _ hrule, fun requests r => ?_⟩
      simp only [allowedOrigin_serve]
      constructor
      · rintro ⟨entry, hentry⟩ origin
        rw [if_neg (List.ne_nil_of_mem (mem_entries_iff.2 hentry)), OriginRule.allowed?_only, mem_entries_iff]
      · intro hnone
        have hnil : entries list = [] :=
          List.eq_nil_iff_forall_not_mem.2 fun entry hentry => hnone ⟨entry, mem_entries_iff.1 hentry⟩
        rw [if_pos hnil]
        rfl

/-- A list of two origins with blanks around them. -/
def examplePair : String := "https://a.example , https://b.example"

theorem allowed_origins_of_setting_pair :
    let settings : Settings := { origins := some examplePair }
    Allows examplePair "https://b.example" ∧ ¬ IsEntry examplePair "*" ∧
    ∃ s, start (.new {} .product) settings = .ok s ∧ ∀ requests r origin,
      ((s.serve requests).2.answer r).1.allowedOrigin = some origin ↔
        r.header? "origin" = some origin ∧ Allows examplePair origin := by
  intro settings
  have hentry : Allows examplePair "https://b.example" := by decide +kernel
  have hwildcard : ¬ IsEntry examplePair "*" := by decide +kernel
  obtain ⟨s, hstart, hanswers⟩ :=
    ((allowed_origins_of_setting (.new {} .product) settings).2 examplePair rfl).2 hwildcard
  exact ⟨hentry, hwildcard, s, hstart, fun requests r => (hanswers requests r).1 ⟨_, hentry⟩⟩

/-- A list whose entries stand on lines of their own, without a comma. -/
def exampleUnusable : String := "https://a.example\nhttps://b.example"

theorem any_origin_of_unusable_list :
    let settings : Settings := { origins := some exampleUnusable }
    let r : Http.Request := { method := "GET", target := "/health", headers := [("Origin", "https://c.example")] }
    ∃ s, start (.new {} .product) settings = .ok s ∧ (s.answer r).1.allowedOrigin = some "*" ∧
      ¬ IsEntry exampleUnusable "*" := by
  refine ⟨_, rfl, ?_, ?_⟩
  · decide +kernel
  · decide +kernel

end Retrieval.Service
