import Retrieval.Crawl.Page
import Retrieval.Proofs.Corpus.Formats
import Retrieval.Proofs.Each

/-!
# Reading what a crawl has written

A crawl writes a record a line. Whatever its texts are, a record is written without a line feed, and read as a document
with its address and its text.

* `Json.lineFeed_not_mem_object` : an object of texts is written on one line;
* `Corpus.valueOf`, `Corpus.ofValue_valueOf` : what a record is written as, and the document that this is;
* `Corpus.records_are_read_back` : a file of records is loaded record by record.
-/

namespace Retrieval

namespace Json

theorem lineFeed_not_mem_quoteChar (c : Char) : '\n' ∉ quoteChar c := by
  have hdigit : ∀ n < 16, '\n' ≠ Nat.digitChar n := by decide
  unfold quoteChar
  split_ifs with hquote hbackslash hline hreturn htab hback hfeed hcontrol
  -- the characters with a letter of their own
  all_goals try decide
  · have hfirst := hdigit (c.toNat / 16) (by omega)
    have hsecond := hdigit (c.toNat % 16) (by omega)
    simp [twoDigits, hfirst, hsecond]
  · exact fun h => hline (List.mem_singleton.1 h).symm

theorem lineFeed_not_mem_quote (s : List Char) : '\n' ∉ quote s := by
  rw [quote, List.mem_append, List.mem_append, List.mem_flatMap, not_or, not_or]
  refine ⟨⟨by decide, ?_⟩, by decide⟩
  rintro ⟨c, -, hc⟩
  exact lineFeed_not_mem_quoteChar c hc

theorem lineFeed_not_mem_object (fields : List (String × String)) : '\n' ∉ object fields := by
  have hfield (f : String × String) : '\n' ∉ field f := by
    rw [field, List.mem_append, List.mem_append, not_or, not_or]
    exact ⟨⟨lineFeed_not_mem_quote _, by decide⟩, lineFeed_not_mem_quote _⟩
  have hfields : '\n' ∉ [','].intercalate (fields.map field) := by
    cases fields with
    | nil => exact List.not_mem_nil
    | cons f fields =>
      rw [List.map_cons, intercalate_cons, List.mem_append, not_or, List.mem_flatMap]
      refine ⟨hfield f, ?_⟩
      rintro ⟨chars, hchars, hmem⟩
      obtain ⟨g, -, rfl⟩ := List.mem_map.1 hchars
      exact hfield g (List.mem_of_ne_of_mem (by decide) hmem)
  rw [object, List.mem_append, List.mem_append, not_or, not_or]
  exact ⟨⟨by decide, hfields⟩, by decide⟩

end Json

namespace Corpus

open Json (Value)

/-- The fields of a record, with the time at which it is written. -/
def fieldsOf (r : Record × String) : List (String × String) :=
  [("id", r.1.id), ("title", r.1.title), ("body", r.1.body), ("url", r.1.url), ("timestamp", r.2)]

def valueOf (r : Record × String) : Value := .object ((fieldsOf r).map fun f => (f.1, .text f.2))

theorem ofValue_valueOf (r : Record × String) : Document.ofValue (valueOf r) = .ok ⟨r.1.url, r.1.body⟩ := rfl

theorem within_valueOf (r : Record × String) : (valueOf r).Within 1 := by
  have hkeys : ["id", "title", "body", "url", "timestamp"].Nodup := by decide
  refine .object hkeys fun f hf => ?_
  obtain ⟨g, -, rfl⟩ := List.mem_map.1 hf
  exact .text 0 g.2

/-- The lines of a file of records, with an empty one behind the last line feed. -/
def linesOf (records : List (Record × String)) : List (List Char) :=
  records.map (fun r => Json.object (fieldsOf r)) ++ [[]]

section Lines
variable (records : List (Record × String))

theorem flatMap_line_eq : records.flatMap (fun r => r.1.line r.2) = ['\n'].intercalate (linesOf records) := by
  induction records with
  | nil => rfl
  | cons r records ih =>
    obtain ⟨first, more, hmore⟩ : ∃ first more, linesOf records = first :: more :=
      List.exists_cons_of_ne_nil (List.append_ne_nil_of_right_ne_nil _ (List.cons_ne_nil _ _))
    have hcons : linesOf (r :: records) = Json.object (fieldsOf r) :: linesOf records := rfl
    have hline : r.1.line r.2 = Json.object (fieldsOf r) ++ ['\n'] := rfl
    rw [List.flatMap_cons, ih, hline, hcons, hmore, Json.intercalate_cons, Json.intercalate_cons, List.flatMap_cons,
      List.append_assoc]
    rfl

theorem lineFeed_not_mem_of_mem_linesOf : ∀ line ∈ linesOf records, '\n' ∉ line := by
  intro line hline
  obtain hline | hline := List.mem_append.1 hline
  · obtain ⟨r, -, rfl⟩ := List.mem_map.1 hline
    exact Json.lineFeed_not_mem_object _
  · rw [List.mem_singleton.1 hline]
    exact List.not_mem_nil

theorem forall₂_spells_valueOf : List.Forall₂ Json.Spells (nonBlank (linesOf records)) (records.map valueOf) := by
  induction records with
  | nil => exact .nil
  | cons r records ih =>
    have hspells : Json.Spells (Json.object (fieldsOf r)) (valueOf r) := Json.spells_object _
    have hcons : linesOf (r :: records) = Json.object (fieldsOf r) :: linesOf records := rfl
    rw [hcons, nonBlank_cons hspells, List.map_cons]
    exact .cons hspells ih

theorem gives_readFile_records (path : String) :
    Gives path (readFile path .lines (Text.utf8 (.ofList (records.flatMap fun r => r.1.line r.2))))
      (.ok (records.map fun r => ⟨r.1.url, r.1.body⟩)) := by
  have hdocuments : (records.map valueOf).mapM Document.ofValue = .ok (records.map fun r => ⟨r.1.url, r.1.body⟩) := by
    rw [mapM_eq_ok_iff, List.forall₂_map_left_iff, List.forall₂_map_right_iff, List.forall₂_same]
    exact fun r _ => ofValue_valueOf r
  have hwithin : ∀ v ∈ records.map valueOf, v.Within 1 := by
    intro v hv
    obtain ⟨r, -, rfl⟩ := List.mem_map.1 hv
    exact within_valueOf r
  rw [flatMap_line_eq, ← hdocuments]
  exact gives_readFile_lines (lineFeed_not_mem_of_mem_linesOf records) (forall₂_spells_valueOf records) hwithin

end Lines

/-- **What a crawl writes is read back record by record.** Whatever the texts of the records are, the file with their
lines is loaded, and has one document for each of them, in order: its address and its text. -/
theorem records_are_read_back (records : List (Record × String)) (tree : FileTree) (path : String)
    (hpath : tree.find? path = some (.file (Text.utf8 (.ofList (records.flatMap fun r => r.1.line r.2)))))
    (hformat : Format.ofPath? path = some .lines) :
    load tree path = .ok (records.map fun r => ⟨r.1.url, r.1.body⟩) := by
  have hgives := gives_readFile_records records path
  rw [load_file hpath hformat]
  generalize readFile path .lines _ = result at hgives ⊢
  cases hgives
  rfl

/-- A record with a quotation mark, a line break, a control character and one beyond the first 65536. -/
def exampleRecord : Record where
  id := "1"
  title := "a \"title\""
  body := "two\nlines\x01😀"
  url := "http://a/"

def exampleFile : FileTree :=
  .file (Text.utf8 (.ofList ([(exampleRecord, "now"), (exampleRecord, "")].flatMap fun r => r.1.line r.2)))

theorem records_are_read_back_twice : load (.folder [("out.jsonl", exampleFile)]) "out.jsonl" =
    .ok [⟨"http://a/", "two\nlines\x01😀"⟩, ⟨"http://a/", "two\nlines\x01😀"⟩] := by
  have hfind (file : FileTree) : (FileTree.folder [("out.jsonl", file)]).find? "out.jsonl" = some file := by cbv
  have hformat : Format.ofPath? "out.jsonl" = some .lines := by cbv
  exact records_are_read_back [(exampleRecord, "now"), (exampleRecord, "")] _ _ (hfind exampleFile) hformat

end Corpus

end Retrieval
