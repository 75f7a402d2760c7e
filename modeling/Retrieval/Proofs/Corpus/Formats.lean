import Mathlib
import Retrieval.Corpus
import Retrieval.Proofs.Corpus.Document
import Retrieval.Proofs.Text.Decoding
import Retrieval.Proofs.Text.Lines

/-!
# The two formats of corpora

A file with a value a line holds the same documents as a file with the array of the values: those that the values are.
One value that is no document makes both malformed.

* `Corpus.Gives` : what a file gives where certain documents are asked for;
* `Corpus.gives_readFile_lines`, `Corpus.gives_readFile_array` : what the two formats give;
* `Corpus.LoadAlike` : two paths lead to the same documents, or both to a malformed one;
* `Corpus.formats_load_alike` : a file of either format, and a file of one object by itself.
-/

namespace Retrieval.Corpus

open Json (Malformed Spells Value)

/-! ## Documents and faults -/

/-- What is asked for is given, or the file is malformed where there is no such thing. -/
inductive Gives {α : Type} (path : String) : Except LoadError α → Except Malformed α → Prop where
  | ok (a : α) : Gives path (.ok a) (.ok a)
  | malformed (why reason : Malformed) : Gives path (.error (.malformed path why)) (.error reason)

/-- The documents of a first line in front of those of the other lines. -/
def andThen {ε : Type} (first : Except ε (Option Document)) (others : Except ε (List Document)) :
    Except ε (List Document) := do
  let document ← first
  let documents ← others
  pure (document.toList ++ documents)

section Gives
variable {path : String}

theorem Gives.andThen {first : Except LoadError (Option Document)} {others : Except LoadError (List Document)}
    {first' : Except Malformed (Option Document)} {others' : Except Malformed (List Document)}
    (h : Gives path first first') (h' : Gives path others others') :
    Gives path (andThen first others) (andThen first' others') := by
  cases h with
  | malformed why reason => exact .malformed why reason
  | ok document =>
    cases h' with
    | malformed why reason => exact .malformed why reason
    | ok documents => exact .ok _

/-! ## Lines -/

def nonBlank (lines : List (List Char)) : List (List Char) := lines.filter fun line => !line.all Text.isBlank

variable {line rest : List Char} {v : Value} {depth : Nat}

theorem filterMap_mapM_cons {first : List UInt8} {others : List (List UInt8)} :
    (do let documents ← (first :: others).mapM (readLine path); pure (documents.filterMap id)) =
      andThen (readLine path first)
        (do let documents ← others.mapM (readLine path); pure (documents.filterMap id)) := by
  rw [List.mapM_cons, andThen]
  cases readLine path first with
  | error e => rfl
  | ok document =>
    cases others.mapM (readLine path) with
    | error e => rfl
    | ok documents =>
      cases document with
      | none => rfl
      | some document => rfl

theorem readFile_cons (hline : '\n' ∉ line) : readFile path .lines (Text.utf8 (.ofList (line ++ '\n' :: rest))) =
    andThen (readLine path (Text.utf8 (.ofList (Text.withoutReturn line))))
      (readFile path .lines (Text.utf8 (.ofList rest))) := by
  rw [readFile, readFile, Text.lines_utf8_cons hline, filterMap_mapM_cons]

theorem readFile_nil : readFile path .lines (Text.utf8 (.ofList [])) = .ok [] := by
  rw [readFile, Text.lines_utf8_of_not_mem List.not_mem_nil, if_pos rfl]
  rfl

theorem readFile_of_not_mem (hline : '\n' ∉ line) (hne : line ≠ []) :
    readFile path .lines (Text.utf8 (.ofList line)) = andThen (readLine path (Text.utf8 (.ofList line))) (.ok []) := by
  rw [readFile, Text.lines_utf8_of_not_mem hline, if_neg hne, filterMap_mapM_cons]
  rfl

theorem all_isBlank_eq_false (h : Spells line v) : line.all Text.isBlank = false := by
  obtain ⟨c, hc, hblank⟩ := h.exists_not_blank
  exact List.all_eq_false.2 ⟨c, hc, by simp [hblank]⟩

theorem nonBlank_cons (h : Spells line v) (lines : List (List Char)) :
    nonBlank (line :: lines) = line :: nonBlank lines :=
  List.filter_cons_of_pos (by simp [all_isBlank_eq_false h])

theorem readLine_of_blank (h : line.all Text.isBlank) : readLine path (Text.utf8 (.ofList line)) = .ok none := by
  rw [readLine, Text.decode_utf8]
  dsimp only
  rw [if_pos (by rw [String.all_bool_eq, String.toList_ofList, h])]

theorem gives_readLine (h : Spells line v) (hv : v.Within depth) :
    Gives path (readLine path (Text.utf8 (.ofList line))) ((Document.ofValue v).map some) := by
  have hsome : ¬ (String.ofList line).all Text.isBlank = true := by
    rw [String.all_bool_eq, String.toList_ofList, all_isBlank_eq_false h]
    exact Bool.false_ne_true
  have hsymbols : Text.symbolsOf (.ofList line) = line.map some := by
    rw [Text.symbolsOf, String.toList_ofList]
  rw [readLine, Text.decode_utf8]
  dsimp only
  rw [if_neg hsome, hsymbols]
  cases hdocument : Document.ofValue v with
  | ok document =>
    rw [(Document.read_iff h hv).2 hdocument]
    exact .ok _
  | error reason =>
    cases hread : Document.read (line.map some) with
    | ok document =>
      rw [(Document.read_iff h hv).1 hread] at hdocument
      cases hdocument
    | error why => exact .malformed why reason

theorem all_isBlank_withoutReturn (h : line.all Text.isBlank) : (Text.withoutReturn line).all Text.isBlank := by
  rw [Text.withoutReturn]
  split_ifs
  · exact List.all_eq_true.2 fun c hc => List.all_eq_true.1 h c (List.dropLast_subset _ hc)
  · exact h

/-- A line end with a carriage return makes no difference. -/
theorem spells_withoutReturn (h : Spells line v) : Spells (Text.withoutReturn line) v := by
  obtain heq | heq := Text.eq_or_eq_withoutReturn_append line
  · exact heq ▸ h
  · rw [heq] at h
    exact h.of_append_return

theorem ofValue_mapM_cons (v : Value) (values : List Value) : (v :: values).mapM Document.ofValue =
    andThen ((Document.ofValue v).map some) (values.mapM Document.ofValue) := by
  rw [List.mapM_cons, andThen]
  cases Document.ofValue v with
  | error e => rfl
  | ok document => cases values.mapM Document.ofValue <;> rfl

/-- A line in front of others, `read` being the line as it is read. -/
theorem gives_andThen {lines : List (List Char)} {values : List Value} {read : List Char}
    {others : Except LoadError (List Document)} (hblank : line.all Text.isBlank → read.all Text.isBlank)
    (hspells : ∀ v, Spells line v → Spells read v) (hvalues : List.Forall₂ Spells (nonBlank (line :: lines)) values)
    (hwithin : ∀ v ∈ values, v.Within depth)
    (hothers : ∀ values', List.Forall₂ Spells (nonBlank lines) values' → (∀ v ∈ values', v.Within depth) →
      Gives path others (values'.mapM Document.ofValue)) :
    Gives path (andThen (readLine path (Text.utf8 (.ofList read))) others) (values.mapM Document.ofValue) := by
  cases hline : line.all Text.isBlank with
  | true =>
    have hnone : andThen (.ok none) others = others := by cases others <;> rfl
    rw [nonBlank, List.filter_cons_of_neg (by simp [hline])] at hvalues
    rw [readLine_of_blank (hblank hline), hnone]
    exact hothers values hvalues hwithin
  | false =>
    rw [nonBlank, List.filter_cons_of_pos (by simp [hline])] at hvalues
    obtain ⟨v, more, hv, hmore, rfl⟩ := List.forall₂_cons_left_iff.1 hvalues
    obtain ⟨hvwithin, hmorewithin⟩ := List.forall_mem_cons.1 hwithin
    rw [ofValue_mapM_cons]
    exact (gives_readLine (hspells v hv) hvwithin).andThen (hothers more hmore hmorewithin)

/-- **A file with a value a line gives the documents that the values are.** -/
theorem gives_readFile_lines {lines : List (List Char)} {values : List Value} (hlines : ∀ line ∈ lines, '\n' ∉ line)
    (hvalues : List.Forall₂ Spells (nonBlank lines) values) (hwithin : ∀ v ∈ values, v.Within depth) :
    Gives path (readFile path .lines (Text.utf8 (.ofList (['\n'].intercalate lines))))
      (values.mapM Document.ofValue) := by
  induction lines generalizing values with
  | nil =>
    obtain rfl := List.forall₂_nil_left_iff.1 hvalues
    rw [List.intercalate_nil, readFile_nil]
    exact .ok []
  | cons line lines ih =>
    obtain ⟨hline, hmore⟩ := List.forall_mem_cons.1 hlines
    cases lines with
    | nil =>
      rw [Json.intercalate_cons, List.flatMap_nil, List.append_nil]
      obtain rfl | hne := eq_or_ne line []
      · obtain rfl := List.forall₂_nil_left_iff.1 hvalues
        rw [readFile_nil]
        exact .ok []
      · rw [readFile_of_not_mem hline hne]
        refine gives_andThen id (fun _ h => h) hvalues hwithin fun values' hvalues' _ => ?_
        obtain rfl := List.forall₂_nil_left_iff.1 hvalues'
        exact .ok []
    | cons next lines =>
      have hbreak : ['\n'].intercalate (line :: next :: lines) =
          line ++ '\n' :: ['\n'].intercalate (next :: lines) := by
        rw [Json.intercalate_cons, Json.intercalate_cons, List.flatMap_cons, List.cons_append]
      rw [hbreak, readFile_cons hline]
      exact gives_andThen all_isBlank_withoutReturn (fun _ => spells_withoutReturn) hvalues hwithin
        fun values' hvalues' hwithin' => ih hmore hvalues' hwithin'

/-! ## Values -/

theorem gives_readFile_value {chars : List Char} {expected : Except Malformed (List Document)} (h : Spells chars v)
    (hv : v.Within Json.buildDepth) (hdocuments : ofValue v = expected) :
    Gives path (readFile path .value (Text.utf8 (.ofList chars))) expected := by
  have hvalue : (Except.ok v).bind ofValue = expected := hdocuments
  rw [readFile, Text.symbols_utf8, Text.symbolsOf, String.toList_ofList, h.read_eq hv, hvalue]
  cases expected with
  | ok documents => exact .ok documents
  | error reason => exact .malformed reason reason

/-- **A file with an array of values gives the documents that these are.** -/
theorem gives_readFile_array {chars : List Char} {items : List Value} (h : Spells chars (.array items))
    (hwithin : (Value.array items).Within Json.buildDepth) :
    Gives path (readFile path .value (Text.utf8 (.ofList chars))) (items.mapM Document.ofValue) :=
  gives_readFile_value h hwithin rfl

/-- **A file with an object gives the document that this is.** -/
theorem gives_readFile_object {chars : List Char} {fields : List (String × Value)} (h : Spells chars (.object fields))
    (hwithin : (Value.object fields).Within Json.buildDepth) :
    Gives path (readFile path .value (Text.utf8 (.ofList chars))) ([.object fields].mapM Document.ofValue) := by
  refine gives_readFile_value h hwithin ?_
  rw [ofValue_mapM_cons, ofValue]
  cases Document.ofValue (.object fields) with
  | ok document => rfl
  | error reason => rfl

end Gives

/-! ## Both formats -/

/-- Two paths lead to the same documents, or both to a malformed one. -/
def LoadAlike (tree : FileTree) (path other : String) : Prop :=
  (∃ documents, load tree path = .ok documents ∧ load tree other = .ok documents) ∨
    ∃ why reason, load tree path = .error (.malformed path why) ∧ load tree other = .error (.malformed other reason)

section Load
variable {tree : FileTree} {path other : String} {bytes : List UInt8} {format : Format}

theorem load_file (hfind : tree.find? path = some (.file bytes)) (hformat : Format.ofPath? path = some format) :
    load tree path = readFile path format bytes := by
  rw [load, hfind, hformat]

theorem loadAlike_of_gives {expected : Except Malformed (List Document)} (h : Gives path (load tree path) expected)
    (h' : Gives other (load tree other) expected) : LoadAlike tree path other := by
  generalize hresult : load tree path = result at h
  generalize hresult' : load tree other = result' at h'
  cases h with
  | ok documents =>
    cases h'
    exact .inl ⟨documents, hresult, hresult'⟩
  | malformed why reason =>
    cases h' with
    | malformed why' => exact .inr ⟨why, why', hresult, hresult'⟩

end Load

/-- **The two formats hold the same documents.** Let values be spelled each on a line of its own, with any blank lines
between them, where no object repeats a key, every number is finite, and at most 100 containers are open at once. A half
of a surrogate pair is no spelling of a character, and a carriage return in front of a line feed is a blank.
* The file with these lines and the file with the array of them lead to the same documents, or are both malformed.
* If there is one value, an object, the file of it alone does the same. -/
theorem formats_load_alike (lines : List (List Char)) (values : List Value) (hlines : ∀ line ∈ lines, '\n' ∉ line)
    (hvalues : List.Forall₂ Spells (nonBlank lines) values) (hwithin : ∀ v ∈ values, v.Within 100) (tree : FileTree)
    (path other : String)
    (hpath : tree.find? path = some (.file (Text.utf8 (.ofList (['\n'].intercalate lines)))))
    (hformat : Format.ofPath? path = some .lines)
    (hother : tree.find? other =
      some (.file (Text.utf8 (.ofList ('[' :: [','].intercalate (nonBlank lines) ++ [']'])))))
    (hformat' : Format.ofPath? other = some .value) :
    LoadAlike tree path other ∧ ∀ fields text single, values = [.object fields] → nonBlank lines = [text] →
      tree.find? single = some (.file (Text.utf8 (.ofList text))) → Format.ofPath? single = some .value →
        LoadAlike tree path single := by
  have hdepth : 100 + 1 ≤ Json.buildDepth := by decide
  have hlinesGive : Gives path (load tree path) (values.mapM Document.ofValue) := by
    rw [load_file hpath hformat]
    exact gives_readFile_lines hlines hvalues hwithin
  refine ⟨loadAlike_of_gives hlinesGive ?_, ?_⟩
  · rw [load_file hother hformat']
    exact gives_readFile_array (Json.spells_array hvalues) ((Value.Within.array hwithin).mono hdepth)
  · rintro fields text single rfl htext hsingle hformatSingle
    rw [htext] at hvalues
    obtain ⟨hspells, -⟩ := List.forall₂_cons.1 hvalues
    refine loadAlike_of_gives hlinesGive ?_
    rw [load_file hsingle hformatSingle]
    exact gives_readFile_object hspells ((hwithin _ List.mem_cons_self).mono (Nat.le_of_succ_le hdepth))

/-- One record and a blank line. -/
def exampleLines : List (List Char) := [Json.object [("url", "u"), ("body", "b")], [' ']]

def exampleFiles (lines array object : List Char) : FileTree :=
  .folder [("a.jsonl", .file (Text.utf8 (.ofList lines))), ("b.json", .file (Text.utf8 (.ofList array))),
    ("c.json", .file (Text.utf8 (.ofList object)))]

theorem find?_exampleFiles (lines array object : List Char) :
    (exampleFiles lines array object).find? "a.jsonl" = some (.file (Text.utf8 (.ofList lines))) ∧
      (exampleFiles lines array object).find? "b.json" = some (.file (Text.utf8 (.ofList array))) ∧
      (exampleFiles lines array object).find? "c.json" = some (.file (Text.utf8 (.ofList object))) := by
  have hfind (a b c : FileTree) :
      (FileTree.folder [("a.jsonl", a), ("b.json", b), ("c.json", c)]).find? "a.jsonl" = some a ∧
      (FileTree.folder [("a.jsonl", a), ("b.json", b), ("c.json", c)]).find? "b.json" = some b ∧
      (FileTree.folder [("a.jsonl", a), ("b.json", b), ("c.json", c)]).find? "c.json" = some c := by
    refine ⟨?_, ?_, ?_⟩
    all_goals cbv
  exact hfind _ _ _

def recordFiles : FileTree := exampleFiles (['\n'].intercalate exampleLines)
  ('[' :: [','].intercalate (nonBlank exampleLines) ++ [']']) (Json.object [("url", "u"), ("body", "b")])

theorem formats_load_alike_record :
    LoadAlike recordFiles "a.jsonl" "b.json" ∧ LoadAlike recordFiles "a.jsonl" "c.json" := by
  have hnonBlank : nonBlank exampleLines = [Json.object [("url", "u"), ("body", "b")]] := by decide +kernel
  have hwithin : (Value.object [("url", .text "u"), ("body", .text "b")]).Within 100 := by
    refine .object (by decide) fun f hf => ?_
    obtain rfl | rfl : f = ("url", .text "u") ∨ f = ("body", .text "b") := by simpa using hf
    · exact .text _ _
    · exact .text _ _
  have hspells := Json.spells_object [("url", "u"), ("body", "b")]
  obtain ⟨hlines, harray, hobject⟩ := find?_exampleFiles (['\n'].intercalate exampleLines)
    ('[' :: [','].intercalate (nonBlank exampleLines) ++ [']']) (Json.object [("url", "u"), ("body", "b")])
  have hjsonl : Format.ofPath? "a.jsonl" = some .lines := by cbv
  have hjson : Format.ofPath? "b.json" = some .value := by cbv
  have hjson' : Format.ofPath? "c.json" = some .value := by cbv
  obtain ⟨hboth, hsingle⟩ := formats_load_alike exampleLines [.object [("url", .text "u"), ("body", .text "b")]]
    (by decide +kernel) (hnonBlank ▸ .cons hspells .nil) (by simpa using hwithin) recordFiles "a.jsonl" "b.json" hlines
    hjsonl harray hjson
  exact ⟨hboth, hsingle _ _ "c.json" rfl hnonBlank hobject hjson'⟩

end Retrieval.Corpus
