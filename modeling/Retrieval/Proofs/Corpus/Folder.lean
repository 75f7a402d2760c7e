import Mathlib
import Retrieval.Corpus
import Retrieval.Proofs.Each
import Retrieval.Proofs.FileTree

/-!
# Corpora in folders

The documents of a folder are those of the corpus files in it, however deep they are, in the order of the names that
lead to them. Nothing else in the folder matters, and neither does the order of its entries.

* `Corpus.IsFileName`, `Corpus.IsPlace` : the names of corpus files, and where these are;
* `Corpus.load_place` : what a file in a folder holds;
* `Corpus.Places`, `Corpus.exists_places` : where the corpus files of a folder are, in order;
* `Corpus.load_eq_flatten` : a folder is read file by file;
* `Corpus.folder_is_read_in_order` : what this makes of the documents, and of the first fault.
-/

namespace Retrieval.Corpus

open FileTree (IsName Precedes Lists join place)

/-! ## Names of corpus files -/

/-- A corpus file is named by its extension, in front of which something stands. -/
def IsFileName (name : String) : Prop :=
  ∃ stem extension, stem ≠ "" ∧ (extension = "json" ∨ extension = "jsonl") ∧ name = stem ++ "." ++ extension

/-- Names in a folder that end in that of a corpus file. -/
def IsPlace (names : List String) : Prop := ∃ name ∈ names.getLast?, IsFileName name

section Names
variable {path name : String} {names : List String}

theorem isFileName_iff :
    IsFileName name ↔ FileTree.extension? name = some "json" ∨ FileTree.extension? name = some "jsonl" := by
  have hjson : '.' ∉ "json".toList := by decide
  have hjsonl : '.' ∉ "jsonl".toList := by decide
  rw [FileTree.extension?_eq_some_iff, FileTree.extension?_eq_some_iff, and_iff_right hjson, and_iff_right hjsonl]
  constructor
  · rintro ⟨stem, extension, hstem, rfl | rfl, hname⟩
    · exact .inl ⟨stem, hstem, hname⟩
    · exact .inr ⟨stem, hstem, hname⟩
  · rintro (⟨stem, hstem, hname⟩ | ⟨stem, hstem, hname⟩)
    · exact ⟨stem, _, hstem, .inl rfl, hname⟩
    · exact ⟨stem, _, hstem, .inr rfl, hname⟩

instance : Decidable (IsFileName name) := decidable_of_iff _ isFileName_iff.symm

instance : Decidable (IsPlace names) :=
  decidable_of_iff (names.getLast?.any fun name => IsFileName name) (by simp [IsPlace, Option.any_eq_true])

theorem isSome_ofPath?_join (hname : IsName name) (path : String) :
    (Format.ofPath? (join path name)).isSome ↔ IsFileName name := by
  rw [Format.ofPath?, FileTree.fileName?_join hname, Option.bind_some, isFileName_iff]
  split
  · next h => simp [h]
  · next h => simp [h]
  · next hjsonl hjson => simp_all

end Names

/-! ## Files in a folder -/

section Files
variable {tree : FileTree} {path : String} {entries : List (String × FileTree)} {names : List String}
  {bytes : List UInt8}

theorem isSome_ofPath?_place (hwell : (FileTree.folder entries).WellFormed)
    (hat : (FileTree.folder entries).at? names.reverse = some (.file bytes)) (path : String) :
    (Format.ofPath? (place path names)).isSome ↔ IsPlace names := by
  obtain rfl | ⟨front, name, rfl⟩ := names.eq_nil_or_concat
  · cases hat
  · rw [List.concat_eq_append] at hat ⊢
    rw [List.reverse_append] at hat
    have hplace : place path (front ++ [name]) = join (place path front) name := List.foldl_append
    rw [hplace, isSome_ofPath?_join (hwell.isName_of_at? hat)]
    simp [IsPlace]

/-- A corpus file in a folder is read by its path, as it is by itself. -/
theorem load_place (hwell : (FileTree.folder entries).WellFormed) (hfind : tree.find? path = some (.folder entries))
    (hat : (FileTree.folder entries).at? names.reverse = some (.file bytes)) (hplace : IsPlace names) :
    load tree (place path names) = readAny (place path names, bytes) := by
  obtain ⟨format, hformat⟩ := Option.isSome_iff_exists.1 ((isSome_ofPath?_place hwell hat path).2 hplace)
  rw [load, FileTree.find?_place hwell hfind hat, readAny, hformat]

/-- A file that is no corpus file holds nothing. -/
theorem readAny_of_not_isPlace (hwell : (FileTree.folder entries).WellFormed)
    (hat : (FileTree.folder entries).at? names.reverse = some (.file bytes)) (hplace : ¬ IsPlace names) :
    readAny (place path names, bytes) = .ok [] := by
  have hnone : Format.ofPath? (place path names) = none := by
    rw [← Option.not_isSome_iff_eq_none, isSome_ofPath?_place hwell hat]
    exact hplace
  rw [readAny, hnone]

/-- Where the corpus files of a folder are, in the order of the names that lead to them. -/
structure Places (folder : FileTree) (places : List (List String)) : Prop where
  ordered : places.Pairwise Precedes
  mem_iff : ∀ names, names ∈ places ↔ IsPlace names ∧ ∃ bytes, folder.at? names.reverse = some (.file bytes)

theorem Places.unique {folder : FileTree} {places others : List (List String)} (h : Places folder places)
    (h' : Places folder others) : places = others :=
  h.ordered.eq_of_mem_iff h'.ordered fun names => (h.mem_iff names).trans (h'.mem_iff names).symm

theorem load_eq_flatten {listing : List (List String × List UInt8)}
    (hfind : tree.find? path = some (.folder entries)) (hlists : (FileTree.folder entries).Lists listing) :
    load tree path = (listing.mapM fun p => readAny (place path p.1, p.2)).map List.flatten := by
  have hparts : (FileTree.files path (.folder entries)).mapM readAny =
      listing.mapM fun p => readAny (place path p.1, p.2) := by
    rw [hlists.files_eq, List.mapM_map]
    rfl
  rw [load, hfind, ← hparts]
  dsimp only
  cases (FileTree.files path (.folder entries)).mapM readAny <;> rfl

/-- **A folder is read place by place.** -/
theorem exists_places (hwell : (FileTree.folder entries).WellFormed)
    (hfind : tree.find? path = some (.folder entries)) :
    ∃ places, Places (.folder entries) places ∧
      load tree path = (places.mapM fun names => load tree (place path names)).map List.flatten := by
  obtain ⟨listing, hlists⟩ := hwell.exists_lists
  have hat : ∀ p ∈ listing, (FileTree.folder entries).at? p.1.reverse = some (.file p.2) :=
    fun p hp => (hlists.mem_iff p.1 p.2).1 hp
  refine ⟨(listing.filter (IsPlace ·.1)).map (·.1), ⟨?_, ?_⟩, ?_⟩
  · exact hlists.ordered.sublist (List.filter_sublist.map _)
  · intro names
    simp only [List.mem_map, List.mem_filter, decide_eq_true_iff]
    constructor
    · rintro ⟨p, ⟨hp, hplace⟩, rfl⟩
      exact ⟨hplace, p.2, hat p hp⟩
    · rintro ⟨hplace, bytes, hbytes⟩
      exact ⟨(names, bytes), ⟨(hlists.mem_iff names bytes).2 hbytes, hplace⟩, rfl⟩
  · rw [load_eq_flatten hfind hlists, List.mapM_map, ← flatten_mapM_filter (IsPlace ·.1)]
    · refine congrArg (Except.map List.flatten) (mapM_congr fun p hp => ?_)
      obtain ⟨hp, hplace⟩ := List.mem_filter.1 hp
      exact (load_place hwell hfind (hat p hp) (of_decide_eq_true hplace)).symm
    · intro p hp hplace
      exact readAny_of_not_isPlace hwell (hat p hp) (of_decide_eq_false hplace)

end Files

/-! ## Folders -/

/-- **A folder is read in the order of the names that lead to its files.** There is one list of the places of corpus
files below a folder, at any depth, in strict order of the names that lead to them.
* If each of the files can be loaded by its own path, the documents of the folder are theirs, one file after the other.
* Otherwise the fault of the folder is that of the first file that cannot be loaded.
* A folder with the same corpus files at the same places is loaded alike, in whatever order its entries are listed, and
  whatever else is in it. -/
theorem folder_is_read_in_order (tree : FileTree) (path : String) (entries : List (String × FileTree))
    (hfind : tree.find? path = some (.folder entries)) (hwell : (FileTree.folder entries).WellFormed) :
    ∃ places, Places (.folder entries) places ∧
      (∀ documents, load tree path = .ok documents ↔
        ∃ parts, List.Forall₂ (fun names part => load tree (place path names) = .ok part) places parts ∧
          documents = parts.flatten) ∧
      (∀ e, load tree path = .error e ↔ ∃ before names after, places = before ++ names :: after ∧
        (∀ earlier ∈ before, ∃ part, load tree (place path earlier) = .ok part) ∧
          load tree (place path names) = .error e) ∧
      ∀ other others, other.find? path = some (.folder others) → (FileTree.folder others).WellFormed →
        (∀ names bytes, IsPlace names → ((FileTree.folder others).at? names.reverse = some (.file bytes) ↔
          (FileTree.folder entries).at? names.reverse = some (.file bytes))) → load other path = load tree path := by
  obtain ⟨places, hplaces, hload⟩ := exists_places hwell hfind
  refine ⟨places, hplaces, ?_, ?_, ?_⟩
  · intro documents
    rw [hload, map_eq_ok_iff]
    exact exists_congr fun parts => and_congr mapM_eq_ok_iff eq_comm
  · intro e
    rw [hload, map_eq_error_iff, mapM_eq_error_iff]
  · intro other others hfind' hwell' hsame
    obtain ⟨places', hplaces', hload'⟩ := exists_places hwell' hfind'
    have hsame' : Places (.folder entries) places' := by
      refine ⟨hplaces'.ordered, fun names => (hplaces'.mem_iff names).trans (and_congr_right fun hplace => ?_)⟩
      exact exists_congr fun bytes => hsame names bytes hplace
    obtain rfl := hsame'.unique hplaces
    rw [hload, hload']
    refine congrArg (Except.map List.flatten) (mapM_congr fun names hmem => ?_)
    obtain ⟨hplace, bytes, hat⟩ := (hplaces.mem_iff names).1 hmem
    rw [load_place hwell hfind hat hplace, load_place hwell' hfind' ((hsame names bytes hplace).2 hat) hplace]

/-- A file whose name differs from that of a folder by what stands behind a point, and a file without an extension. -/
def exampleFolder : List (String × FileTree) :=
  [("a.jsonl", .file (Text.utf8 "[\"1\",\"\"]")), ("a", .folder [("z.jsonl", .file (Text.utf8 "[\"0\",\"\"]"))]),
    (".json", .file [])]

theorem wellFormed_exampleFolder : (FileTree.folder exampleFolder).WellFormed := by
  have hinner : (FileTree.folder [("z.jsonl", .file (Text.utf8 "[\"0\",\"\"]"))]).WellFormed :=
    .folder _ (by decide +kernel) (by decide) (by simpa using .file _)
  refine .folder _ (by decide +kernel) (by decide) ?_
  simp [exampleFolder, hinner, FileTree.WellFormed.file]

/-- The file in the folder comes first, since the name of the folder does. -/
theorem places_exampleFolder : Places (.folder exampleFolder) [["a", "z.jsonl"], ["a.jsonl"]] where
  ordered := by decide +kernel
  mem_iff names := by
    have hplaces : IsPlace ["a", "z.jsonl"] ∧ IsPlace ["a.jsonl"] ∧ ¬ IsPlace [".json"] := by decide +kernel
    have hnodup : (exampleFolder.map (·.1)).Nodup := by decide
    have hinner : ([("z.jsonl", FileTree.file (Text.utf8 "[\"0\",\"\"]"))].map (·.1)).Nodup := by decide
    rw [exists_congr fun bytes => FileTree.at?_folder_iff hnodup]
    simp only [exampleFolder, List.mem_cons, List.not_mem_nil, or_false, exists_eq_or_imp, exists_eq_left,
      FileTree.at?_file_iff, FileTree.at?_folder_iff hinner]
    constructor
    · rintro (rfl | rfl)
      · simp [hplaces]
      · simp [hplaces]
    · rintro ⟨hplace, bytes, ⟨_, rfl, rfl, -⟩ | ⟨_, rfl, _, rfl, rfl, -⟩ | ⟨_, rfl, rfl, -⟩⟩
      · exact .inr rfl
      · exact .inl rfl
      · exact absurd hplace hplaces.2.2

theorem folder_is_read_in_order_nested :
    (FileTree.folder exampleFolder).find? "." = some (.folder exampleFolder) ∧
      (FileTree.folder exampleFolder).WellFormed ∧
      load (.folder exampleFolder) "." = .ok [⟨"0", ""⟩, ⟨"1", ""⟩] := by
  have hfind : (FileTree.folder exampleFolder).find? "." = some (.folder exampleFolder) := by cbv
  refine ⟨hfind, wellFormed_exampleFolder, ?_⟩
  obtain ⟨places, hplaces, hload, -⟩ := folder_is_read_in_order _ _ _ hfind wellFormed_exampleFolder
  obtain rfl := hplaces.unique places_exampleFolder
  have hfirst : load (.folder exampleFolder) (place "." ["a", "z.jsonl"]) = .ok [⟨"0", ""⟩] := by cbv
  have hsecond : load (.folder exampleFolder) (place "." ["a.jsonl"]) = .ok [⟨"1", ""⟩] := by cbv
  exact (hload _).2 ⟨[[⟨"0", ""⟩], [⟨"1", ""⟩]], .cons hfirst (.cons hsecond .nil), rfl⟩

end Retrieval.Corpus
