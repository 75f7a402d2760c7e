import Mathlib.Data.List.Sort
import Retrieval.FileTree
import Retrieval.Proofs.Text.ByteOrder
import Retrieval.Proofs.Text.Pieces

/-!
# Listings of folders

Siblings are listed in the order of their names, and what is in a folder is listed where the folder stands. So the files
of a tree are in the order of the lists of names that lead to them, which is not the order of their paths as texts.

* `FileTree.IsName`, `FileTree.WellFormed` : folders whose entries have different names;
* `FileTree.at?`, `FileTree.at?_folder_iff` : what names lead to in a tree;
* `FileTree.find?_join`, `FileTree.find?_place` : what paths below a folder lead to;
* `FileTree.extension?_eq_some_iff` : the extension of a name, told by what stands around its last point;
* `FileTree.Precedes` : the order of lists of names, which are compared by their bytes;
* `FileTree.Lists`, `FileTree.WellFormed.exists_lists` : the files of a tree with the names that lead to them.
-/

namespace Retrieval.FileTree

variable {path name : String} {tree next : FileTree} {entries : List (String × FileTree)}

/-! ## Names -/

/-- The names that an entry of a folder may have. -/
structure IsName (name : String) : Prop where
  ne_empty : name ≠ ""
  ne_here : name ≠ "."
  ne_above : name ≠ ".."
  no_slash : '/' ∉ name.toList

theorem isName_iff : IsName name ↔ name ≠ "" ∧ name ≠ "." ∧ name ≠ ".." ∧ '/' ∉ name.toList :=
  ⟨fun h => ⟨h.1, h.2, h.3, h.4⟩, fun h => ⟨h.1, h.2.1, h.2.2.1, h.2.2.2⟩⟩

instance : Decidable (IsName name) := decidable_of_iff _ isName_iff.symm

/-- The entries of every folder have names of their own. -/
inductive WellFormed : FileTree → Prop
  | file (bytes : List UInt8) : WellFormed (.file bytes)
  | folder (entries : List (String × FileTree)) (hnames : ∀ e ∈ entries, IsName e.1)
      (hnodup : (entries.map (·.1)).Nodup) (htrees : ∀ e ∈ entries, WellFormed e.2) : WellFormed (.folder entries)

theorem child?_folder : (folder entries).child? name = (entries.find? (·.1 = name)).map (·.2) := rfl

theorem child?_file (bytes : List UInt8) (name : String) : (file bytes).child? name = none := rfl

theorem child?_eq_some_iff (hnodup : (entries.map (·.1)).Nodup) :
    (folder entries).child? name = some next ↔ (name, next) ∈ entries := by
  rw [child?_folder, Option.map_eq_some_iff]
  constructor
  · rintro ⟨e, hfind, rfl⟩
    have hname : e.1 = name := by simpa using List.find?_some hfind
    rw [← hname]
    exact List.mem_of_find?_eq_some hfind
  · intro hmem
    have hsome : (entries.find? (·.1 = name)).isSome := List.find?_isSome.2 ⟨_, hmem, by simp⟩
    obtain ⟨e, hfind⟩ := Option.isSome_iff_exists.1 hsome
    have hname : e.1 = name := by simpa using List.find?_some hfind
    obtain rfl := List.inj_on_of_nodup_map hnodup (List.mem_of_find?_eq_some hfind) hmem hname
    exact ⟨_, hfind, rfl⟩

namespace WellFormed

theorem isName (h : (FileTree.folder entries).WellFormed)
    (hchild : (FileTree.folder entries).child? name = some next) : IsName name := by
  obtain _ | ⟨_, hnames, hnodup, -⟩ := h
  exact hnames _ ((child?_eq_some_iff hnodup).1 hchild)

theorem child (h : (FileTree.folder entries).WellFormed) (hchild : (FileTree.folder entries).child? name = some next) :
    next.WellFormed := by
  obtain _ | ⟨_, -, hnodup, htrees⟩ := h
  exact htrees _ ((child?_eq_some_iff hnodup).1 hchild)

end WellFormed

/-! ## Paths below a folder -/

theorem steps_eq (path : String) : steps path = (path.toList.splitOn '/').map .ofList := by
  rw [steps, Text.split_eq_splitOn]

/-- A name is joined to the path of a folder behind a slash. -/
theorem exists_join (path name : String) : ∃ front, join path name = .ofList (front ++ '/' :: name.toList) ∧
    (path.toList = front ∨ path.toList = front ++ ['/']) := by
  rw [join]
  split
  · next hslash =>
    rw [String.endsWith_eq_endsWith_toSlice, String.Slice.endsWith_string_iff] at hslash
    obtain ⟨front, hfront⟩ := hslash
    rw [String.copy_toSlice] at hfront
    refine ⟨front, String.toList_injective ?_, .inr hfront.symm⟩
    rw [String.toList_ofList, String.toList_append, ← hfront, List.append_assoc]
    rfl
  · refine ⟨path.toList, String.toList_injective ?_, .inl rfl⟩
    rw [String.toList_ofList, String.toList_append, String.toList_append, List.append_assoc]
    rfl

theorem relative_iff : ¬ (path = "" ∨ path.startsWith "/" = true) ↔ ∃ c ∈ path.toList.head?, c ≠ '/' := by
  rw [String.startsWith_string_iff, ← String.toList_inj]
  cases path.toList with
  | nil => simp
  | cons c rest => simp [List.cons_prefix_cons, eq_comm]

/-- A path below a folder begins as that of the folder does. -/
theorem exists_relative_join :
    (∃ c ∈ (join path name).toList.head?, c ≠ '/') ↔ ∃ c ∈ path.toList.head?, c ≠ '/' := by
  obtain ⟨front, hjoin, hpath⟩ := exists_join path name
  rw [hjoin, String.toList_ofList]
  rcases hpath with hpath | hpath
  all_goals
    rw [hpath]
    cases front <;> simp

/-- The steps of the path of an entry end in its name; those of the path of the folder may end in an empty one. -/
theorem exists_steps_join (hname : IsName name) (path : String) : ∃ front, steps (join path name) = front ++ [name] ∧
    (steps path = front ∨ steps path = front ++ [""]) := by
  obtain ⟨front, hjoin, hpath⟩ := exists_join path name
  refine ⟨(front.splitOn '/').map .ofList, ?_, ?_⟩
  · rw [hjoin, steps_eq, String.toList_ofList, List.splitOn_append_cons_self, List.map_append,
      List.splitOn_eq_singleton hname.no_slash, List.map_singleton, String.ofList_toList]
  · rw [steps_eq]
    refine hpath.imp (fun h => ?_) fun h => ?_
    · rw [h]
    · rw [h, List.splitOn_append_cons_self, List.map_append, List.splitOn_nil]
      rfl

/-- Steps may be exchanged behind others if that is so wherever these lead to. -/
theorem walk_append {tail tail' : List String} {r : FileTree} {r' : Option FileTree}
    (hagree : ∀ above tree, walk above tree tail = some r → walk above tree tail' = r') (front : List String)
    {above : List FileTree} (h : walk above tree (front ++ tail) = some r) : walk above tree (front ++ tail') = r' := by
  induction front generalizing above tree with
  | nil => exact hagree above tree h
  | cons step front ih =>
    rw [List.cons_append, walk.eq_def] at h ⊢
    dsimp only at h ⊢
    split at h
    · cases h
    · next hfolder =>
      rw [if_neg hfolder]
      split at h
      · next hblank =>
        rw [if_pos hblank]
        exact ih h
      · next hblank =>
        rw [if_neg hblank]
        split at h
        · next hup =>
          rw [if_pos hup]
          cases above with
          | nil => cases h
          | cons parent more => exact ih h
        · next hup =>
          rw [if_neg hup]
          cases hchild : tree.child? step with
          | none =>
            rw [hchild] at h
            cases h
          | some next =>
            rw [hchild] at h
            exact ih h

theorem find?_join (hname : IsName name) (hfind : tree.find? path = some (.folder entries)) :
    tree.find? (join path name) = (folder entries).child? name := by
  have hblank : ∀ above tree, walk above tree [] = some (.folder entries) →
      walk above tree [""] = some (.folder entries) := by
    rintro above tree ⟨⟩
    rfl
  have hentry : ∀ above tree, walk above tree [""] = some (.folder entries) →
      walk above tree [name] = (folder entries).child? name := by
    intro above tree h
    cases tree with
    | file bytes => cases h
    | folder others =>
      obtain rfl : others = entries := by
        cases h
        rfl
      rw [walk.eq_def]
      simp only [isFolder, Bool.not_true, Bool.false_eq_true, if_false, hname.ne_empty, hname.ne_here, hname.ne_above,
        or_self]
      cases (folder others).child? name with
      | none => rfl
      | some next => rfl
  obtain ⟨front, hjoin, hsteps⟩ := exists_steps_join hname path
  rw [find?] at hfind ⊢
  split at hfind
  · cases hfind
  · next hrelative =>
    rw [if_neg, hjoin]
    · refine walk_append hentry front ?_
      obtain hsteps | hsteps := hsteps
      · refine walk_append hblank front ?_
        rwa [List.append_nil, ← hsteps]
      · rwa [← hsteps]
    · rwa [relative_iff, exists_relative_join, ← relative_iff]

theorem at?_append (tree : FileTree) (names : List String) (name : String) :
    tree.at? (names ++ [name]) = (tree.child? name).bind fun next => next.at? names := by
  induction names with
  | nil => 
    rw [List.nil_append, at?, at?]
    simp [at?]
  | cons other names ih =>
    rw [List.cons_append, at?, ih, Option.bind_assoc]
    rfl

/-- Names lead nowhere from a file. -/
theorem at?_file_iff {bytes : List UInt8} {names : List String} :
    (file bytes).at? names.reverse = some next ↔ names = [] ∧ next = file bytes := by
  cases names with
  | nil => simp [at?, eq_comm]
  | cons name names => simp [at?_append, child?_file]

/-- From a folder they lead to a file by the first of them and from its entry by the others. -/
theorem at?_folder_iff {bytes : List UInt8} {names : List String} (hnodup : (entries.map (·.1)).Nodup) :
    (folder entries).at? names.reverse = some (.file bytes) ↔
      ∃ e ∈ entries, ∃ rest, names = e.1 :: rest ∧ e.2.at? rest.reverse = some (.file bytes) := by
  cases names with
  | nil => simp [at?]
  | cons name names =>
    simp only [List.reverse_cons, at?_append, Option.bind_eq_some_iff, child?_eq_some_iff hnodup, List.cons.injEq]
    constructor
    · rintro ⟨next, hmem, hat⟩
      exact ⟨_, hmem, names, ⟨rfl, rfl⟩, hat⟩
    · rintro ⟨e, hmem, rest, ⟨rfl, rfl⟩, hat⟩
      exact ⟨e.2, hmem, hat⟩

/-- The path to which names below a folder lead. -/
def place (path : String) (names : List String) : String := names.foldl join path

/-- **A path below a folder leads where its names lead to.** -/
theorem find?_place (hwell : (folder entries).WellFormed) (hfind : tree.find? path = some (.folder entries))
    {names : List String} (hat : (folder entries).at? names.reverse = some next) :
    tree.find? (place path names) = some next := by
  induction names generalizing path entries with
  | nil =>
    cases hat
    exact hfind
  | cons name names ih =>
    rw [List.reverse_cons, at?_append] at hat
    obtain ⟨child, hchild, hat⟩ := Option.bind_eq_some_iff.1 hat
    have hjoin := find?_join (hwell.isName hchild) hfind
    rw [hchild] at hjoin
    cases child with
    | folder inner => exact ih (hwell.child hchild) hjoin hat
    | file bytes =>
      obtain ⟨rfl, rfl⟩ := at?_file_iff.1 hat
      exact hjoin

theorem WellFormed.at? (hwell : tree.WellFormed) {names : List String} (hat : tree.at? names = some next) :
    next.WellFormed := by
  induction names generalizing next with
  | nil =>
    cases hat
    exact hwell
  | cons name above ih =>
    obtain ⟨parent, hparent, hchild⟩ := Option.bind_eq_some_iff.1 hat
    cases parent with
    | file bytes => cases hchild
    | folder entries => exact (ih hparent).child hchild

/-- The last of the names that lead somewhere is the name of an entry. -/
theorem WellFormed.isName_of_at? (hwell : tree.WellFormed) {above : List String}
    (hat : tree.at? (name :: above) = some next) : IsName name := by
  obtain ⟨parent, hparent, hchild⟩ := Option.bind_eq_some_iff.1 hat
  cases parent with
  | file bytes => cases hchild
  | folder entries => exact (hwell.at? hparent).isName hchild

/-! ## Extensions -/

theorem fileName?_join (hname : IsName name) (path : String) : fileName? (join path name) = some name := by
  obtain ⟨front, hjoin, -⟩ := exists_steps_join hname path
  rw [fileName?, hjoin, List.reverse_append, List.reverse_singleton, List.singleton_append,
    List.dropWhile_cons_of_neg (by simp [hname.ne_empty, hname.ne_here])]
  exact if_neg hname.ne_above

/-- What stands behind the last point is the extension if something stands before the point. -/
theorem extension?_append {stem ext : List Char} (hext : '.' ∉ ext) :
    extension? (.ofList (stem ++ '.' :: ext)) = if stem = [] then none else some (.ofList ext) := by
  rw [extension?, Text.split_eq_splitOn, String.toList_ofList, List.splitOn_append_cons_self,
    List.splitOn_eq_singleton hext, List.reverse_append, List.reverse_singleton, List.singleton_append]
  have hstem : stem = [] ↔ (stem.splitOn '.').reverse = [[]] := by
    rw [List.reverse_eq_iff]
    constructor
    · rintro rfl
      exact List.splitOn_nil ..
    · intro h
      rw [← stem.intercalate_splitOn '.', h]
      rfl
  have hne : (stem.splitOn '.').reverse ≠ [] := List.reverse_ne_nil_iff.2 (List.splitOn_ne_nil '.' stem)
  cases hpieces : (stem.splitOn '.').reverse with
  | nil => exact absurd hpieces hne
  | cons before more => simp only [hstem, hpieces, List.cons.injEq, List.isEmpty_iff]

/-- The extension of a name stands behind its last point, and something stands before that. -/
theorem extension?_eq_some_iff {ext : String} : extension? name = some ext ↔
    '.' ∉ ext.toList ∧ ∃ stem, stem ≠ "" ∧ name = stem ++ "." ++ ext := by
  constructor
  · intro h
    by_cases hpoint : '.' ∈ name.toList.reverse
    · obtain ⟨last, front, hname, hlast⟩ := List.eq_append_cons_of_mem hpoint
      rw [List.reverse_eq_iff, List.reverse_append, List.reverse_cons, List.append_assoc,
        List.singleton_append] at hname
      rw [← String.ofList_toList (s := name), hname, extension?_append (by simpa using hlast)] at h
      split at h
      · cases h
      · next hstem =>
        cases h
        refine ⟨by simpa using hlast, .ofList front.reverse, ?_, ?_⟩
        · simpa using hstem
        · apply String.toList_injective
          simp [hname]
    · rw [extension?, Text.split_eq_splitOn, List.splitOn_eq_singleton (by simpa using hpoint)] at h
      cases h
  · rintro ⟨hext, stem, hstem, rfl⟩
    have hlist : stem ++ "." ++ ext = .ofList (stem.toList ++ '.' :: ext.toList) := by
      apply String.toList_injective
      simp
    rw [hlist, extension?_append hext, if_neg, String.ofList_toList]
    simpa using hstem

/-! ## Listings -/

/-- Lists of names are compared name by name, and names by their bytes. -/
def Precedes (a b : List String) : Prop := a.map Text.utf8 < b.map Text.utf8

instance (a b : List String) : Decidable (Precedes a b) := inferInstanceAs (Decidable (_ < _))

theorem precedes_cons_iff {x y : String} {a b : List String} :
    Precedes (x :: a) (y :: b) ↔ x < y ∨ x = y ∧ Precedes a b := by
  rw [Precedes, List.map_cons, List.map_cons, List.cons_lt_cons_iff, Text.utf8_lt_iff, Text.utf8_injective.eq_iff]
  rfl

instance : Std.Irrefl Precedes := ⟨fun _ => List.lt_irrefl _⟩

instance : Std.Antisymm Precedes := ⟨fun _ _ h h' => absurd h' (List.lt_asymm h)⟩

theorem entryFiles_eq_map (path : String) (entries : List (String × FileTree)) :
    entryFiles path entries = entries.map fun e => (e.1, files (join path e.1) e.2) := by
  induction entries with
  | nil => rfl
  | cons e rest ih => rw [entryFiles, ih, List.map_cons]

/-- The entries of a folder in the order of their names. -/
def sorted (entries : List (String × FileTree)) : List (String × FileTree) :=
  entries.mergeSort fun a b => a.1 ≤ b.1

/-- A folder is listed entry by entry, in the order of their names. -/
theorem files_folder (path : String) (entries : List (String × FileTree)) :
    files path (.folder entries) = (sorted entries).flatMap fun e => files (join path e.1) e.2 := by
  have hmap := List.map_mergeSort (r := fun a b : String × FileTree => decide (a.1 ≤ b.1))
    (s := fun a b => decide (a.1 ≤ b.1)) (f := fun e => (e.1, files (join path e.1) e.2)) (l := entries)
    fun _ _ _ _ => rfl
  rw [files, entryFiles_eq_map, ← hmap, List.flatMap_map]
  rfl

theorem pairwise_sorted (hnodup : (entries.map (·.1)).Nodup) : (sorted entries).Pairwise fun a b => a.1 < b.1 := by
  have hle : (sorted entries).Pairwise fun a b => decide (a.1 ≤ b.1) = true := by
    apply List.pairwise_mergeSort
    · simp only [decide_eq_true_iff]
      exact fun a b c => le_trans
    · simp only [Bool.or_eq_true, decide_eq_true_iff]
      exact fun a b => le_total a.1 b.1
  have hne : (sorted entries).Pairwise fun a b => a.1 ≠ b.1 :=
    List.pairwise_map.1 (((List.mergeSort_perm ..).map _).nodup_iff.2 hnodup)
  exact (hle.and hne).imp fun h => lt_of_le_of_ne (of_decide_eq_true h.1) h.2

/-- The files of a tree with the names that lead to them, in the order of these names. -/
structure Lists (tree : FileTree) (listing : List (List String × List UInt8)) : Prop where
  files_eq : ∀ path, files path tree = listing.map fun p => (place path p.1, p.2)
  ordered : (listing.map (·.1)).Pairwise Precedes
  mem_iff : ∀ names bytes, (names, bytes) ∈ listing ↔ tree.at? names.reverse = some (.file bytes)

theorem lists_file (bytes : List UInt8) : (file bytes).Lists [([], bytes)] where
  files_eq path := rfl
  ordered := List.pairwise_singleton ..
  mem_iff names other := by
    rw [at?_file_iff]
    simp

theorem WellFormed.exists_lists (h : tree.WellFormed) : ∃ listing, tree.Lists listing := by
  induction h with
  | file bytes => exact ⟨_, lists_file bytes⟩
  | folder entries hnames hnodup htrees ih =>
    choose! listingOf hlists using ih
    have hmem (e : String × FileTree) : e ∈ sorted entries ↔ e ∈ entries := List.mem_mergeSort
    refine ⟨(sorted entries).flatMap fun e => (listingOf e).map fun p => (e.1 :: p.1, p.2), ?_, ?_, ?_⟩
    · intro path
      rw [files_folder, List.map_flatMap]
      refine List.flatMap_congr fun e he => ?_
      rw [(hlists e ((hmem e).1 he)).files_eq, List.map_map]
      rfl
    · simp only [List.map_flatMap, List.map_map, Function.comp_def, List.pairwise_flatMap, List.pairwise_map]
      constructor
      · intro e he
        exact (List.pairwise_map.1 (hlists e ((hmem e).1 he)).ordered).imp fun h => precedes_cons_iff.2 (.inr ⟨rfl, h⟩)
      · refine (pairwise_sorted hnodup).imp fun hlt names hnames others hothers => ?_
        obtain ⟨p, -, rfl⟩ := List.mem_map.1 hnames
        obtain ⟨q, -, rfl⟩ := List.mem_map.1 hothers
        exact precedes_cons_iff.2 (.inl hlt)
    · intro names bytes
      rw [at?_folder_iff hnodup, List.mem_flatMap]
      simp only [hmem, List.mem_map]
      refine exists_congr fun e => and_congr_right fun he => ?_
      constructor
      · rintro ⟨p, hp, heq⟩
        cases heq
        exact ⟨p.1, rfl, ((hlists e he).mem_iff ..).1 hp⟩
      · rintro ⟨rest, rfl, hat⟩
        exact ⟨_, ((hlists e he).mem_iff rest bytes).2 hat, rfl⟩

end Retrieval.FileTree
