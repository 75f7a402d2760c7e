import Retrieval.Proofs.Index.Staleness
import Retrieval.Proofs.Service.Agreement
import Retrieval.Proofs.Service.Exchange
import Retrieval.Proofs.Tokenizer

/-!
# Champions of a term, by command and by request

The command gives up on a word that is no single term; the service looks such a word up as the empty term. Since no term
of an index is empty, neither finds a list then. Lists may be older than the postings, but the documents on them stay in
use, so that none is dropped from an answer.

* `Index.isSome_championsOf?_iff` : the terms with a list are those that occurred at the last rebuild;
* `Index.championsOf?_empty` : the empty term has no list;
* `Service.champions_of_list`, `Service.champions_of_no_list` : what a word is answered with;
* `Service.ListsLastRebuild`, `Service.listsLastRebuild` : which words are answered with a list, after any updates;
* `Service.champions_agree_with_command` : the command and the service list the same champions.
-/

namespace Retrieval

open CommandLine (Question IndexCommand IndexOptions ServeCommand Outcome addressOf? championLines)
open Service (Hit Fault Call)

theorem Tokenizer.term?_eq_some_iff {t : Tokenizer} {word name : String} :
    t.term? word = some name ↔ t.tokenize word = [name] := by
  unfold term?
  split
  · next h => simp [h]
  · next hnone =>
    exact ⟨nofun, fun h => absurd h (hnone name)⟩

/-! ## Terms with a list -/

namespace Index

theorem contains_empty (t : Tokenizer) (w : Weighting) (updates : List Update) :
    (history t w updates).store.contains "" = false := by
  refine eq_false_of_ne_true fun h => ?_
  rw [Store.contains, Std.TreeMap.contains_eq_isSome_getElem?] at h
  obtain ⟨doc, hpos⟩ := (counts_history t w updates "").isSome_iff.1 h
  cases htext : textOf? (history t w updates).vocabulary (latest updates) doc with
  | none =>
    rw [htext] at hpos
    cases hpos
  | some text =>
    rw [htext, occurrences, List.count_pos_iff] at hpos
    exact Tokenizer.ne_empty_of_mem_tokenize hpos rfl

/-- **The terms with a list are those that had postings at the last rebuild.** -/
theorem isSome_championsOf?_iff (t : Tokenizer) (w : Weighting) (updates : List Update) (term : String) :
    ((history t w updates).store.championsOf? term).isSome ↔
      ∃ before r since, updates = before ++ .champions r :: since ∧ OnlyCorpora since ∧
        (history t w before).store.contains term = true := by
  have hlast (before : List Update) (r : Nat) {since : List Update} (h : OnlyCorpora since) :
      ((history t w (before ++ .champions r :: since)).store.championsOf? term).isSome =
        (history t w before).store.contains term := by
    rw [Store.championsOf?, history_append_cons, champions_corpora _ h]
    exact Store.contains_freshChampions _ r term
  constructor
  · intro hsome
    rcases onlyCorpora_or_exists_rebuild updates with h | ⟨before, r, since, rfl, h⟩
    · have hnone : (history t w updates).store.championsOf? term = none := by
        rw [Store.championsOf?, history, champions_corpora _ h]
        rfl
      rw [hnone] at hsome
      cases hsome
    · exact ⟨before, r, since, rfl, h, hlast before r h ▸ hsome⟩
  · rintro ⟨before, r, since, rfl, h, hterm⟩
    rw [hlast before r h, hterm]

theorem championsOf?_empty (t : Tokenizer) (w : Weighting) (updates : List Update) :
    (history t w updates).store.championsOf? "" = none := by
  rw [← Option.not_isSome_iff_eq_none, isSome_championsOf?_iff]
  rintro ⟨before, r, since, -, -, hterm⟩
  rw [contains_empty] at hterm
  cases hterm

end Index

namespace Service

/-! ## Answers to a word -/

theorem champions_of_list {index : Index} {word name : String} {list : List DocId}
    (hname : index.tokenizer.tokenize word = [name]) (hlist : index.store.championsOf? name = some list) :
    champions index word = .ok (.champions name index.store.championsStale (hits index list)) := by
  rw [champions, Tokenizer.term?_eq_some_iff.2 hname]
  simp only [Option.getD_some, hlist]

theorem champions_of_no_list {index : Index} {word : String} (hempty : index.store.championsOf? "" = none)
    (hnone : ∀ name, index.tokenizer.tokenize word = [name] → index.store.championsOf? name = none) :
    champions index word = .error (.noChampions word) := by
  rw [champions]
  cases hname : index.tokenizer.term? word with
  | none => simp only [Option.getD_none, hempty]
  | some name => simp only [Option.getD_some, hnone name (Tokenizer.term?_eq_some_iff.1 hname)]

theorem names_list_or_not (index : Index) (word : String) :
    (∃ name list, index.tokenizer.tokenize word = [name] ∧ index.store.championsOf? name = some list) ∨
      ∀ name, index.tokenizer.tokenize word = [name] → index.store.championsOf? name = none := by
  by_cases h : ∃ name list, index.tokenizer.tokenize word = [name] ∧ index.store.championsOf? name = some list
  · exact .inl h
  · refine .inr fun name hname => Option.eq_none_iff_forall_ne_some.2 fun list hlist => h ⟨name, list, hname, hlist⟩

/-! ## The service -/

/-- A request for the champions of a word. -/
def AsksForChampions (q : Http.Request) (word : String) : Prop :=
  q.method = "GET" ∧ Call.ofRequest q = .ok (.champions word)

section Asked
variable {s : Service} {q : Http.Request} {word : String} (hasks : AsksForChampions q word)
include hasks

theorem answer_of_list {name : String} {list : List DocId} (hname : s.index.tokenizer.tokenize word = [name])
    (hlist : s.index.store.championsOf? name = some list) :
    (s.answer q).1.status = 200 ∧
      (s.answer q).1.body = some (.ok (.champions name s.index.store.championsStale (hits s.index list))) := by
  obtain ⟨hstatus, hbody⟩ := answer_of_call (s := s) hasks.1 hasks.2
  rw [hstatus, hbody, perform, champions_of_list hname hlist]
  exact ⟨rfl, rfl⟩

theorem answer_of_no_list (hempty : s.index.store.championsOf? "" = none)
    (hnone : ∀ name, s.index.tokenizer.tokenize word = [name] → s.index.store.championsOf? name = none) :
    (s.answer q).1.status = 404 ∧ (s.answer q).1.body = some (.error (.noChampions word)) := by
  obtain ⟨hstatus, hbody⟩ := answer_of_call (s := s) hasks.1 hasks.2
  rw [hstatus, hbody, perform, champions_of_no_list hempty hnone]
  exact ⟨rfl, rfl⟩

end Asked

/-- The documents on a list keep their places in an answer, also where the list is stale. -/
theorem docs_of_list {index : Index} (hbounded : index.Bounded) {name : String} {list : List DocId}
    (hlist : index.store.championsOf? name = some list) : (hits index list).map Hit.doc = list := by
  rw [hits_eq_map (hbounded.champions name list hlist), List.map_map]
  exact List.map_id _

theorem exists_history {s : Service} {t : Tokenizer} {w : Weighting} {started : List Index.Update}
    (hstarted : s.index = Index.history t w started) (requests : List Http.Request) : ∃ updates : List Index.Update,
    (((s.serve requests).1.filter Exchange.accepted).map fun x => change? x.request) = updates.map some ∧
      (s.serve requests).2.index = Index.history t w (started ++ updates) := by
  obtain ⟨updates, hchanges, hlast⟩ := exists_updates s requests
  refine ⟨updates, hchanges, ?_⟩
  rw [hlast, hstarted, Index.history, Index.history, List.foldl_append]

/-- A service of an index with a history answers a request for the champions of a word with status 200 just if the word
names one term that had postings at the last rebuild, and then with the list of that time, no document of it dropped. It
answers with status 404 otherwise. -/
structure ListsLastRebuild (s : Service) (t : Tokenizer) (w : Weighting) (updates : List Index.Update) (word : String)
    (q : Http.Request) : Prop where
  status_iff : (s.answer q).1.status = 200 ↔ ∃ name before r since, t.tokenize word = [name] ∧
    updates = before ++ .champions r :: since ∧ Index.OnlyCorpora since ∧
    (Index.history t w before).store.contains name = true
  listed : (s.answer q).1.status = 200 → ∃ name listed, t.tokenize word = [name] ∧
    s.index.store.championsOf? name = some (listed.map Hit.doc) ∧
    (∀ hit ∈ listed, s.index.vocabulary.url? hit.doc = some hit.url) ∧
    (s.answer q).1.body = some (.ok (.champions name s.index.store.championsStale listed))
  failed : (s.answer q).1.status ≠ 200 →
    (s.answer q).1.status = 404 ∧ (s.answer q).1.body = some (.error (.noChampions word))

theorem listsLastRebuild {s : Service} {t : Tokenizer} {w : Weighting} {updates : List Index.Update}
    (hindex : s.index = Index.history t w updates) {q : Http.Request} {word : String}
    (hasks : AsksForChampions q word) :
    s.ListsLastRebuild t w updates word q := by
  have htokenizer : s.index.tokenizer = t := by rw [hindex, Index.tokenizer_history]
  have hempty : s.index.store.championsOf? "" = none := by rw [hindex, Index.championsOf?_empty]
  have hbounded : s.index.Bounded := hindex ▸ Index.bounded_history t w updates
  have hterms (name : String) : (s.index.store.championsOf? name).isSome ↔
      ∃ before r since, updates = before ++ .champions r :: since ∧ Index.OnlyCorpora since ∧
        (Index.history t w before).store.contains name = true := by
    rw [hindex, Index.isSome_championsOf?_iff]
  rcases names_list_or_not s.index word with ⟨name, list, hname, hlist⟩ | hnone
  · obtain ⟨hstatus, hbody⟩ := answer_of_list hasks hname hlist
    rw [htokenizer] at hname
    obtain ⟨before, r, since, hlast⟩ := (hterms name).1 (by rw [hlist]; rfl)
    refine ⟨iff_of_true hstatus ⟨name, before, r, since, hname, hlast⟩, fun _ => ?_, fun h => absurd hstatus h⟩
    refine ⟨name, hits s.index list, hname, ?_, fun _ => url?_of_mem_hits, hbody⟩
    rw [hlist, docs_of_list hbounded hlist]
  · obtain ⟨hstatus, hbody⟩ := answer_of_no_list hasks hempty hnone
    have hfails : (s.answer q).1.status ≠ 200 := by
      rw [hstatus]
      decide
    refine ⟨iff_of_false hfails ?_, fun h => absurd h hfails, fun _ => ⟨hstatus, hbody⟩⟩
    rintro ⟨name, before, r, since, hname, hlast⟩
    have hsome := (hterms name).2 ⟨before, r, since, hlast⟩
    rw [hnone name (htokenizer ▸ hname)] at hsome
    cases hsome

/-! ## The command -/

section Printed
variable {index : Index} {word : String} {r : Nat}

/-- The command prints the list of a word that names a term with one, a line for each document. -/
theorem championLines_of_list (hbounded : (index.updateChampions r).Bounded) {name : String} {list : List DocId}
    (hname : index.tokenizer.tokenize word = [name])
    (hlist : (index.updateChampions r).store.championsOf? name = some list) :
    championLines index word r = .ok ((hits (index.updateChampions r) list).map fun hit => toString hit.doc ++ "\t" ++
      Decimal.fixed 4 (index.store.weight name hit.doc) ++ "\t" ++ hit.url) := by
  have hterm : (index.updateChampions r).tokenizer.term? word = some name := Tokenizer.term?_eq_some_iff.2 hname
  rw [championLines]
  simp only [hterm, hlist]
  rw [hits_eq_map (hbounded.champions name list hlist), List.map_map]
  rfl

theorem championLines_of_no_list
    (hnone : ∀ name, index.tokenizer.tokenize word = [name] →
      (index.updateChampions r).store.championsOf? name = none) :
    ∃ message, championLines index word r = .error message := by
  rw [championLines]
  cases hterm : (index.updateChampions r).tokenizer.term? word with
  | none => exact ⟨_, rfl⟩
  | some name =>
    simp only [hnone name (Tokenizer.term?_eq_some_iff.1 hterm)]
    exact ⟨_, rfl⟩

end Printed

/-! ## Agreement -/

/-- **The command line and the service agree on champions.** The command builds an index of a corpus and champion lists
for some number of champions; a service that is started on the same corpus with the same tokenizer, weighting and number
has this index with these lists. Either
* the command fails, and every service of such an index answers with status 404; or
* the word names one term, and every such service answers with status 200 and lists the documents that the command
  prints, in the same order, all of them and each with its address.

And after any requests to a service whose index has a history, words are answered with the lists of the last rebuild. -/
theorem champions_agree_with_command (o : IndexOptions) (documents : List Document) (word : String) (r : Nat) :
    let index := o.emptyIndex.indexCorpus (documents.map Document.pair)
    let printed := (Question.champions word r).answer index
    (∀ files, Corpus.load files o.input = .ok documents →
      IndexCommand.run files ⟨o, .champions word r⟩ = printed ∧
      ∀ settings (c : ServeCommand) listener, c.corpus = some o.input → c.additive = o.additive →
        c.tokenizer = o.tokenizer → c.champions = some r → c.run settings files = .done listener →
        listener.service.index = index.updateChampions r) ∧
    ((∃ message, printed = .failed message none ∧
        ∀ s : Service, s.index = index.updateChampions r → ∀ q, AsksForChampions q word →
          (s.answer q).1.status = 404 ∧ (s.answer q).1.body = some (.error (.noChampions word))) ∨
      ∃ name listed, o.tokenizer.tokenize word = [name] ∧
        (index.updateChampions r).store.championsOf? name = some (listed.map Hit.doc) ∧
        (∀ hit ∈ listed, index.vocabulary.url? hit.doc = some hit.url) ∧
        printed = .done (.text (listed.map fun hit => toString hit.doc ++ "\t" ++
          Decimal.fixed 4 (index.store.weight name hit.doc) ++ "\t" ++ hit.url)) ∧
        ∀ s : Service, s.index = index.updateChampions r → ∀ q, AsksForChampions q word →
          (s.answer q).1.status = 200 ∧ (s.answer q).1.body = some (.ok (.champions name false listed))) ∧
    ∀ (s : Service) t w started, s.index = Index.history t w started → ∀ requests, ∃ updates : List Index.Update,
      (((s.serve requests).1.filter Exchange.accepted).map fun x => change? x.request) = updates.map some ∧
      ∀ q, AsksForChampions q word → (s.serve requests).2.ListsLastRebuild t w (started ++ updates) word q := by
  intro index printed
  have hhistory : index.updateChampions r = Index.history o.tokenizer (if o.additive then .sum else .product)
      [.corpus (documents.map Document.pair), .champions r] := rfl
  have hbounded : (index.updateChampions r).Bounded := hhistory ▸ Index.bounded_history _ _ _
  have hempty : (index.updateChampions r).store.championsOf? "" = none := by
    rw [hhistory, Index.championsOf?_empty]
  refine ⟨fun files hload => ⟨?_, ?_⟩, ?_, ?_⟩
  · rw [IndexCommand.run]
    simp only [hload]
    rfl
  · intro settings c listener hcorpus hadditive htokenizer hchampions hrun
    rw [index_of_run hload hcorpus hadditive htokenizer hrun, hchampions]
    rfl
  · rcases names_list_or_not (index.updateChampions r) word with ⟨name, list, hname, hlist⟩ | hnone
    · refine .inr ⟨name, hits (index.updateChampions r) list, hname, ?_, fun _ => url?_of_mem_hits, ?_, ?_⟩
      · rw [hlist, docs_of_list hbounded hlist]
      · change Question.answer index _ = _
        rw [Question.answer, championLines_of_list hbounded hname hlist]
      · intro s hs q hq
        have hanswer := answer_of_list (s := s) hq (by rw [hs]; exact hname) (by rw [hs]; exact hlist)
        rw [hs] at hanswer
        exact hanswer
    · obtain ⟨message, hlines⟩ : ∃ message, championLines index word r = .error message :=
        championLines_of_no_list hnone
      refine .inl ⟨message, ?_, ?_⟩
      · change Question.answer index _ = _
        rw [Question.answer, hlines]
      · intro s hs q hq
        exact answer_of_no_list hq (by rw [hs]; exact hempty) (by rw [hs]; exact hnone)
  · intro s t w started hstarted requests
    obtain ⟨updates, hchanges, hlast⟩ := exists_history hstarted requests
    exact ⟨updates, hchanges, fun q hq => listsLastRebuild hlast hq⟩

/-- A request for the champions of a word that has to be brought into lower case. -/
def exampleAsk : Http.Request := { method := "GET", target := "/champions/A" }

theorem asksForChampions_exampleAsk : AsksForChampions exampleAsk "A" := ⟨rfl, by cbv⟩

def exampleFolder : IndexOptions := ⟨".", false, {}⟩

/-- A service that is started on the folder, with champion lists. -/
def exampleServe : ServeCommand := ⟨some ".", "0.0.0.0", 80, false, {}, some 1⟩

theorem load_empty : Corpus.load (.folder []) "." = .ok [] := by
  have hsteps : FileTree.steps "." = ["."] := by cbv
  have hrelative : ¬ ("." = "" ∨ ".".startsWith "/" = true) := by decide +kernel
  have hfind : (FileTree.folder []).find? "." = some (.folder []) := by
    rw [FileTree.find?, if_neg hrelative, hsteps]
    rfl
  rw [Corpus.load, hfind]
  simp only [FileTree.files, FileTree.entryFiles, List.mergeSort_nil, List.flatMap_nil, List.mapM_nil]
  rfl

theorem exists_listener : ∃ listener, exampleServe.run {} (.folder []) = .done listener := by
  have hindex : exampleServe.index (.folder []) =
      .ok ((exampleFolder.emptyIndex.indexCorpus []).updateChampions 1) := by
    simp only [ServeCommand.index, exampleServe, load_empty]
    rfl
  obtain ⟨address, haddress⟩ : ∃ address, addressOf? exampleServe.host = some address := ⟨_, by cbv⟩
  rw [ServeCommand.run, hindex]
  simp only [haddress]
  exact ⟨_, rfl⟩

/-- The command prints the one champion of a word, a service lists it, and so does a service whose lists were rebuilt by
request. On a folder without files, both have an empty index. -/
theorem champions_agree_with_command_single :
    let index := exampleFile.emptyIndex.indexCorpus [("u", "b"), ("v", "a b")]
    let later := ((exampleService (some "secret")).serve [exampleRebuild [("X-Admin-Token", "secret")]]).2
    AsksForChampions exampleAsk "A" ∧
    (Question.champions "A" 1).answer index =
      .done (.text [toString 1 ++ "\t" ++ Decimal.fixed 4 (index.store.weight "a" 1) ++ "\t" ++ "v"]) ∧
    (Service.answer { index := index.updateChampions 1 } exampleAsk).1.status = 200 ∧
    (Service.answer { index := index.updateChampions 1 } exampleAsk).1.body =
      some (.ok (.champions "a" false [⟨1, "v"⟩])) ∧
    (later.answer exampleAsk).1.status = 200 ∧
    Corpus.load (.folder []) "." = .ok [] ∧
    IndexCommand.run (.folder []) ⟨exampleFolder, .champions "A" 1⟩ =
      (Question.champions "A" 1).answer (exampleFolder.emptyIndex.indexCorpus []) ∧
    ∃ listener, exampleServe.run {} (.folder []) = .done listener ∧
      listener.service.index = (exampleFolder.emptyIndex.indexCorpus []).updateChampions 1 := by
  intro index later
  have hlist : (index.updateChampions 1).store.championsOf? "a" = some [1] := by decide +kernel
  have hname : ({} : Tokenizer).tokenize "A" = ["a"] := by decide +kernel
  have hurl : index.vocabulary.url? 1 = some "v" := by decide +kernel
  obtain ⟨-, hanswers, hserve⟩ := champions_agree_with_command exampleFile [⟨"u", "b"⟩, ⟨"v", "a b"⟩] "A" 1
  obtain ⟨hcommands, -, -⟩ := champions_agree_with_command exampleFolder [] "A" 1
  obtain ⟨hrun, hstarted⟩ := hcommands (.folder []) load_empty
  obtain ⟨listener, hlistener⟩ := exists_listener
  have hlater : (later.answer exampleAsk).1.status = 200 := by
    obtain ⟨updates, hchanges, hlast⟩ := hserve (exampleService (some "secret")) {} .product [.corpus [("u", "a")]] rfl
      [exampleRebuild [("X-Admin-Token", "secret")]]
    have haccepted : (((exampleService (some "secret")).serve
        [exampleRebuild [("X-Admin-Token", "secret")]]).1.filter Exchange.accepted).map (fun x => change? x.request) =
          [some (.champions 20)] := by decide +kernel
    obtain ⟨u, rfl, hu⟩ := List.map_eq_singleton_iff.1 (hchanges.symm.trans haccepted)
    cases hu
    have hterm : (Index.history {} .product [.corpus [("u", "a")]]).store.contains "a" = true := by decide +kernel
    exact (hlast exampleAsk asksForChampions_exampleAsk).status_iff.2
      ⟨"a", [.corpus [("u", "a")]], 20, [], hname, rfl, nofun, hterm⟩
  have hfolder := hstarted {} exampleServe listener rfl rfl rfl rfl hlistener
  refine ⟨asksForChampions_exampleAsk, ?_⟩
  rcases hanswers with ⟨message, -, hfails⟩ | ⟨name, listed, hterm, hlisted, hurls, hprinted, hanswer⟩
  · -- the word names a term with a list
    have hfound := answer_of_list (s := { index := index.updateChampions 1 }) asksForChampions_exampleAsk hname hlist
    have hmissing := hfails { index := index.updateChampions 1 } rfl exampleAsk asksForChampions_exampleAsk
    exact absurd (hfound.1.symm.trans hmissing.1) (by decide)
  · obtain rfl : "a" = name := (List.cons.inj (hname.symm.trans hterm)).1
    obtain ⟨⟨doc, url⟩, rfl, hdoc⟩ := List.map_eq_singleton_iff.1 (Option.some.inj (hlisted.symm.trans hlist))
    cases hdoc
    cases hurl.symm.trans (hurls _ List.mem_cons_self)
    obtain ⟨hstatus, hbody⟩ := hanswer { index := index.updateChampions 1 } rfl exampleAsk asksForChampions_exampleAsk
    exact ⟨hprinted, hstatus, hbody, hlater, load_empty, hrun, listener, hlistener, hfolder⟩

end Service

end Retrieval
