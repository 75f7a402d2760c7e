import Mathlib
import Retrieval.CommandLine.ServeCommand
import Retrieval.Proofs.Query.Scan

/-!
# The command line and the service give the same answers

A query is answered by an index alone, so that the lines of the command and the results of the service differ only in
how many are shown. That none is dropped, and none is printed without its address, is because all documents that match
are in use.

* `Index.evaluate_updateChampions` : champion lists do not matter to queries;
* `Index.Reflects.lt_size_of_mem_evaluate` : documents that match are in use;
* `Service.hits_eq_map` : documents in use keep their places among the results;
* `Service.Serves` : a service of an index, with champion lists or without;
* `Service.index_of_run`, `Service.serves_of_run` : what the two commands on one corpus have in common;
* `Service.search_agrees_with_command` : both answer a query alike.
-/

namespace Retrieval

open CommandLine (Question IndexCommand IndexOptions ServeCommand Listener queryLines urlText)

/-! ## Matching documents -/

namespace Index

theorem lookup_updateChampions (index : Index) (r : Nat) (word : String) :
    (index.updateChampions r).lookup word = index.lookup word := by
  ext doc
  rw [mem_lookup_iff, mem_lookup_iff]
  rfl

theorem evaluate_updateChampions (index : Index) (r : Nat) (query : String) :
    (index.updateChampions r).evaluate query = index.evaluate query := by
  have heval (f : Query.Formula) : f.eval (index.updateChampions r) = f.eval index := by
    induction f with
    | word text => exact lookup_updateChampions index r text
    | and left right ihleft ihright => rw [Query.Formula.eval, ihleft, ihright, Query.Formula.eval]
    | or left right ihleft ihright => rw [Query.Formula.eval, ihleft, ihright, Query.Formula.eval]
    | not inner ih =>
      rw [Query.Formula.eval, ih, Query.Formula.eval]
      rfl
  rw [evaluate, evaluate, funext heval]

theorem Reflects.lt_size_of_mem_evaluate {index : Index} {corpus : List (String × String)} (h : index.Reflects corpus)
    {query : String} {found : DocSet} (heval : index.evaluate query = .ok found) {doc : DocId} (hdoc : doc ∈ found) :
    doc < index.vocabulary.size := by
  obtain ⟨e, -, -, rfl⟩ := evaluate_eq_ok_iff_exists.1 heval
  exact ((h.mem_read_iff e doc).1 hdoc).1

end Index

namespace Service

/-! ## Results -/

theorem hits_eq_map {index : Index} {docs : List DocId} (h : ∀ doc ∈ docs, doc < index.vocabulary.size) :
    hits index docs = docs.map fun doc => ⟨doc, urlText index doc⟩ := by
  rw [hits, ← List.filterMap_eq_map]
  refine List.filterMap_congr fun doc hdoc => ?_
  obtain ⟨url, hurl⟩ := Option.isSome_iff_exists.1 (Vocabulary.isSome_url?_iff.2 (h doc hdoc))
  rw [Function.comp_apply, urlText, hurl]
  rfl

section Found
variable {index : Index} {query : String} {found : DocSet}

theorem url?_of_mem_hits {docs : List DocId} {hit : Hit} (h : hit ∈ hits index docs) :
    index.vocabulary.url? hit.doc = some hit.url := by
  obtain ⟨doc, -, hhit⟩ := List.mem_filterMap.1 h
  obtain ⟨url, hurl, rfl⟩ := Option.map_eq_some_iff.1 hhit
  exact hurl

variable (heval : index.evaluate query = .ok found) (hused : ∀ doc ∈ found.ids, doc < index.vocabulary.size)
include heval hused

theorem queryLines_eq : queryLines index query =
    .ok ((hits index found.ids).map fun hit => toString hit.doc ++ "\t" ++ hit.url) := by
  rw [queryLines, heval, hits_eq_map hused, List.map_map]
  rfl

theorem search_eq (k : Nat) : search index query k = .ok (.matching query (hits index found.ids).length
    ((hits index found.ids).take (min (hits index found.ids).length (max 1 (min k 1000))))) := by
  have hshown : hits index (found.ids.take (shown k)) = (hits index found.ids).take (shown k) := by
    rw [hits_eq_map hused, hits_eq_map fun doc hdoc => hused doc (List.mem_of_mem_take hdoc), List.map_take]
  have hlength : (hits index found.ids).length = found.ids.length := by
    rw [hits_eq_map hused, List.length_map]
  have hmin : (hits index found.ids).take (min (hits index found.ids).length (max 1 (min k 1000))) =
      (hits index found.ids).take (shown k) := by
    rw [List.take_eq_take_iff, shown, maxResults]
    omega
  rw [search, heval, hmin, ← hshown, hlength]

end Found

theorem answer_of_call {s : Service} {r : Http.Request} {call : Call} (hget : r.method = "GET")
    (hcall : Call.ofRequest r = .ok call) :
    (s.answer r).1.status = statusOf (perform s.adminToken s.index call).1 ∧
      (s.answer r).1.body = some (perform s.adminToken s.index call).1 := by
  have hhandle : s.handle r = perform s.adminToken s.index call := by
    rw [handle, hcall]
  have hoptions : ¬ r.method = "OPTIONS" := by
    rw [hget]
    decide
  have hhead : ¬ r.method = "HEAD" := by
    rw [hget]
    decide
  rw [answer, if_neg hoptions, hhandle]
  dsimp only
  rw [if_neg hhead]
  exact ⟨rfl, rfl⟩

/-! ## Services of an index -/

/-- A service of an index, whose champion lists may have been rebuilt. -/
def Serves (s : Service) (index : Index) : Prop := s.index = index ∨ ∃ r, s.index = index.updateChampions r

theorem Serves.search_eq {s : Service} {index : Index} (h : s.Serves index) (query : String) (k : Nat) :
    search s.index query k = search index query k := by
  rcases h with h | ⟨r, h⟩
  · rw [h]
  · rw [h, search, search, Index.evaluate_updateChampions]
    rfl

theorem index_of_start {index : Index} {settings : Settings} {s : Service} (h : start index settings = .ok s) :
    s.index = index := by
  unfold start at h
  cases horigins : OriginRule.ofSetting settings.origins with
  | error e =>
    rw [horigins] at h
    cases h
  | ok origins =>
    rw [horigins] at h
    cases h
    rfl

section Run
variable {files : FileTree} {o : IndexOptions} {documents : List Document} {settings : Settings} {c : ServeCommand}
  {listener : Listener} (hload : Corpus.load files o.input = .ok documents) (hcorpus : c.corpus = some o.input)
  (hadditive : c.additive = o.additive) (htokenizer : c.tokenizer = o.tokenizer)
  (hrun : c.run settings files = .done listener)
include hload hcorpus hadditive htokenizer hrun

/-- A service that is started on a corpus has the index that the other command builds of it, with champion lists if the
command asks for them. -/
theorem index_of_run : listener.service.index =
    c.champions.elim (o.emptyIndex.indexCorpus (documents.map Document.pair))
      (o.emptyIndex.indexCorpus (documents.map Document.pair)).updateChampions := by
  have hindex : c.index files = .ok (c.champions.elim (o.emptyIndex.indexCorpus (documents.map Document.pair))
      (o.emptyIndex.indexCorpus (documents.map Document.pair)).updateChampions) := by
    rw [ServeCommand.index, hcorpus, hadditive, htokenizer]
    simp only [hload]
    cases c.champions <;> rfl
  rw [ServeCommand.run, hindex] at hrun
  dsimp only at hrun
  split at hrun
  · cases hrun
  · next service hstart =>
    split at hrun
    · cases hrun
      exact index_of_start hstart
    · cases hrun

theorem serves_of_run : listener.service.Serves (o.emptyIndex.indexCorpus (documents.map Document.pair)) := by
  have hindex := index_of_run hload hcorpus hadditive htokenizer hrun
  cases hchampions : c.champions with
  | none => exact .inl (by rw [hindex, hchampions]; rfl)
  | some r => exact .inr ⟨r, by rw [hindex, hchampions]; rfl⟩

end Run

/-! ## Agreement -/

/-- **The command line and the service answer a query alike.** The command builds an index of a corpus and asks it; a
service that is started on the same corpus, with the same tokenizer and weighting, is one of that index. Either
* the command fails, and every such service answers with status 400, and the text of the failure is the cause that the
  command names; or
* the command prints the documents that match, all of them and in the order of their ids, each with its address, and
  every such service counts the same documents and shows the first of them, as many as were asked for between 1 and
  1000. -/
theorem search_agrees_with_command (o : IndexOptions) (documents : List Document) (query : String) :
    let index := o.emptyIndex.indexCorpus (documents.map Document.pair)
    let printed := (Question.query query).answer index
    let searches (r : Http.Request) (k : Nat) := r.method = "GET" ∧ Call.ofRequest r = .ok (.search query k)
    (∀ files, Corpus.load files o.input = .ok documents →
      IndexCommand.run files ⟨o, .query query⟩ = printed ∧
      ∀ settings (c : ServeCommand) listener, c.corpus = some o.input → c.additive = o.additive →
        c.tokenizer = o.tokenizer → c.run settings files = .done listener → listener.service.Serves index) ∧
    ((∃ e : Query.QueryError, printed = .failed ("query " ++ Text.quote query) (some e.message) ∧
        (Fault.badQuery e).message? = some e.message ∧
        ∀ s : Service, s.Serves index → ∀ r k, searches r k →
          (s.answer r).1.status = 400 ∧ (s.answer r).1.body = some (.error (.badQuery e))) ∨
      ∃ (found : DocSet) (listed : List Hit), index.evaluate query = .ok found ∧
        listed.map (·.doc) = found.ids ∧ found.ids.Pairwise (· < ·) ∧
        (∀ hit ∈ listed, index.vocabulary.url? hit.doc = some hit.url) ∧
        printed = .done (.text (listed.map fun hit => toString hit.doc ++ "\t" ++ hit.url)) ∧
        ∀ s : Service, s.Serves index → ∀ r k, searches r k →
          (s.answer r).1.status = 200 ∧
          (s.answer r).1.body = some (.ok (.matching query listed.length
            (listed.take (min listed.length (max 1 (min k 1000))))))) := by
  intro index printed searches
  constructor
  · intro files hload
    constructor
    · rw [IndexCommand.run]
      simp only [hload]
      rfl
    · intro settings c listener hcorpus hadditive htokenizer hrun
      exact serves_of_run hload hcorpus hadditive htokenizer hrun
  · cases heval : index.evaluate query with
    | error e =>
      refine .inl ⟨e, ?_, rfl, ?_⟩
      · change Question.answer index _ = _
        simp only [Question.answer, queryLines, heval, Except.map]
      · intro s hs r k hr
        obtain ⟨hstatus, hbody⟩ := answer_of_call (s := s) hr.1 hr.2
        have hsearch : search s.index query k = .error (.badQuery e) := by
          rw [hs.search_eq, search, heval]
        rw [hstatus, hbody, perform, hsearch]
        exact ⟨rfl, rfl⟩
    | ok found =>
      have hused : ∀ doc ∈ found.ids, doc < index.vocabulary.size := fun doc hdoc =>
        (Index.reflects_indexCorpus _ _).lt_size_of_mem_evaluate heval hdoc
      have hlisted : (hits index found.ids).map (·.doc) = found.ids := by
        rw [hits_eq_map hused, List.map_map]
        exact List.map_id _
      refine .inr ⟨found, hits index found.ids, rfl, hlisted, found.ascending, fun hit => url?_of_mem_hits, ?_, ?_⟩
      · change Question.answer index _ = _
        rw [Question.answer, queryLines_eq heval hused]
      · intro s hs r k hr
        obtain ⟨hstatus, hbody⟩ := answer_of_call (s := s) hr.1 hr.2
        rw [hstatus, hbody, perform, hs.search_eq, search_eq heval hused]
        exact ⟨rfl, rfl⟩

/-- Settings of an index of a file with two documents. -/
def exampleFile : IndexOptions := ⟨"pair.jsonl", false, {}⟩

def exampleSearch : Http.Request := { method := "GET", target := "/search?q=NOT+a" }

theorem ofRequest_exampleSearch : Call.ofRequest exampleSearch = .ok (.search "NOT a" 10) := by
  have hsteps : exampleSearch.steps = ["", "search"] := by cbv
  have hparameters : exampleSearch.parameters = [("q", "NOT a")] := by cbv
  rw [Call.ofRequest, hsteps]
  simp only [Route.ofSteps?, Call.ofRoute, hparameters]
  rfl

/-- The document that a negation brings is printed and shown with its address. -/
theorem search_agrees_with_command_negation :
    let index := exampleFile.emptyIndex.indexCorpus [("u", "a"), ("v", "b")]
    (Question.query "NOT a").answer index = .done (.text ["1\tv"]) ∧
    exampleSearch.method = "GET" ∧ Call.ofRequest exampleSearch = .ok (.search "NOT a" 10) ∧
    (Service.answer { index } exampleSearch).1.status = 200 ∧
    (Service.answer { index } exampleSearch).1.body = some (.ok (.matching "NOT a" 1 [⟨1, "v"⟩])) := by
  intro index
  have hparse : Query.Formula.parse "NOT a" = .ok (.not (.word "a")) := by cbv
  have hids : ((Query.Formula.not (.word "a")).eval index).ids = [1] := by decide +kernel
  have hurl : index.vocabulary.url? 1 = some "v" := by decide +kernel
  have hparsed : index.evaluate "NOT a" = .ok ((Query.Formula.not (.word "a")).eval index) := by
    rw [Index.evaluate, hparse]
    rfl
  obtain ⟨-, ⟨e, hprinted, -, -⟩ | ⟨found, listed, heval, hlisted, -, hurls, hprinted, hanswer⟩⟩ :=
    search_agrees_with_command exampleFile [⟨"u", "a"⟩, ⟨"v", "b"⟩] "NOT a"
  · change Question.answer index _ = _ at hprinted
    simp only [Question.answer, queryLines, hparsed, Except.map] at hprinted
    cases hprinted
  · cases hparsed.symm.trans heval
    rw [hids] at hlisted
    obtain ⟨⟨doc, url⟩, rfl, hdoc⟩ := List.map_eq_singleton_iff.1 hlisted
    cases hdoc
    cases hurl.symm.trans (hurls _ List.mem_cons_self)
    obtain ⟨hstatus, hbody⟩ := hanswer { index } (.inl rfl) exampleSearch 10 ⟨rfl, ofRequest_exampleSearch⟩
    exact ⟨hprinted, rfl, ofRequest_exampleSearch, hstatus, hbody⟩

end Service

end Retrieval
