import RetrievalKit.Proofs.Clients.Worlds
import RetrievalKit.Proofs.Cohere.Ranking
import RetrievalKit.Proofs.Json.Dict
import RetrievalKit.Proofs.Retrieval.Search
import RetrievalKit.Proofs.Wire.Journal

/-!
# Retrieving and reranking

A retriever whose documents a reranker puts in order.  The reranker names documents by their place
in its request; no document comes from anywhere but the database, and only its score is new.

* `Reranked` — what the exchange with a reranker makes of documents;
* `Retriever.run_journaling` — what a retriever finds are rows of the database;
* `Retriever.compressed_journaling` — when a reranker behind a retriever is asked, and for what;
* `Retriever.provenance_compressed` — so all documents that the two find together are.
-/

namespace RetrievalKit

open Surreal (Session Store)
open Cohere (Reranker)

/-! ## Reranked documents -/

/-- What a reranker answers when it has sent documents: those that the results of the reply name by
their place, in the order of the results. -/
structure Reranked (documents : List Document) (x : Exchange)
    (outcome : Except Error (List Document)) : Prop where
  named : ∀ ranked, outcome = .ok ranked → ∃ reply results, x.outcome = .ok reply ∧
    reply.body.get? "results" = some (.arr results) ∧ ranked.length = results.length ∧
    ∀ (i : Nat) (result : Json) (d : Document), results[i]? = some result → ranked[i]? = some d →
      ∃ n base, (result.field "index").asNat? = some n ∧ documents[n]? = some base ∧
        Rescored base d
  /-- It does answer if the reply is no failure and its results name documents. -/
  complete : ∀ reply results, x.outcome = .ok reply → reply.status < 400 →
    reply.body.get? "results" = some (.arr results) →
    (∀ result ∈ results, ∃ n, (result.field "index").asNat? = some n ∧ n < documents.length) →
    ∃ ranked, outcome = .ok ranked

/-- Every document of the answer is one of those sent. -/
theorem Reranked.exists_of_mem {documents : List Document} {x : Exchange}
    {outcome : Except Error (List Document)} (h : Reranked documents x outcome)
    {ranked : List Document} (hranked : outcome = .ok ranked) {d : Document} (hd : d ∈ ranked) :
    ∃ base ∈ documents, Rescored base d := by
  obtain ⟨reply, results, -, -, hlength, hnamed⟩ := h.named ranked hranked
  obtain ⟨i, hlt, rfl⟩ := List.mem_iff_getElem.mp hd
  have hlt' : i < results.length := hlength ▸ hlt
  obtain ⟨n, base, -, hbase, hrescored⟩ :=
    hnamed i _ _ (List.getElem?_eq_getElem hlt') (List.getElem?_eq_getElem hlt)
  exact ⟨base, List.mem_of_getElem? hbase, hrescored⟩

namespace Cohere.Reranker

variable {σ : Type} {documents : List Document}

/-- What a reply names is what its exchange makes of the documents. -/
theorem reranked_ranked (request : Request) (outcome : Except Error Reply) :
    Reranked documents ⟨request, outcome⟩
      ((outcome >>= ranked documents).map (List.map (·.1))) where
  named found hfound := by
    obtain ⟨hits, hhits, rfl⟩ := map_eq_ok hfound
    obtain ⟨reply, hreply, hranked⟩ := bind_eq_ok hhits
    obtain ⟨u, hcheck, hresults⟩ := bind_eq_ok hranked
    split at hresults
    · rename_i results hitems
      obtain ⟨hlength, hone⟩ := mapM_eq_ok hresults
      refine ⟨reply, results, hreply, Json.asArray?_field_eq_some_iff.mp hitems,
        by rw [List.length_map, hlength], fun i result d hi hd => ?_⟩
      obtain ⟨hit, hhit, rfl⟩ := Option.map_eq_some_iff.mp ((List.getElem?_map ..).symm.trans hd)
      obtain ⟨n, base, hindex, hbase, hrescored⟩ :=
        (rankedOne_eq_ok (hone i result hit hi hhit)).named
      exact ⟨n, base, Json.asNat?_field_eq_some_iff.mpr hindex, hbase, hrescored⟩
    · cases hresults
  complete reply results hreply hstatus hresults hnamed := by
    have hreply' : outcome = .ok reply := hreply
    have hnames : ∀ result ∈ results, Names documents.length result := fun result hresult => by
      obtain ⟨n, hindex, hlt⟩ := hnamed result hresult
      exact names_iff.mpr ⟨n, documents[n], hindex, List.getElem?_eq_getElem hlt⟩
    obtain ⟨hits, hranked⟩ := (exists_ranked_eq_ok_iff hstatus).mpr ⟨results, hresults, hnames⟩
    exact ⟨hits.map (·.1), by rw [hreply']; simp [bind, Except.bind, Except.map, hranked]⟩

/-- The contents of the documents are the documents of the request, in order. -/
theorem documents_requestOf (c : RerankConfig) (query : String) (documents : List Document)
    (topN : Option Nat) :
    (requestOf c query documents topN).body.get? "documents" =
      some (.arr (documents.map fun d => .str d.content)) := by
  have hmap : Json.ofStrings (documents.map (·.content)) =
      .arr (documents.map fun d => .str d.content) := by
    simp [Json.ofStrings, Function.comp_def]
  rw [← hmap]
  refine Dict.get?_ofList_of_mem ?_ (by simp)
  cases topN <;> simp [Json.entryIfSome]

end Cohere.Reranker

/-! ## Retrieved documents -/

/-- The exchange gave the document: its reply has a row for it. -/
def Exchange.Gives (x : Exchange) (d : Document) : Prop :=
  ∃ reply results row, x.outcome = .ok reply ∧ Surreal.statementResults reply = .ok results ∧
    row ∈ Store.rowsOf results ∧ d = Store.documentOfRow row

section Journals

variable {σ ι : Type}

/-- The store with a journal of its exchanges. -/
def Surreal.Store.journaling (s : Store σ) (name : ι) : Store (Journal (ι × Exchange) σ) :=
  ⟨s.config, s.valid, s.backend.journaling name⟩

/-- The reranker with a journal of its exchanges. -/
def Cohere.Reranker.journaling (r : Reranker σ) (name : ι) : Reranker (Journal (ι × Exchange) σ) :=
  ⟨r.config, r.backend.journaling name⟩

/-- The reranker inside a session. -/
def Cohere.Reranker.inSession (r : Reranker σ) : Reranker (Session σ) :=
  ⟨r.config, r.backend.inSession⟩

namespace Retriever

/-- A document that is kept is that of a hit. -/
theorem exists_of_mem_kept {higherIsCloser : Bool} {threshold : Option Single}
    {hits : List Scored} {d : Document} (h : d ∈ kept higherIsCloser threshold hits) :
    ∃ hit ∈ hits, hit.1 = d := by
  cases threshold with
  | none => exact List.mem_map.mp h
  | some t =>
    obtain ⟨hit, hhit, hd⟩ := List.mem_map.mp h
    exact ⟨hit, (List.mem_filter.mp hhit).1, hd⟩

/-- **What a retriever finds are rows of the database**, which it asks once at most. -/
theorem run_journaling (s : Store σ) (e : Embedder σ) (standard : Nat)
    (threshold : Option Single) (query : String) (wanted : Nat) (name : ι)
    (w : Session (Journal (ι × Exchange) σ)) :
    let r := ((ofStore (s.journaling name).toVectorStore e.unnoted.inSession standard
      threshold).retrieve query wanted).run w
    ∃ asked : List Exchange, r.2.world.entries = w.world.entries ++ asked.map (name, ·) ∧
      asked.length ≤ 1 ∧ ∀ found, r.1 = .ok found → ∀ d ∈ found, ∃ x ∈ asked, x.Gives d := by
  intro r
  let search := (s.journaling name).perform e.unnoted.inSession (search query wanted standard)
  have hr : r = ((search.run w).1.map fun answer =>
      kept s.config.distance.higherIsCloser threshold answer.hits, (search.run w).2) :=
    run_ofStore (s.journaling name) e.unnoted.inSession standard threshold query wanted w
  rw [hr]
  rcases run_search_cases (s.journaling name) e.unnoted query wanted standard w with
    ⟨hworld, hnone⟩ | ⟨vector, k, hworld, houtcome⟩
  · have hentries : (search.run w).2.world.entries = w.world.entries := by
      rcases hworld with hsame | hembedded
      · rw [hsame]
      · rw [hembedded]
        rfl
    refine ⟨[], by simpa using hentries, Nat.zero_le 1, fun found hfound d hd => ?_⟩
    obtain ⟨answer, hanswer, rfl⟩ := map_eq_ok hfound
    rw [hnone answer hanswer] at hd
    obtain ⟨hit, hhit, -⟩ := exists_of_mem_kept hd
    cases hhit
  · refine ⟨[⟨_, _⟩], congrArg Journal.entries hworld, Nat.le_refl 1, fun found hfound d hd => ?_⟩
    obtain ⟨answer, hanswer, rfl⟩ := map_eq_ok hfound
    obtain ⟨hit, hhit, rfl⟩ := exists_of_mem_kept hd
    rw [show (search.run w).1 = _ from houtcome] at hanswer
    obtain ⟨results, hresults, hrows⟩ := bind_eq_ok hanswer
    obtain ⟨reply, hreply, hresults⟩ := bind_eq_ok hresults
    obtain ⟨hits, hhits, rfl⟩ := map_eq_ok hrows
    obtain ⟨row, hrow, hscored⟩ := exists_of_mem_mapM hhits hhit
    refine ⟨_, List.mem_singleton_self _, reply, results, row, hreply, hresults, hrow, ?_⟩
    rw [Surreal.scoredOfRow_eq] at hscored
    split at hscored
    · cases hscored
      rfl
    · cases hscored

theorem run_compressed {ω : Type} (base : Retriever ω) (c : Compressor ω) (query : String)
    (wanted : Nat) (w : ω) :
    ((base.compressed c).retrieve query wanted).run w =
      match (base.retrieve query wanted).run w with
      | (.error err, w') => (.error err, w')
      | (.ok found, w') =>
        if found.isEmpty then (.ok found, w') else (c.compress found query).run w' := by
  show (base.retrieve query wanted >>= _).run w = _
  rw [Action.run_bind]
  rcases (base.retrieve query wanted).run w with ⟨err | found, w'⟩
  · rfl
  · dsimp only
    split <;> rfl

/-- A reranker behind a retriever that has found documents. -/
theorem run_compressed_of_ok {ω : Type} {base : Retriever ω} {query : String} {wanted : Nat}
    {w w' : ω} {docs : List Document}
    (h : (base.retrieve query wanted).run w = (.ok docs, w')) (reranker : Reranker ω) :
    ((base.compressed reranker.toCompressor).retrieve query wanted).run w =
      if docs = [] ∨ reranker.config.topN = some 0 then (.ok [], w')
      else
        let reply := (reranker.backend.send
          (Reranker.requestOf reranker.config query docs reranker.config.topN)).run w'
        ((reply.1 >>= Reranker.ranked docs).map (List.map (·.1)), reply.2) := by
  have hcompress : (reranker.toCompressor.compress docs query).run w' = _ :=
    reranker.run_rerank query docs none w'
  rw [run_compressed, h]
  dsimp only
  rw [hcompress, Reranker.run_rerankWithScores, Option.none_or]
  cases docs with
  | nil => rfl
  | cons d docs =>
    simp only [List.isEmpty_cons, Bool.false_eq_true, if_false, false_or, reduceCtorEq]
    split
    · rfl
    · rfl

/-- **A reranker behind a retriever** passes on its failure, is sent nothing if there is nothing to
rank or no document is wanted, and else one request with all documents. -/
theorem compressed_journaling (base : Retriever (Session (Journal (ι × Exchange) σ)))
    (reranker : Reranker σ) (name : ι) (query : String) (wanted : Nat)
    (w : Session (Journal (ι × Exchange) σ)) :
    let found := (base.retrieve query wanted).run w
    let r := ((base.compressed (reranker.journaling name).inSession.toCompressor).retrieve query
      wanted).run w
    (∀ err, found.1 = .error err → r = (.error err, found.2)) ∧
    (∀ docs, found.1 = .ok docs → docs = [] ∨ reranker.config.topN = some 0 →
      r = (.ok [], found.2)) ∧
    ∀ docs, found.1 = .ok docs → docs ≠ [] → reranker.config.topN ≠ some 0 →
      ∃ x, r.2.world.entries = found.2.world.entries ++ [(name, x)] ∧
        x.request.body.get? "documents" = some (.arr (docs.map fun d => .str d.content)) ∧
        Reranked docs x r.1 := by
  intro found r
  have hok : ∀ docs, found.1 = .ok docs → r = _ := fun docs hdocs =>
    run_compressed_of_ok (Prod.ext hdocs rfl) (reranker.journaling name).inSession
  refine ⟨fun err herr => ?_, fun docs hdocs hidle => ?_, fun docs hdocs hne hwanted => ?_⟩
  · have hrun : (base.retrieve query wanted).run w = (.error err, found.2) := Prod.ext herr rfl
    show ((base.compressed (reranker.journaling name).inSession.toCompressor).retrieve query
      wanted).run w = _
    rw [run_compressed, hrun]
  · exact (hok docs hdocs).trans (if_pos hidle)
  · rw [(hok docs hdocs).trans (if_neg (not_or.mpr ⟨hne, hwanted⟩))]
    exact ⟨⟨_, _⟩, rfl, Reranker.documents_requestOf reranker.config query docs _,
      Reranker.reranked_ranked _ _⟩

end Retriever

end Journals

/-! ## Both together -/

section Worlds

variable {σ τ : Type} {R : σ → τ → Prop}

theorem Backend.Agree.inSession {b : Backend σ} {b' : Backend τ} (h : Backend.Agree R b b') :
    Backend.Agree (Session.Related R) b.inSession b'.inSession where
  send request := (h.send request).lift
  sendStream request := (h.sendStream request).lift

/-- A reranker behind a retriever answers the same in two worlds if its parts do. -/
theorem Retriever.agree_compressed {base : Retriever σ} {base' : Retriever τ}
    (hbase : ∀ query wanted, Action.Agree R (base.retrieve query wanted)
      (base'.retrieve query wanted))
    {b : Backend σ} {b' : Backend τ} (hb : Backend.Agree R b b') (c : Cohere.RerankConfig)
    (query : String) (wanted : Nat) :
    Action.Agree R ((base.compressed (Reranker.toCompressor ⟨c, b⟩)).retrieve query wanted)
      ((base'.compressed (Reranker.toCompressor ⟨c, b'⟩)).retrieve query wanted) := by
  refine (hbase query wanted).bind fun found => ?_
  split
  · exact .pure found
  · exact Reranker.agree_rerank hb c query found none

/-- A retriever over a store answers the same in two worlds if the backends and embedders do. -/
theorem Retriever.agree_ofStore {c : Surreal.Config} (valid : c.validate = .ok ()) {b : Backend σ}
    {b' : Backend τ} (hb : Backend.Agree R b b') {e : Embedder (Session σ)}
    {e' : Embedder (Session τ)} (he : Embedder.Agree (Session.Related R) e e') (standard : Nat)
    (threshold : Option Single) (query : String) (wanted : Nat) :
    Action.Agree (Session.Related R)
      ((ofStore (Store.toVectorStore ⟨c, valid, b⟩) e standard threshold).retrieve query wanted)
      ((ofStore (Store.toVectorStore ⟨c, valid, b'⟩) e' standard threshold).retrieve query
        wanted) := by
  rw [retrieve_ofStore, retrieve_ofStore]
  exact (Store.agree_perform hb he _).bind fun _ => .pure _

end Worlds

/-- The two services behind a pipeline. -/
inductive Party where
  | database
  | reranker
  deriving DecidableEq

/-- **Retrieving and reranking.**  For every store, embedder, reranker and threshold, whatever the
two services reply: the retriever asks the database once at most.  If it fails, so does the whole;
if it finds nothing, or no document is wanted, nothing is answered; in both cases the reranker is
sent nothing.  Else it is sent one request with the contents of the documents in order, and what the
whole answers are documents of the retriever that the results of the reply name, in their order and
unchanged but for a score.  Every document of the answer is a row that the database gave in this
call, unchanged but for a score.  The journal that shows the exchanges changes nothing. -/
theorem Retriever.provenance_compressed {σ : Type} (s : Store σ) (e : Embedder σ)
    (reranker : Reranker σ) (standard wanted : Nat) (threshold : Option Single) (query : String)
    (w : Session (Journal (Party × Exchange) σ)) :
    let base := ofStore (s.journaling Party.database).toVectorStore e.unnoted.inSession standard
      threshold
    let second := (reranker.journaling Party.reranker).inSession
    let found := (base.retrieve query wanted).run w
    let r := ((base.compressed second.toCompressor).retrieve query wanted).run w
    (((ofStore s.toVectorStore e.inSession standard threshold).compressed
        reranker.inSession.toCompressor).retrieve query wanted).run w.unnoted =
      (r.1, r.2.unnoted) ∧
    ∃ asked : List Exchange,
      found.2.world.entries = w.world.entries ++ asked.map (Party.database, ·) ∧
      asked.length ≤ 1 ∧
      (∀ err, found.1 = .error err → r = (.error err, found.2)) ∧
      (∀ docs, found.1 = .ok docs → docs = [] ∨ reranker.config.topN = some 0 →
        r = (.ok [], found.2)) ∧
      (∀ docs, found.1 = .ok docs → docs ≠ [] → reranker.config.topN ≠ some 0 →
        ∃ x, r.2.world.entries = found.2.world.entries ++ [(Party.reranker, x)] ∧
          x.request.body.get? "documents" = some (.arr (docs.map fun d => .str d.content)) ∧
          Reranked docs x r.1) ∧
      ∀ answer, r.1 = .ok answer → ∀ d ∈ answer, ∃ x ∈ asked, ∃ row, x.Gives row ∧
        Rescored row d := by
  intro base second found r
  obtain ⟨asked, hasked, honce, hgiven⟩ :=
    run_journaling s e standard threshold query wanted Party.database w
  obtain ⟨hfails, hidles, hreranked⟩ :=
    compressed_journaling base reranker Party.reranker query wanted w
  refine ⟨?_, asked, hasked, honce, hfails, hidles, hreranked, fun answer hanswer d hd => ?_⟩
  · have hbase := agree_ofStore s.valid (s.backend.agree_journaling Party.database)
      e.agree_unnoted.inSession standard threshold
    exact Session.run_unnoted (agree_compressed hbase
      (reranker.backend.agree_journaling Party.reranker).inSession reranker.config query wanted) w
  · cases hfound : found.1 with
    | error err =>
      rw [show r = _ from hfails err hfound] at hanswer
      cases hanswer
    | ok docs =>
      by_cases hidle : docs = [] ∨ reranker.config.topN = some 0
      · rw [show r = _ from hidles docs hfound hidle] at hanswer
        cases hanswer
        cases hd
      · obtain ⟨hne, hwanted⟩ := not_or.mp hidle
        obtain ⟨x, -, -, hx⟩ := hreranked docs hfound hne hwanted
        obtain ⟨row, hrow, hrescored⟩ := hx.exists_of_mem hanswer hd
        obtain ⟨y, hy, hgives⟩ := hgiven docs hfound row hrow
        exact ⟨y, hy, row, hgives, hrescored⟩

/-- Two documents, of which the results name the second one twice. -/
theorem provenance_compressed_twice :
    let c := Surreal.Config.new "http://localhost:8000" "ns" "db" "documents"
    let row := fun (text : String) => Json.obj [("score", .int 1), ("text", .str text)]
    let statement := Json.obj [("result", .arr [row "a", row "b"]), ("status", .str "OK")]
    let database : Backend Unit :=
      ⟨fun _ => pure ⟨200, .obj [("result", .arr [statement])]⟩, fun _ => pure []⟩
    let result := fun (place score : Int) =>
      Json.obj [("index", .int place), ("relevance_score", .int score)]
    let results := Json.arr [result 1 3, result 0 2, result 1 1]
    let reranker : Reranker Unit := ⟨.new "key",
      ⟨fun _ => pure ⟨200, .obj [("results", results)]⟩, fun _ => pure []⟩⟩
    let e : Embedder Unit := .ofFunction fun _ => []
    ∃ s answer, Store.ofConfig c database = .ok s ∧
      ((((Retriever.ofStore s.toVectorStore e.inSession 4 none).compressed
        reranker.inSession.toCompressor).retrieve "q" 0).run (.start ())).1 = .ok answer ∧
      answer.map (·.content) = ["b", "a", "b"] ∧
      ∀ d ∈ answer, ∃ x row, Exchange.Gives x row ∧ Rescored row d := by
  intro c row statement database result results reranker e
  have hvalid : c.validate = .ok () := by decide
  let s : Store Unit := ⟨c, hvalid, database⟩
  obtain ⟨hplain, asked, -, -, -, -, -, hgiven⟩ :=
    Retriever.provenance_compressed s e reranker 4 0 none "q" (.start ⟨(), []⟩)
  refine ⟨s, _, Surreal.Store.ofConfig_of_valid hvalid database, rfl, rfl, fun d hd => ?_⟩
  obtain ⟨x, -, row, hgives, hrescored⟩ := hgiven _ rfl d hd
  exact ⟨x, row, hgives, hrescored⟩

end RetrievalKit
