import RetrievalKit.Cohere.Rerank
import RetrievalKit.Proofs.Wire.Action
import RetrievalKit.Proofs.Wire.Outcomes

/-!
# What a reranker answers

The results of a reply name documents by their place in the request.  Each result brings back the
document that it names, with a score; one that names none makes an error of the whole reply.

* `Rescored` — a document as it was but for its score;
* `Names`, `Attaches` — a result that names a document, and what it makes of it;
* `rankedOne_eq_ok`, `exists_rankedOne_eq_ok_iff` — one result; `exists_ranked_eq_ok_iff` — all of
  a reply;
* `run_rerankWithScores` — a reranker makes one exchange, or none;
* `Reranker.rerank_of_reply` — so its answer is one document for each result, or an error.
-/

namespace RetrievalKit

/-- A document is another one with a new score: nothing else has changed. -/
structure Rescored (base d : Document) : Prop where
  id : d.id = base.id
  content : d.content = base.content
  metadata : ∀ key, key ≠ "relevance_score" →
    Dict.get? key d.metadata = Dict.get? key base.metadata

namespace Cohere.Reranker

variable {σ : Type} {documents : List Document} {result : Json} {hit : Scored}

/-! ## One result -/

/-- A result names one of so many documents: its index is an integer, and a document is there. -/
def Names (count : Nat) (result : Json) : Prop :=
  ∃ i : Int, result.get? "index" = some (.int i) ∧ 0 ≤ i ∧ i < count

/-- The score of a result: its number in double precision, or zero if it has none. -/
inductive HasScore (result : Json) : Double → Prop
  | integer {n : Int} (h : result.get? "relevance_score" = some (.int n)) :
    HasScore result (Double.ofInt n)
  | number {d : Double} (h : result.get? "relevance_score" = some (.float d)) : HasScore result d
  | missing (h : ∀ v, result.get? "relevance_score" = some v → v.asDouble? = none) :
    HasScore result Double.zero

/-- What a result makes of the documents: the one at its index, as it was but for its score.  The
score replaces an earlier one, and stands beside the document in single precision. -/
structure Attaches (documents : List Document) (result : Json) (hit : Scored) : Prop where
  named : ∃ (i : Nat) (base : Document), result.get? "index" = some (.int i) ∧
    documents[i]? = some base ∧ Rescored base hit.1
  scored : ∃ score, HasScore result score ∧
    Dict.get? "relevance_score" hit.1.metadata = some (.float score) ∧
    hit.2 = Single.ofDouble score

theorem names_iff :
    Names documents.length result ↔
      ∃ n base, (result.field "index").asNat? = some n ∧ documents[n]? = some base := by
  constructor
  · rintro ⟨i, hindex, hnonneg, hlt⟩
    obtain ⟨n, rfl⟩ := Int.eq_ofNat_of_zero_le hnonneg
    have hn : n < documents.length := by omega
    exact ⟨n, documents[n], Json.asNat?_field_eq_some_iff.mpr hindex,
      List.getElem?_eq_getElem hn⟩
  · rintro ⟨n, base, hindex, hbase⟩
    obtain ⟨hn, -⟩ := List.getElem?_eq_some_iff.mp hbase
    exact ⟨n, Json.asNat?_field_eq_some_iff.mp hindex, by omega, by omega⟩

theorem hasScore_field (result : Json) :
    HasScore result ((result.field "relevance_score").asDouble?.getD Double.zero) := by
  unfold Json.field
  cases hfound : result.get? "relevance_score" with
  | none => exact .missing fun v h => absurd (hfound.symm.trans h) nofun
  | some v =>
    rw [Option.getD_some]
    cases hv : v.asDouble? with
    | none =>
      refine .missing fun v' h => ?_
      rw [← Option.some.inj (hfound.symm.trans h), hv]
    | some score =>
      rw [Option.getD_some]
      cases v with
      | int n =>
        cases hv
        exact .integer hfound
      | float d =>
        cases hv
        exact .number hfound
      | _ => cases hv

theorem rescored_withScore (base : Document) (score : Double) :
    Rescored base (withScore base score) where
  id := rfl
  content := rfl
  metadata _ hkey := Dict.get?_insert_of_ne (Ne.symm hkey) _ _

/-- A result brings back the document that it names. -/
theorem rankedOne_eq_ok (h : rankedOne documents result = .ok hit) :
    Attaches documents result hit := by
  unfold rankedOne at h
  split at h
  · cases h
  · rename_i n hindex
    dsimp only at h
    split at h
    · rename_i base hbase
      cases h
      exact ⟨⟨n, base, Json.asNat?_field_eq_some_iff.mp hindex, hbase, rescored_withScore base _⟩,
        _, hasScore_field result, Dict.get?_insert_self _ _ _, rfl⟩
    · cases h

theorem exists_rankedOne_eq_ok_iff :
    (∃ hit, rankedOne documents result = .ok hit) ↔ Names documents.length result := by
  rw [names_iff]
  unfold rankedOne
  constructor
  · rintro ⟨hit, h⟩
    split at h
    · cases h
    · rename_i n hindex
      dsimp only at h
      split at h
      · rename_i base hbase
        exact ⟨n, base, hindex, hbase⟩
      · cases h
  · rintro ⟨n, base, hindex, hbase⟩
    rw [hindex]
    dsimp only
    rw [hbase]
    exact ⟨_, rfl⟩

theorem rankedOne_eq_error {e : Error} (h : rankedOne documents result = .error e) :
    e.kind = .parsing := by
  unfold rankedOne at h
  split at h
  · cases h
    rfl
  · dsimp only at h
    split at h
    · cases h
    · cases h
      rfl

/-! ## All results -/

section Replies

variable {reply : Reply}

/-- Of a reply that is no failure only the results count. -/
theorem ranked_of_status (hstatus : reply.status < 400) (documents : List Document) :
    ranked documents reply =
      match (reply.body.field "results").asArray? with
      | some results => results.mapM (rankedOne documents)
      | none => .error ⟨.parsing, "Cohere rerank: missing results"⟩ := by
  have hcheck : checkReply "rerank" .reranker reply = .ok () :=
    Reply.check_of_status hstatus _ _ _
  unfold ranked
  rw [hcheck]
  rfl

/-- A reply is an answer if and only if it lists results and each of them names a document. -/
theorem exists_ranked_eq_ok_iff (hstatus : reply.status < 400) :
    (∃ hits, ranked documents reply = .ok hits) ↔
      ∃ results, reply.body.get? "results" = some (.arr results) ∧
        ∀ result ∈ results, Names documents.length result := by
  rw [ranked_of_status hstatus]
  cases hresults : (reply.body.field "results").asArray? with
  | none =>
    refine ⟨nofun, fun ⟨results, hitems, _⟩ => ?_⟩
    rw [Json.asArray?_field_eq_some_iff.mpr hitems] at hresults
    cases hresults
  | some results =>
    have hitems := Json.asArray?_field_eq_some_iff.mp hresults
    dsimp only
    rw [exists_mapM_eq_ok_iff]
    constructor
    · intro h
      exact ⟨results, hitems, fun result hmem => exists_rankedOne_eq_ok_iff.mp (h result hmem)⟩
    · rintro ⟨others, hothers, hnames⟩ result hmem
      rw [hitems, Option.some.injEq, Json.arr.injEq] at hothers
      exact exists_rankedOne_eq_ok_iff.mpr (hnames result (hothers ▸ hmem))

/-- An answer has one document for each result, in their order. -/
theorem ranked_eq_ok (hstatus : reply.status < 400) {hits : List Scored}
    (h : ranked documents reply = .ok hits) :
    ∃ results, reply.body.get? "results" = some (.arr results) ∧
      List.Forall₂ (Attaches documents) results hits := by
  rw [ranked_of_status hstatus] at h
  split at h
  · rename_i results hresults
    exact ⟨results, Json.asArray?_field_eq_some_iff.mp hresults,
      forall₂_of_mapM (fun _ _ => rankedOne_eq_ok) h⟩
  · cases h

theorem ranked_eq_error (hstatus : reply.status < 400) {e : Error}
    (h : ranked documents reply = .error e) : e.kind = .parsing := by
  rw [ranked_of_status hstatus] at h
  split at h
  · obtain ⟨result, -, herror⟩ := mapM_eq_error h
    exact rankedOne_eq_error herror
  · cases h
    rfl

end Replies

/-! ## Requests -/

/-- The request of a reranker. -/
def requestOf (c : RerankConfig) (query : String) (documents : List Document)
    (topN : Option Nat) : Request :=
  request c.baseUrl "rerank" c.apiKey (body c query documents topN)

/-- **A reranker makes one exchange**, unless it has nothing to do. -/
theorem run_rerankWithScores (r : Reranker σ) (query : String) (documents : List Document)
    (topN : Option Nat) (w : σ) :
    (r.rerankWithScores query documents topN).run w =
      if documents.isEmpty ∨ topN.or r.config.topN = some 0 then (.ok [], w)
      else
        let reply := (r.backend.send
          (requestOf r.config query documents (topN.or r.config.topN))).run w
        (reply.1 >>= ranked documents, reply.2) := by
  unfold rerankWithScores
  dsimp only
  split
  · rfl
  · rw [Action.run_bind_liftExcept]
    rfl

/-- The answer without the scores. -/
theorem run_rerank (r : Reranker σ) (query : String) (documents : List Document)
    (topN : Option Nat) (w : σ) :
    (r.rerank query documents topN).run w =
      (((r.rerankWithScores query documents topN).run w).1.map (List.map (·.1)),
        ((r.rerankWithScores query documents topN).run w).2) :=
  Action.run_bind_pure _ _ w

/-- **A reranker maps results back exactly.**  For documents of which some are wanted, and a reply
that is no failure, it answers if and only if the reply lists results and the index of each is that
of a document.  Then there is one document for each result, in their order: the one named, unchanged
but for its score.  Otherwise it is a parsing error, and no document is answered, however many
results were good.  Without scores the documents are the same, and the compressor answers them as
the reranker does with its own limit. -/
theorem rerank_of_reply (r : Reranker σ) (query : String) {documents : List Document}
    {topN : Option Nat} {w w' : σ} {reply : Reply} (hne : documents ≠ [])
    (hwanted : topN.or r.config.topN ≠ some 0)
    (hreply : (r.backend.send (requestOf r.config query documents (topN.or r.config.topN))).run w =
      (.ok reply, w'))
    (hstatus : reply.status < 400) :
    let scored := (r.rerankWithScores query documents topN).run w
    scored.2 = w' ∧
    ((∃ hits, scored.1 = .ok hits) ↔
      ∃ results, reply.body.get? "results" = some (.arr results) ∧
        ∀ result ∈ results, Names documents.length result) ∧
    (∀ hits, scored.1 = .ok hits →
      ∃ results, reply.body.get? "results" = some (.arr results) ∧
        List.Forall₂ (Attaches documents) results hits) ∧
    (∀ e, scored.1 = .error e → e.kind = .parsing) ∧
    (r.rerank query documents topN).run w = (scored.1.map (List.map (·.1)), scored.2) ∧
    r.toCompressor.compress documents query = r.rerank query documents none := by
  have hbusy : ¬ (documents.isEmpty ∨ topN.or r.config.topN = some 0) := by
    rw [List.isEmpty_iff]
    exact not_or.mpr ⟨hne, hwanted⟩
  have hrun : (r.rerankWithScores query documents topN).run w = (ranked documents reply, w') := by
    rw [run_rerankWithScores, if_neg hbusy, hreply]
    rfl
  intro scored
  have hscored : scored = (ranked documents reply, w') := hrun
  refine ⟨by rw [hscored], ?_, ?_, ?_, run_rerank r query documents topN w, rfl⟩
  · rw [hscored]
    exact exists_ranked_eq_ok_iff hstatus
  · intro hits hhits
    rw [hscored] at hhits
    exact ranked_eq_ok hstatus hhits
  · intro e he
    rw [hscored] at he
    exact ranked_eq_error hstatus he

/-- Two results name one document, whose earlier score is no number; the second has no score. -/
theorem rerank_of_reply_twice :
    let old : Document := ⟨"a", "one", [("relevance_score", .str "old"), ("source", .str "x")]⟩
    let documents := [old, ⟨"b", "two", []⟩]
    let results := [Json.obj [("index", .int 0), ("relevance_score", .int 1)],
      Json.obj [("index", .int 1)], Json.obj [("index", .int 0)]]
    let reply : Reply := ⟨200, .obj [("results", .arr results)]⟩
    let r : Reranker Unit := ⟨.new "key", ⟨fun _ => pure reply, fun _ => pure []⟩⟩
    ∃ hits, (r.rerankWithScores "q" documents none).run () = (.ok hits, ()) ∧
      List.Forall₂ (Attaches documents) results hits := by
  intro old documents results reply r
  have hne : documents ≠ [] := nofun
  have hwanted : Option.or none r.config.topN ≠ some 0 := nofun
  have hreply : (r.backend.send (requestOf r.config "q" documents
      (Option.or none r.config.topN))).run () = (.ok reply, ()) := rfl
  obtain ⟨hworld, hanswers, hattaches, -⟩ :=
    rerank_of_reply r "q" hne hwanted hreply (by decide)
  have hnames : ∀ result ∈ results, Names documents.length result := by
    intro result hresult
    rcases List.mem_cons.mp hresult with rfl | hresult
    · exact ⟨0, rfl, by decide, by decide⟩
    · rcases List.mem_cons.mp hresult with rfl | hresult
      · exact ⟨1, rfl, by decide, by decide⟩
      · rw [List.mem_singleton.mp hresult]
        exact ⟨0, rfl, by decide, by decide⟩
  obtain ⟨hits, hhits⟩ := hanswers.mpr ⟨results, rfl, hnames⟩
  obtain ⟨results', hresults', hrest⟩ := hattaches hits hhits
  cases hresults'
  exact ⟨hits, Prod.ext hhits hworld, hrest⟩

end Cohere.Reranker

end RetrievalKit
