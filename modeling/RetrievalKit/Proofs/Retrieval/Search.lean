import RetrievalKit.Proofs.Surreal.Operation
import RetrievalKit.Proofs.Wire.Outcomes
import RetrievalKit.Retrieval.Retriever

/-!
# Retrieval from a store

A retriever over a document store makes one search with scores, with a threshold or without, and
keeps all documents it finds or those that are near enough.

* `Retriever.run_ofStore` — a retrieval is a search with scores, and documents of its hits;
* `Retriever.run_search_cases` — such a search makes one request, or finds nothing or fails;
* `Surreal.mapM_scoredOfRow` — the hits that rows stand for.
-/

namespace RetrievalKit

/-! ## Retrieval -/

/-- The hits in an answer. -/
def Surreal.Answer.hits : Answer → List Scored
  | .scored hits => hits
  | _ => []

namespace Retriever

open Surreal (Session Store)

variable {σ : Type}

/-- The documents that a retriever keeps of the hits of a search. -/
def kept (higherIsCloser : Bool) (threshold : Option Single) (hits : List Scored) :
    List Document :=
  match threshold with
  | none => hits.map (·.1)
  | some t => (hits.filter fun hit => isNearEnough higherIsCloser t hit.2).map (·.1)

/-- The search of a retriever. -/
def search (query : String) (wanted standard : Nat) : Surreal.Operation :=
  .similaritySearchWithScore query (if 0 < wanted then wanted else standard)

theorem retrieve_ofStore (s : Store σ) (e : Embedder (Session σ)) (standard : Nat)
    (threshold : Option Single) (query : String) (wanted : Nat) :
    (ofStore s.toVectorStore e standard threshold).retrieve query wanted =
      s.perform e (search query wanted standard) >>= fun answer =>
        pure (kept s.config.distance.higherIsCloser threshold answer.hits) := by
  unfold search Store.perform
  simp only [bind_assoc, pure_bind]
  cases threshold <;> rfl

/-- **A retrieval is a search with scores**, whether there is a threshold or not; only what is kept
of the hits differs. -/
theorem run_ofStore (s : Store σ) (e : Embedder (Session σ)) (standard : Nat)
    (threshold : Option Single) (query : String) (wanted : Nat) (w : Session σ) :
    ((ofStore s.toVectorStore e standard threshold).retrieve query wanted).run w =
      let found := (s.perform e (search query wanted standard)).run w
      (found.1.map fun answer => kept s.config.distance.higherIsCloser threshold answer.hits,
        found.2) := by
  rw [retrieve_ofStore, Action.run_bind_pure]

/-- **What the search of a retriever does to a world**: no more than embedding the query may do, and
then it finds nothing or fails; or one request after that, by whose reply it answers. -/
theorem run_search_cases (s : Store σ) (e : Embedder σ) (query : String) (wanted standard : Nat)
    (w : Session σ) :
    let r := (s.perform e.inSession (search query wanted standard)).run w
    let embedded := ((e.embedQuery query).run w.world).2
    ((r.2.world = w.world ∨ r.2.world = embedded) ∧
        ∀ answer, r.1 = .ok answer → answer.hits = []) ∨
      ∃ vector k, let reply := (s.backend.send (Surreal.callRequest s.config w.nextId
          (.nearest s.config vector k .all))).run embedded
        r.2.world = reply.2 ∧
        r.1 = reply.1 >>= Surreal.statementResults >>= fun results =>
          ((Store.rowsOf results).mapM Store.scoredOfRow).map .scored := by
  intro r embedded
  have hr : r = _ := s.run_perform e (search query wanted standard) w
  have hembedded : (((search query wanted standard).embedding e).run w.world).2 = embedded :=
    congrArg Prod.snd (Action.run_bind_pure (e.embedQuery query) (fun v => [v]) w.world)
  rw [hr]
  cases hidle : (search query wanted standard).isIdle with
  | true =>
    refine Or.inl ⟨Or.inl rfl, fun answer hanswer => ?_⟩
    cases hanswer
    rfl
  | false =>
    rw [if_neg Bool.false_ne_true]
    dsimp only
    rw [hembedded]
    cases hchecked : (search query wanted standard).checked s.config
        (((search query wanted standard).embedding e).run w.world).1 with
    | error err => exact Or.inl ⟨Or.inr rfl, nofun⟩
    | ok vectors => exact Or.inr ⟨vectors.headD [], _, rfl, rfl⟩

end Retriever

/-! ## Hits -/

namespace Surreal

/-- The score of a row, if it has a number there. -/
def scoreOf? (row : Json) : Option Double := (row.get? "score").bind Json.asDouble?

/-- The hit of a row with a score. -/
def hitOf (row : Json) : Scored :=
  (Store.documentOfRow row, Single.ofDouble ((scoreOf? row).getD Double.zero))

theorem scoredOfRow_eq (row : Json) :
    Store.scoredOfRow row =
      match scoreOf? row with
      | some _ => .ok (hitOf row)
      | none => .error ⟨.parsing, "SurrealDB search row has no numeric score: " ++ row.render⟩ := by
  unfold Store.scoredOfRow hitOf
  show (match scoreOf? row with | some score => _ | none => _) = _
  cases scoreOf? row <;> rfl

/-- The hits of rows that all have scores. -/
theorem mapM_scoredOfRow {rows : List Json} (h : ∀ row ∈ rows, scoreOf? row ≠ none) :
    rows.mapM Store.scoredOfRow = .ok (rows.map hitOf) := by
  refine mapM_eq_ok_map fun row hrow => ?_
  rw [scoredOfRow_eq]
  cases hscore : scoreOf? row with
  | some score => rfl
  | none => exact absurd hscore (h row hrow)

/-- One row without a score makes an error of all. -/
theorem mapM_scoredOfRow_of_none {rows : List Json} (h : ∃ row ∈ rows, scoreOf? row = none) :
    ∃ text, rows.mapM Store.scoredOfRow = .error ⟨.parsing, text⟩ := by
  obtain ⟨row, hrow, hscore⟩ := h
  cases hrows : rows.mapM Store.scoredOfRow with
  | error e =>
    obtain ⟨other, -, hother⟩ := mapM_eq_error hrows
    rw [scoredOfRow_eq] at hother
    split at hother
    · cases hother
    · cases hother
      exact ⟨_, rfl⟩
  | ok hits =>
    obtain ⟨hlength, hitems⟩ := mapM_eq_ok hrows
    obtain ⟨i, hlt, rfl⟩ := List.mem_iff_getElem.mp hrow
    have hlt' : i < hits.length := hlength ▸ hlt
    have hitem := hitems i _ _ (List.getElem?_eq_getElem hlt) (List.getElem?_eq_getElem hlt')
    rw [scoredOfRow_eq, hscore] at hitem
    cases hitem

end Surreal

end RetrievalKit
