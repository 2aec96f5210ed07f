import RetrievalKit.Proofs.Surreal.Checks
import RetrievalKit.Proofs.Wire.Recording

/-!
# What a store sends

An operation is at most one request.

* `Store.sentAfter_perform` — an operation sends the command of its arguments once, or nothing;
* `Store.run_perform_logging` — which of the two it is, and what the operation answers;
* `Store.run_perform_unlogged` — it answers the same without a log.
-/

namespace RetrievalKit.Surreal

variable {σ : Type}

/-! ## Requests -/

/-- Everything that was sent when an action has been run. -/
def sentAfter {α : Type} (a : Action (Session (Recorded σ)) α) (w : Session (Recorded σ)) :
    List Request :=
  (a.run w).2.world.sent

/-- The vectors that an operation goes on with are those of its texts. -/
theorem Operation.embeds_of_embedding {e : Embedder σ} {op : Operation} {world : σ}
    {vectors : List Vector32} (h : ((op.embedding e).run world).1 = .ok vectors) :
    op.Embeds e world vectors := by
  have hquery : ∀ text, ((e.embedQuery text >>= fun v => pure [v]).run world).1 = .ok vectors →
      ∃ v, ((e.embedQuery text).run world).1 = .ok v ∧ vectors = [v] := by
    intro text hrun
    obtain ⟨v, world', hv, hvectors⟩ := Action.run_bind_eq_ok (Prod.ext hrun rfl)
    cases hvectors
    exact ⟨v, congrArg Prod.fst hv, rfl⟩
  cases op with
  | ensureIndex | deleteTable | delete | getByIds | similaritySearchByVector =>
    exact (Except.ok.inj h).symm
  | addDocuments documents => exact h
  | similaritySearch text _ => exact hquery text h
  | similaritySearchWithScore text _ => exact hquery text h
  | similaritySearchWithFilter text _ _ => exact hquery text h

/-- The checks before a call admit the operation. -/
theorem Operation.admits_of_check {c : Config} {op : Operation} {vectors : List Vector32}
    (hbusy : op.isIdle = false) (hcheck : op.check c vectors = .ok ()) : op.Admits vectors := by
  obtain ⟨-, hcount, -, hkeys⟩ := check_eq_ok_iff.mp hcheck
  cases op with
  | ensureIndex | deleteTable | similaritySearch | similaritySearchWithScore
  | similaritySearchByVector => exact trivial
  | addDocuments documents =>
    refine ⟨?_, hcount documents rfl⟩
    rintro rfl
    cases hbusy
  | similaritySearchWithFilter text k filter => exact Filter.check_eq_ok_iff.mpr hkeys
  | delete ids | getByIds ids =>
    rintro rfl
    cases hbusy

/-- **An operation sends the command of its arguments once, or nothing.** -/
theorem Store.sentAfter_perform {b : Backend σ} {s : Store (Recorded σ)}
    (hb : s.backend = b.recording) (e : Embedder σ) (op : Operation)
    (w : Session (Recorded σ)) :
    sentAfter (s.perform e.unrecorded.inSession op) w = w.world.sent ∨
      ∃ vectors, op.Embeds e w.world.world vectors ∧ op.Admits vectors ∧
        sentAfter (s.perform e.unrecorded.inSession op) w =
          w.world.sent ++ [callRequest s.config w.nextId (op.command s.config vectors)] := by
  have hembedding : (op.embedding e.unrecorded).run w.world = _ :=
    (op.agree_embedding (e.agree_unrecorded w.world.sent)).run_inside w.world.world
  unfold sentAfter
  rw [run_perform, hembedding, hb]
  cases hidle : op.isIdle with
  | true => exact Or.inl rfl
  | false =>
    rw [if_neg Bool.false_ne_true]
    dsimp only
    cases hchecked : op.checked s.config ((op.embedding e).run w.world.world).1 with
    | error err => exact Or.inl rfl
    | ok vectors =>
      obtain ⟨hfound, hcheck⟩ := Operation.checked_eq_ok hchecked
      exact Or.inr ⟨vectors, Operation.embeds_of_embedding hfound,
        Operation.admits_of_check hidle hcheck, rfl⟩

/-! ## Exchanges -/

/-- The store with a log of its exchanges. -/
def Store.logging (s : Store σ) : Store (Logged σ) := ⟨s.config, s.valid, s.backend.logging⟩

/-- **What an operation does to the log**: nothing if it is idle or refused; else its one request
is an exchange there, and the operation answers by the reply. -/
theorem Store.run_perform_logging (s : Store σ) (e : Embedder σ) (op : Operation)
    (w : Session (Logged σ)) :
    (s.logging.perform e.unlogged.inSession op).run w =
      if op.isIdle then (.ok op.idleAnswer, w)
      else
        let embedded := (op.embedding e).run w.world.world
        match op.checked s.config embedded.1 with
        | .error err => (.error err, ⟨⟨embedded.2, w.world.exchanges⟩, w.nextId⟩)
        | .ok vectors =>
          let request := callRequest s.config w.nextId (op.command s.config vectors)
          let reply := (s.backend.send request).run embedded.2
          (reply.1 >>= statementResults >>= op.decode,
            ⟨⟨reply.2, w.world.exchanges ++ [⟨request, reply.1⟩]⟩, w.nextId + 1⟩) := by
  have hembedding : (op.embedding e.unlogged).run w.world = _ :=
    (op.agree_embedding (e.agree_unlogged w.world.exchanges)).run_inside w.world.world
  rw [run_perform, hembedding]
  rfl

/-- A session without its log. -/
def Session.unlogged (w : Session (Logged σ)) : Session σ := ⟨w.world.world, w.nextId⟩

/-- The log changes nothing: without it an operation answers the same, and leaves the same. -/
theorem Store.run_perform_unlogged (s : Store σ) (e : Embedder σ) (op : Operation)
    (w : Session (Logged σ)) :
    let logged := (s.logging.perform e.unlogged.inSession op).run w
    (s.perform e.inSession op).run w.unlogged = (logged.1, logged.2.unlogged) := by
  rw [run_perform_logging, run_perform]
  cases op.isIdle with
  | true => rfl
  | false =>
    simp only [Bool.false_eq_true, if_false]
    dsimp only [Session.unlogged]
    cases op.checked s.config ((op.embedding e).run w.world.world).1 with
    | error err => rfl
    | ok vectors => rfl

end RetrievalKit.Surreal
