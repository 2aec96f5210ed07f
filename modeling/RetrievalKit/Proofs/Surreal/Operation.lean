import RetrievalKit.Proofs.Wire.Simulation
import RetrievalKit.Surreal.Store

/-!
# The operations of a store

Every operation of a store as a value, so that statements can speak of all operations and of
sequences of them.

* `Store.perform` — the operation itself;
* `Operation.command` — the command that an operation sends, given the vectors that its texts
  were embedded as;
* `Store.perform_eq` — the phases that every operation has: it embeds its texts, checks what it
  has, makes one call and decodes the results;
* `Store.run_perform` — hence what an operation answers, and what it does to a session.
-/

namespace RetrievalKit.Surreal

/-- A store that could be made has the settings and the backend it was made of. -/
theorem Store.ofConfig_eq_ok {σ : Type} {c : Config} {b : Backend σ} {s : Store σ}
    (h : Store.ofConfig c b = .ok s) :
    c.validate = .ok () ∧ s.config = c ∧ s.backend = b := by
  unfold Store.ofConfig at h
  split at h
  · rename_i hvalid
    cases h
    exact ⟨hvalid, rfl, rfl⟩
  · cases h

/-- Valid settings make a store over every backend. -/
theorem Store.ofConfig_of_valid {σ : Type} {c : Config} (h : c.validate = .ok ())
    (b : Backend σ) : Store.ofConfig c b = .ok ⟨c, h, b⟩ := by
  unfold Store.ofConfig
  split
  · rfl
  · rename_i herror
    rw [h] at herror
    cases herror

/-- An operation of a store with its arguments. -/
inductive Operation where
  | ensureIndex
  | deleteTable
  | addDocuments (documents : List Document)
  | similaritySearch (text : String) (k : Nat)
  | similaritySearchWithScore (text : String) (k : Nat)
  | similaritySearchWithFilter (text : String) (k : Nat) (filter : Filter)
  | similaritySearchByVector (vector : Vector32) (k : Nat)
  | delete (ids : List String)
  | getByIds (ids : List String)

/-- What an operation answers. -/
inductive Answer where
  | done
  | ids (ids : List String)
  | documents (documents : List Document)
  | scored (hits : List Scored)

section Perform

variable {σ : Type}

/-- Performs an operation. -/
def Store.perform (s : Store σ) (e : Embedder (Session σ)) : Operation → Action (Session σ) Answer
  | .ensureIndex => do
    s.ensureIndex
    pure .done
  | .deleteTable => do
    s.deleteTable
    pure .done
  | .addDocuments documents => do
    let ids ← s.addDocuments documents e
    pure (.ids ids)
  | .similaritySearch text k => do
    let documents ← s.similaritySearch text k e
    pure (.documents documents)
  | .similaritySearchWithScore text k => do
    let hits ← s.similaritySearchWithScore text k e
    pure (.scored hits)
  | .similaritySearchWithFilter text k filter => do
    let hits ← s.similaritySearchWithFilter text k filter e
    pure (.scored hits)
  | .similaritySearchByVector vector k => do
    let documents ← s.similaritySearchByVector vector k
    pure (.documents documents)
  | .delete ids => do
    s.delete ids
    pure .done
  | .getByIds ids => do
    let documents ← s.getByIds ids
    pure (.documents documents)

end Perform

namespace Operation

/-- The vectors that the texts of an operation are embedded as in a world. -/
def Embeds {σ : Type} (e : Embedder σ) (world : σ) (vectors : List Vector32) : Operation → Prop
  | .addDocuments documents =>
    ((e.embedDocuments (documents.map (·.content))).run world).1 = .ok vectors
  | .similaritySearch text _ | .similaritySearchWithScore text _
  | .similaritySearchWithFilter text _ _ =>
    ∃ v, ((e.embedQuery text).run world).1 = .ok v ∧ vectors = [v]
  | .similaritySearchByVector vector _ => vectors = [vector]
  | _ => vectors = []

/-- What a store checks before it sends the command of an operation. -/
def Admits (vectors : List Vector32) : Operation → Prop
  | .addDocuments documents => documents ≠ [] ∧ vectors.length = documents.length
  | .similaritySearchWithFilter _ _ filter => filter.check = .ok ()
  | .delete ids | .getByIds ids => ids ≠ []
  | _ => True

/-- The command of an operation whose texts were embedded as these vectors. -/
def command (c : Config) (vectors : List Vector32) : Operation → Command
  | .ensureIndex => .defineIndex c (c.dimension.getD 0)
  | .deleteTable => .removeTable c
  | .addDocuments documents => .add c (documents.zip vectors)
  | .similaritySearch _ k | .similaritySearchWithScore _ k =>
    .nearest c (vectors.headD []) k .all
  | .similaritySearchWithFilter _ k filter => .nearest c (vectors.headD []) k filter
  | .similaritySearchByVector _ k => .nearest c (vectors.headD []) k .all
  | .delete ids => .delete c ids
  | .getByIds ids => .fetch c ids

end Operation

/-! ## Phases -/

namespace Operation

variable {σ : Type}

/-- Whether an operation has nothing to do. -/
def isIdle : Operation → Bool
  | .ensureIndex | .deleteTable => false
  | .addDocuments documents => documents.isEmpty
  | .similaritySearch _ k | .similaritySearchWithScore _ k | .similaritySearchWithFilter _ k _
  | .similaritySearchByVector _ k => k == 0
  | .delete ids | .getByIds ids => ids.isEmpty

/-- What an operation answers that has nothing to do. -/
def idleAnswer : Operation → Answer
  | .ensureIndex | .deleteTable | .delete _ => .done
  | .addDocuments _ => .ids []
  | .similaritySearch .. | .similaritySearchByVector .. | .getByIds _ => .documents []
  | .similaritySearchWithScore .. | .similaritySearchWithFilter .. => .scored []

/-- Embeds the texts of an operation. -/
def embedding (e : Embedder σ) : Operation → Action σ (List Vector32)
  | .addDocuments documents => e.embedDocuments (documents.map (·.content))
  | .similaritySearch text _ | .similaritySearchWithScore text _
  | .similaritySearchWithFilter text _ _ => do
    let vector ← e.embedQuery text
    pure [vector]
  | .similaritySearchByVector vector _ => pure [vector]
  | .ensureIndex | .deleteTable | .delete _ | .getByIds _ => pure []

/-- The filter of a search; without one it admits every document. -/
def filter : Operation → Filter
  | .similaritySearchWithFilter _ _ filter => filter
  | _ => .all

/-- Refuses to define an index without a dimension. -/
def checkIndex (c : Config) : Operation → Except Error Unit
  | .ensureIndex =>
    match c.dimension with
    | none => .error ⟨.config, "ensure_index requires an embedding dimension"⟩
    | some _ => .ok ()
  | _ => .ok ()

/-- Refuses documents without a vector for each. -/
def checkCount (vectors : List Vector32) : Operation → Except Error Unit
  | .addDocuments documents =>
    if vectors.length = documents.length then .ok ()
    else .error ⟨.embedding, "expected " ++ toString documents.length ++ " embeddings, got " ++
      toString vectors.length⟩
  | _ => .ok ()

/-- Checks an operation and its vectors before the call. -/
def check (c : Config) (op : Operation) (vectors : List Vector32) : Except Error Unit := do
  op.checkIndex c
  op.checkCount vectors
  vectors.forM (Store.checkDimension c)
  op.filter.check

theorem check_addDocuments (c : Config) (documents : List Document) (vectors : List Vector32) :
    (addDocuments documents).check c vectors =
      if vectors.length = documents.length then vectors.forM (Store.checkDimension c)
      else .error ⟨.embedding, "expected " ++ toString documents.length ++ " embeddings, got " ++
        toString vectors.length⟩ := by
  have hcheck : (addDocuments documents).check c vectors =
      (addDocuments documents).checkCount vectors >>= fun _ =>
        vectors.forM (Store.checkDimension c) >>= fun _ => .ok () := rfl
  have hforM : (vectors.forM (Store.checkDimension c) >>= fun _ => .ok ()) =
      vectors.forM (Store.checkDimension c) := bind_pure _
  rw [hcheck, hforM]
  simp only [checkCount]
  split
  · rfl
  · rfl

/-- The answer that the results of all statements stand for. -/
def decode (op : Operation) (results : List Json) : Except Error Answer :=
  match op with
  | .ensureIndex | .deleteTable | .delete _ => .ok .done
  | .addDocuments documents => (Store.assignedIds documents results).map .ids
  | .similaritySearch .. | .similaritySearchByVector .. =>
    ((Store.rowsOf results).mapM Store.scoredOfRow).map fun hits => .documents (hits.map (·.1))
  | .similaritySearchWithScore .. | .similaritySearchWithFilter .. =>
    ((Store.rowsOf results).mapM Store.scoredOfRow).map .scored
  | .getByIds _ => .ok (.documents (results.filterMap Store.fetched?))

end Operation

namespace Store

section Phases

variable {σ α β : Type}

/-- Checks, then makes one call and decodes its results. -/
def call (s : Store σ) (check : Except Error Unit) (command : Command)
    (decode : List Json → Except Error α) : Action (Session σ) α := do
  liftExcept check
  let results ← s.run command
  liftExcept (decode results)

theorem call_bind_pure (s : Store σ) (check : Except Error Unit) (command : Command)
    (decode : List Json → Except Error α) (f : α → β) :
    (s.call check command decode >>= fun a => pure (f a)) =
      s.call check command fun results => (decode results).map f := by
  unfold call
  simp only [bind_assoc, Action.liftExcept_map]

theorem ensureIndex_eq (s : Store σ) :
    s.ensureIndex = s.call (Operation.ensureIndex.check s.config [])
      (.defineIndex s.config (s.config.dimension.getD 0)) fun _ => .ok () := by
  unfold ensureIndex Operation.check Operation.checkIndex
  cases s.config.dimension with
  | none => rfl
  | some dimension => rfl

theorem addDocuments_eq (s : Store σ) (documents : List Document) (e : Embedder (Session σ)) :
    s.addDocuments documents e =
      if documents.isEmpty then pure []
      else e.embedDocuments (documents.map (·.content)) >>= fun vectors =>
        s.call ((Operation.addDocuments documents).check s.config vectors)
          (.add s.config (documents.zip vectors)) (assignedIds documents) := by
  unfold addDocuments
  split
  · rfl
  · refine congrArg (_ >>= ·) (funext fun vectors => ?_)
    rw [Operation.check_addDocuments]
    split
    · rfl
    · rfl

theorem searchVector_eq (s : Store σ) (vector : Vector32) (k : Nat) (filter : Filter) :
    s.searchVector vector k filter =
      if k = 0 then pure []
      else s.call (do [vector].forM (checkDimension s.config); filter.check)
        (.nearest s.config vector k filter) fun results => (rowsOf results).mapM scoredOfRow := by
  have hcheck : [vector].forM (checkDimension s.config) = checkDimension s.config vector := by
    show (checkDimension s.config vector >>= fun _ => pure ()) = _
    exact bind_pure _
  unfold searchVector call
  rw [hcheck]
  split
  · rfl
  · simp only [Action.liftExcept_bind, bind_assoc]

/-- All searches for a text are one search, and differ in what they make of its hits. -/
theorem similaritySearchWithFilter_bind_pure (s : Store σ) (text : String) (k : Nat)
    (filter : Filter) (e : Embedder (Session σ)) (f : List Scored → β) :
    (s.similaritySearchWithFilter text k filter e >>= fun hits => pure (f hits)) =
      if k = 0 then pure (f [])
      else (e.embedQuery text >>= fun vector => pure [vector]) >>= fun vectors =>
        s.call (do vectors.forM (checkDimension s.config); filter.check)
          (.nearest s.config (vectors.headD []) k filter)
          fun results => ((rowsOf results).mapM scoredOfRow).map f := by
  unfold similaritySearchWithFilter
  split
  · rfl
  · rename_i hk
    simp only [bind_assoc, pure_bind, searchVector_eq, hk, if_false, call_bind_pure]
    rfl

/-- **Every operation has the same phases**: unless there is nothing to do, it embeds its texts,
checks what it has, makes one call and decodes the results. -/
theorem perform_eq (s : Store σ) (e : Embedder (Session σ)) (op : Operation) :
    s.perform e op =
      if op.isIdle then pure op.idleAnswer
      else op.embedding e >>= fun vectors =>
        s.call (op.check s.config vectors) (op.command s.config vectors) op.decode := by
  -- Apart from that the cases differ in when they notice that there is nothing to do.
  cases op with
  | ensureIndex =>
    simp only [perform, ensureIndex_eq, call_bind_pure]
    rfl
  | deleteTable =>
    simp only [perform, deleteTable, bind_assoc]
    rfl
  | addDocuments documents =>
    cases documents with
    | nil => rfl
    | cons d rest =>
      simp only [perform, addDocuments_eq, List.isEmpty_cons, Bool.false_eq_true, if_false,
        bind_assoc, call_bind_pure]
      rfl
  | similaritySearch text k =>
    cases k with
    | zero => rfl
    | succ k =>
      simp only [perform, similaritySearch, similaritySearchWithScore, bind_assoc, pure_bind]
      exact similaritySearchWithFilter_bind_pure s text (k + 1) .all e _
  | similaritySearchWithScore text k =>
    cases k with
    | zero => rfl
    | succ k => exact similaritySearchWithFilter_bind_pure s text (k + 1) .all e _
  | similaritySearchWithFilter text k filter =>
    cases k with
    | zero => rfl
    | succ k => exact similaritySearchWithFilter_bind_pure s text (k + 1) filter e _
  | similaritySearchByVector vector k =>
    cases k with
    | zero => rfl
    | succ k =>
      simp only [perform, similaritySearchByVector, bind_assoc, pure_bind]
      rw [searchVector_eq, if_neg (Nat.succ_ne_zero k), call_bind_pure]
      rfl
  | delete ids =>
    cases ids with
    | nil => rfl
    | cons id ids =>
      simp only [perform, Store.delete, List.isEmpty_cons, Bool.false_eq_true, if_false, bind_assoc]
      rfl
  | getByIds ids =>
    cases ids with
    | nil => rfl
    | cons id ids =>
      simp only [perform, getByIds, List.isEmpty_cons, Bool.false_eq_true, if_false, bind_assoc]
      rfl

end Phases

end Store

/-! ## Runs -/

section Runs

variable {σ τ α : Type}

/-- An operation embeds its texts the same with embedders that agree. -/
theorem Operation.agree_embedding {R : σ → τ → Prop} {e : Embedder σ} {e' : Embedder τ}
    (h : Embedder.Agree R e e') (op : Operation) :
    Action.Agree R (op.embedding e) (op.embedding e') := by
  have hquery : ∀ text, Action.Agree R (e.embedQuery text >>= fun vector => pure [vector])
      (e'.embedQuery text >>= fun vector => pure [vector]) :=
    fun text => (h.embedQuery text).bind fun vector => .pure [vector]
  cases op with
  | ensureIndex | deleteTable | delete | getByIds => exact .pure []
  | addDocuments documents => exact h.embedDocuments _
  | similaritySearch text _ => exact hquery text
  | similaritySearchWithScore text _ => exact hquery text
  | similaritySearchWithFilter text _ _ => exact hquery text
  | similaritySearchByVector vector _ => exact .pure [vector]

/-- The vectors of an operation, if its texts could be embedded and it passes the checks. -/
def Operation.checked (c : Config) (op : Operation) (embedded : Except Error (List Vector32)) :
    Except Error (List Vector32) := do
  let vectors ← embedded
  op.check c vectors
  pure vectors

theorem Operation.checked_ok (c : Config) (op : Operation) (vectors : List Vector32) :
    op.checked c (.ok vectors) = (op.check c vectors).map fun _ => vectors := by
  show (op.check c vectors >>= fun _ => pure vectors) = _
  cases op.check c vectors with
  | error err => rfl
  | ok u => rfl

theorem Operation.checked_eq_ok {c : Config} {op : Operation}
    {embedded : Except Error (List Vector32)} {vectors : List Vector32}
    (h : op.checked c embedded = .ok vectors) :
    embedded = .ok vectors ∧ op.check c vectors = .ok () := by
  cases embedded with
  | error err => cases h
  | ok found =>
    rw [checked_ok] at h
    cases hcheck : op.check c found with
    | error err =>
      rw [hcheck] at h
      cases h
    | ok u =>
      rw [hcheck] at h
      cases h
      exact ⟨rfl, hcheck⟩

/-- A command takes a number and sends one request. -/
theorem Store.run_run (s : Store σ) (command : Command) (w : Session σ) :
    (s.run command).run w =
      let reply := (s.backend.send (callRequest s.config w.nextId command)).run w.world
      (reply.1 >>= statementResults, ⟨reply.2, w.nextId + 1⟩) := by
  have htake : (takeId (σ := σ)).run w = (.ok w.nextId, { w with nextId := w.nextId + 1 }) := rfl
  unfold Store.run query
  rw [Action.run_bind_of_ok htake, Action.run_bind_liftExcept]
  rfl

/-- A call that is checked first. -/
theorem Store.run_call (s : Store σ) (check : Except Error Unit) (command : Command)
    (decode : List Json → Except Error α) (w : Session σ) :
    (s.call check command decode).run w =
      match check with
      | .error err => (.error err, w)
      | .ok () =>
        let reply := (s.backend.send (callRequest s.config w.nextId command)).run w.world
        (reply.1 >>= statementResults >>= decode, ⟨reply.2, w.nextId + 1⟩) := by
  unfold call
  cases check with
  | error err => exact Action.run_bind_of_error (Action.run_liftExcept _ w) _
  | ok u =>
    rw [Action.run_bind_of_ok (Action.run_liftExcept _ w), Action.run_bind_liftExcept, run_run]

/-- **What an operation does**: nothing if it is idle; if its texts cannot be embedded or it is
refused, no more than the embedder does; else one call. -/
theorem Store.run_perform (s : Store σ) (e : Embedder σ) (op : Operation) (w : Session σ) :
    (s.perform e.inSession op).run w =
      if op.isIdle then (.ok op.idleAnswer, w)
      else
        let embedded := (op.embedding e).run w.world
        match op.checked s.config embedded.1 with
        | .error err => (.error err, { w with world := embedded.2 })
        | .ok vectors =>
          let reply := (s.backend.send (callRequest s.config w.nextId
            (op.command s.config vectors))).run embedded.2
          (reply.1 >>= statementResults >>= op.decode, ⟨reply.2, w.nextId + 1⟩) := by
  have hembedding : (op.embedding e.inSession).run w =
      (((op.embedding e).run w.world).1, ⟨((op.embedding e).run w.world).2, w.nextId⟩) :=
    (op.agree_embedding (e.agree_inSession w.nextId)).run_inside w.world
  rw [perform_eq]
  split
  · rfl
  · rcases hfound : (op.embedding e).run w.world with ⟨err | vectors, world⟩
    · rw [hfound] at hembedding
      exact Action.run_bind_of_error hembedding _
    · rw [hfound] at hembedding
      rw [Action.run_bind_of_ok hembedding, run_call]
      dsimp only
      rw [Operation.checked_ok]
      cases op.check s.config vectors with
      | error err => rfl
      | ok u => rfl

end Runs

end RetrievalKit.Surreal
