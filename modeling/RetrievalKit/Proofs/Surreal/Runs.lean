import RetrievalKit.Proofs.Json.Dict
import RetrievalKit.Proofs.Surreal.Sending

/-!
# The requests of a run

Operations on one store, one after the other, each with an embedder of its own.  An operation makes
one request or none, and the requests of the whole run are numbered 1, 2, 3, …, whatever became of
them; an operation without a request takes no number.

* `Store.Step` — what one operation may do to a session;
* `Numbered` — the log of a session is numbered, and the next number is free;
* `Store.step_perform_logging` — every operation is such a step;
* `Store.Step.numbered` — a step keeps the log numbered;
* `Store.step_afterCalls` — so it is after every run, each operation of which is such a step.
-/

namespace RetrievalKit.Surreal

variable {σ : Type}

/-- The number that the request of an exchange carries. -/
def id? (x : Exchange) : Option Json := x.request.body.get? "id"

/-- What an operation may do to a session. -/
structure Store.Step (s : Store σ) (e : Embedder σ) (op : Operation)
    (before : Session (Logged σ)) (outcome : Except Error Answer) (after : Session (Logged σ)) :
    Prop where
  /-- It makes at most one request, which carries the number at hand, and goes on to the next. -/
  requests : ∃ new, after.world.exchanges = before.world.exchanges ++ new ∧ new.length ≤ 1 ∧
    after.nextId = before.nextId + new.length ∧ ∀ x ∈ new, id? x = some (.int before.nextId)
  /-- It makes none exactly if it is idle or refused. -/
  silent_iff : after.world.exchanges = before.world.exchanges ↔
    op.isIdle = true ∨ op.Refused s.config ((op.embedding e).run before.world.world).1
  /-- Then no number is taken, and nothing in the world has changed that embedding the texts leaves
  alone, such as the replies that the database has yet to give. -/
  unchanged : after.world.exchanges = before.world.exchanges → after.nextId = before.nextId ∧
    ∀ {ν : Type} (view : σ → ν),
      view ((op.embedding e).run before.world.world).2 = view before.world.world →
      view after.world.world = view before.world.world
  /-- An idle operation calls no embedder: with any, it answers the same and changes nothing. -/
  idle : op.isIdle = true → outcome = .ok op.idleAnswer ∧ after = before ∧
    ∀ e' : Embedder (Session (Logged σ)),
      (s.logging.perform e' op).run before = (.ok op.idleAnswer, before)
  /-- A refused operation is an error. -/
  refused : op.isIdle = false → op.Refused s.config ((op.embedding e).run before.world.world).1 →
    ∃ err, outcome = .error err

/-- The log is numbered from one on without a gap, and the next number is the one after it. -/
structure Numbered (w : Session (Logged σ)) : Prop where
  next : w.nextId = w.world.exchanges.length + 1
  ids : w.world.exchanges.map id? =
    (List.range w.world.exchanges.length).map fun n => some (.int (n + 1))

/-! ## One operation -/

theorem id?_callRequest (c : Config) (id : Nat) (command : Command)
    (outcome : Except Error Reply) :
    id? ⟨callRequest c id command, outcome⟩ = some (.int id) :=
  Dict.get?_ofList_of_mem (by simp) List.mem_cons_self

/-- An idle operation does nothing, whatever its embedder. -/
theorem Store.run_perform_of_idle (s : Store σ) {op : Operation} (h : op.isIdle = true)
    (e : Embedder (Session σ)) (w : Session σ) :
    (s.perform e op).run w = (.ok op.idleAnswer, w) := by
  rw [perform_eq, if_pos h]
  rfl

section Step

variable {s : Store σ} {e : Embedder σ} {op : Operation} {w : Session (Logged σ)}

theorem Store.step_of_idle (h : op.isIdle = true) : s.Step e op w (.ok op.idleAnswer) w where
  requests := ⟨[], (List.append_nil _).symm, Nat.zero_le 1, rfl, nofun⟩
  silent_iff := ⟨fun _ => Or.inl h, fun _ => rfl⟩
  unchanged _ := ⟨rfl, fun _ _ => rfl⟩
  idle _ := ⟨rfl, rfl, fun e' => s.logging.run_perform_of_idle h e' w⟩
  refused hbusy := absurd h (Bool.eq_false_iff.mp hbusy)

theorem Store.step_of_refused {err : Error} (hbusy : op.isIdle = false)
    (h : op.Refused s.config ((op.embedding e).run w.world.world).1) :
    s.Step e op w (.error err)
      ⟨⟨((op.embedding e).run w.world.world).2, w.world.exchanges⟩, w.nextId⟩ where
  requests := ⟨[], (List.append_nil _).symm, Nat.zero_le 1, rfl, nofun⟩
  silent_iff := ⟨fun _ => Or.inr h, fun _ => rfl⟩
  unchanged _ := ⟨rfl, fun _ hkeeps => hkeeps⟩
  idle hidle := absurd hidle (Bool.eq_false_iff.mp hbusy)
  refused _ _ := ⟨err, rfl⟩

theorem Store.step_of_request {x : Exchange} {outcome : Except Error Answer} {world : σ}
    (hbusy : op.isIdle = false)
    (h : ¬ op.Refused s.config ((op.embedding e).run w.world.world).1)
    (hx : id? x = some (.int w.nextId)) :
    s.Step e op w outcome ⟨⟨world, w.world.exchanges ++ [x]⟩, w.nextId + 1⟩ where
  requests := ⟨[x], rfl, Nat.le_refl 1, rfl, by simpa using hx⟩
  silent_iff := by simp [hbusy, h]
  unchanged hsame := by simp at hsame
  idle hidle := absurd hidle (Bool.eq_false_iff.mp hbusy)
  refused _ hrefused := absurd hrefused h

/-- **Every operation is a step.** -/
theorem Store.step_perform_logging (s : Store σ) (e : Embedder σ) (op : Operation)
    (w : Session (Logged σ)) :
    let r := (s.logging.perform e.unlogged.inSession op).run w
    s.Step e op w r.1 r.2 := by
  rw [run_perform_logging]
  cases hidle : op.isIdle with
  | true => exact step_of_idle hidle
  | false =>
    rw [if_neg Bool.false_ne_true]
    dsimp only
    have hrefused : _ ↔ op.Refused s.config ((op.embedding e).run w.world.world).1 :=
      Operation.checked_eq_error_iff
    cases hchecked : op.checked s.config ((op.embedding e).run w.world.world).1 with
    | error err => exact step_of_refused hidle (hrefused.mp ⟨err, hchecked⟩)
    | ok vectors =>
      refine step_of_request hidle (fun h => ?_) (id?_callRequest ..)
      obtain ⟨err, herr⟩ := hrefused.mpr h
      rw [hchecked] at herr
      cases herr

end Step

/-! ## A run -/

theorem numbered_start (world : σ) : Numbered (.start ⟨world, []⟩) := ⟨rfl, rfl⟩

/-- A step keeps the log numbered. -/
theorem Store.Step.numbered {s : Store σ} {e : Embedder σ} {op : Operation}
    {before after : Session (Logged σ)} {outcome : Except Error Answer}
    (h : s.Step e op before outcome after) (hbefore : Numbered before) : Numbered after := by
  obtain ⟨new, hexchanges, hlength, hnext, hid⟩ := h.requests
  rcases new with _ | ⟨x, _ | ⟨y, rest⟩⟩
  · rw [List.append_nil] at hexchanges
    exact ⟨by rw [hnext, hexchanges, hbefore.next]; rfl, by rw [hexchanges, hbefore.ids]⟩
  · refine ⟨?_, ?_⟩
    · rw [hnext, hexchanges, hbefore.next]
      simp
    · rw [hexchanges, List.map_append, hbefore.ids, List.length_append]
      simp [List.range_succ, hid, hbefore.next]
  · simp at hlength

/-- The session after operations, each with its embedder. -/
def Store.afterCalls (s : Store σ) (calls : List (Embedder σ × Operation))
    (w : Session (Logged σ)) : Session (Logged σ) :=
  calls.foldl (fun w (e, op) => ((s.logging.perform e.unlogged.inSession op).run w).2) w

theorem Store.numbered_afterCalls (s : Store σ) (calls : List (Embedder σ × Operation))
    {w : Session (Logged σ)} (h : Numbered w) : Numbered (s.afterCalls calls w) := by
  induction calls generalizing w with
  | nil => exact h
  | cons call calls ih => exact ih ((s.step_perform_logging call.1 call.2 w).numbered h)

/-- **The requests of a store.**  Whatever operations are performed on a store, with whatever
embedders and over whatever backend, the requests of the run carry the numbers 1, 2, 3, … in order,
and each operation of the run is a step, which is the same without the log. -/
theorem Store.step_afterCalls (s : Store σ) (world : σ) :
    let start : Session (Logged σ) := .start ⟨world, []⟩
    (∀ calls, Numbered (s.afterCalls calls start)) ∧
    ∀ done e op rest,
      let before := s.afterCalls done start
      let r := (s.logging.perform e.unlogged.inSession op).run before
      s.Step e op before r.1 r.2 ∧
        (s.perform e.inSession op).run before.unlogged = (r.1, r.2.unlogged) ∧
        s.afterCalls (done ++ (e, op) :: rest) start = s.afterCalls rest r.2 := by
  intro start
  refine ⟨fun calls => s.numbered_afterCalls calls (numbered_start world), ?_⟩
  intro done e op rest
  refine ⟨s.step_perform_logging e op _, s.run_perform_unlogged e op _, ?_⟩
  unfold afterCalls
  rw [List.foldl_append]
  rfl

end RetrievalKit.Surreal
