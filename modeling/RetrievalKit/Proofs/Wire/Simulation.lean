import RetrievalKit.Proofs.Wire.Action
import RetrievalKit.Surreal.Rpc

/-!
# Actions in two worlds

The same client may run in two worlds, over two backends.  If each request is answered the same in
both, so is whatever the client makes of the answers.  `Agree` says it of one effect, and there is a
lemma for each way to build effects: a client agrees with itself because each of its steps does.

* `Agree`, `Action.Agree` — the same answer from related worlds, which stay related;
* `Backend.Agree`, `Embedder.Agree` — the same for everything a backend or an embedder offers;
* `Session.Related` — related worlds with the same number for the next call;
* `Action.Agree.run_inside` — an action that works in a part of its world.
-/

namespace RetrievalKit

open Surreal (Session)

variable {σ τ α β : Type} {R : σ → τ → Prop}

/-- From related worlds two effects answer the same, and they leave related worlds. -/
def Agree (R : σ → τ → Prop) (m : StateM σ α) (m' : StateM τ α) : Prop :=
  ∀ s t, R s t → (m s).1 = (m' t).1 ∧ R (m s).2 (m' t).2

/-- From related worlds two actions have the same outcome, and they leave related worlds. -/
def Action.Agree (R : σ → τ → Prop) (a : Action σ α) (a' : Action τ α) : Prop :=
  RetrievalKit.Agree R a.run a'.run

/-! ## Effects -/

section Effects

/-- What two runs from related worlds have in common. -/
theorem Agree.run {m : StateM σ α} {m' : StateM τ α} (h : Agree R m m') {s : σ} {t : τ}
    (hst : R s t) : ∃ x s' t', m s = (x, s') ∧ m' t = (x, t') ∧ R s' t' := by
  obtain ⟨hanswer, hworld⟩ := h s t hst
  exact ⟨(m s).1, (m s).2, (m' t).2, rfl, Prod.ext hanswer.symm rfl, hworld⟩

theorem Agree.pure (x : α) : Agree R (Pure.pure x : StateM σ α) (Pure.pure x) :=
  fun _ _ h => ⟨rfl, h⟩

theorem Agree.bind {m : StateM σ α} {m' : StateM τ α} (h : Agree R m m') {f : α → StateM σ β}
    {f' : α → StateM τ β} (hf : ∀ x, Agree R (f x) (f' x)) : Agree R (m >>= f) (m' >>= f') := by
  intro s t hst
  obtain ⟨x, s', t', hs, ht, hst'⟩ := h.run hst
  have hleft : (m >>= f) s = f x s' := by
    show f (m s).1 (m s).2 = f x s'
    rw [hs]
  have hright : (m' >>= f') t = f' x t' := by
    show f' (m' t).1 (m' t).2 = f' x t'
    rw [ht]
  rw [hleft, hright]
  exact hf x s' t' hst'

/-- Effects one after the other. -/
theorem Agree.mapM {f : β → StateM σ α} {f' : β → StateM τ α} (h : ∀ x, Agree R (f x) (f' x))
    (xs : List β) : Agree R (xs.mapM f) (xs.mapM f') := by
  induction xs with
  | nil => exact .pure []
  | cons x xs ih =>
    rw [List.mapM_cons, List.mapM_cons]
    exact (h x).bind fun y => ih.bind fun ys => .pure (y :: ys)

theorem Agree.map {m : Drain σ α} {m' : Drain τ α} (h : RetrievalKit.Agree R m m') (f : α → β) :
    RetrievalKit.Agree R (m.map f) (m'.map f) := by
  intro s t hst
  obtain ⟨hitems, hworld⟩ := h s t hst
  exact ⟨congrArg (List.map (Except.map f)) hitems, hworld⟩

end Effects

/-! ## Actions -/

namespace Action.Agree

theorem pure (x : α) : Action.Agree R (Pure.pure x : Action σ α) (Pure.pure x) :=
  fun _ _ h => ⟨rfl, h⟩

theorem liftExcept (r : Except Error α) :
    Action.Agree R (RetrievalKit.liftExcept r) (RetrievalKit.liftExcept r) :=
  fun _ _ h => ⟨rfl, h⟩

theorem fail (kind : ErrorKind) (text : String) :
    Action.Agree R (RetrievalKit.fail kind text : Action σ α) (RetrievalKit.fail kind text) :=
  fun _ _ h => ⟨rfl, h⟩

theorem bind {a : Action σ α} {a' : Action τ α} (h : Action.Agree R a a') {f : α → Action σ β}
    {f' : α → Action τ β} (hf : ∀ x, Action.Agree R (f x) (f' x)) :
    Action.Agree R (a >>= f) (a' >>= f') := by
  intro s t hst
  obtain ⟨outcome, s', t', hs, ht, hst'⟩ := RetrievalKit.Agree.run h hst
  cases outcome with
  | ok x =>
    have hleft : ((a >>= f).run) s = (f x).run s' := run_bind_of_ok hs f
    have hright : ((a' >>= f').run) t = (f' x).run t' := run_bind_of_ok ht f'
    rw [hleft, hright]
    exact hf x s' t' hst'
  | error e =>
    have hleft : ((a >>= f).run) s = (.error e, s') := run_bind_of_error hs f
    have hright : ((a' >>= f').run) t = (.error e, t') := run_bind_of_error ht f'
    rw [hleft, hright]
    exact ⟨rfl, hst'⟩

theorem readPieces {opening : Action σ (List Piece)} {opening' : Action τ (List Piece)}
    (h : Action.Agree R opening opening') (read : List Piece → List (Except Error α)) :
    RetrievalKit.Agree R (opening.readPieces read) (opening'.readPieces read) := by
  intro s t hst
  obtain ⟨outcome, s', t', hs, ht, hst'⟩ := RetrievalKit.Agree.run h hst
  have hleft : opening.run s = (outcome, s') := hs
  have hright : opening'.run t = (outcome, t') := ht
  unfold Action.readPieces
  rw [hleft, hright]
  cases outcome with
  | ok pieces => exact ⟨rfl, hst'⟩
  | error e => exact ⟨rfl, hst'⟩

end Action.Agree

/-! ## Backends and embedders -/

/-- Two backends answer every request the same. -/
structure Backend.Agree (R : σ → τ → Prop) (b : Backend σ) (b' : Backend τ) : Prop where
  send : ∀ request, Action.Agree R (b.send request) (b'.send request)
  sendStream : ∀ request, Action.Agree R (b.sendStream request) (b'.sendStream request)

/-- Two embedders embed all texts the same. -/
structure Embedder.Agree (R : σ → τ → Prop) (e : Embedder σ) (e' : Embedder τ) : Prop where
  embedDocuments : ∀ texts, Action.Agree R (e.embedDocuments texts) (e'.embedDocuments texts)
  embedQuery : ∀ text, Action.Agree R (e.embedQuery text) (e'.embedQuery text)

/-! ## Sessions -/

/-- Related worlds with the same number for the next call. -/
def Surreal.Session.Related (R : σ → τ → Prop) (s : Session σ) (t : Session τ) : Prop :=
  R s.world t.world ∧ s.nextId = t.nextId

theorem Agree.onWorld {m : StateM σ α} {m' : StateM τ α} (h : Agree R m m') :
    Agree (Session.Related R) (Session.onWorld m) (Session.onWorld m') := by
  intro s t hst
  obtain ⟨hanswer, hworld⟩ := h s.world t.world hst.1
  exact ⟨hanswer, hworld, hst.2⟩

theorem Action.Agree.lift {a : Action σ α} {a' : Action τ α} (h : Action.Agree R a a') :
    Action.Agree (Session.Related R) (Session.lift a) (Session.lift a') :=
  RetrievalKit.Agree.onWorld h

theorem Embedder.Agree.inSession {e : Embedder σ} {e' : Embedder τ} (h : Embedder.Agree R e e') :
    Embedder.Agree (Session.Related R) e.inSession e'.inSession where
  embedDocuments texts := (h.embedDocuments texts).lift
  embedQuery text := (h.embedQuery text).lift

/-- Both sessions take the same number, and go on with the same. -/
theorem agree_takeId :
    Action.Agree (Session.Related R) (Surreal.takeId (σ := σ)) (Surreal.takeId (σ := τ)) := by
  intro s t hst
  exact ⟨congrArg Except.ok hst.2, hst.1, congrArg (· + 1) hst.2⟩

/-! ## A part of a world -/

/-- An action that agrees with one on a part of its world leaves the rest alone. -/
theorem Action.Agree.run_inside {f : τ → σ} {a : Action σ α} {a' : Action τ α}
    (h : Action.Agree (fun s t => s = f t) a a') (t : τ) :
    a.run (f t) = ((a'.run t).1, f (a'.run t).2) := by
  obtain ⟨houtcome, hworld⟩ := h (f t) t rfl
  exact Prod.ext houtcome hworld

/-- An embedder inside a session leaves the number of the next call alone. -/
theorem Embedder.agree_inSession (e : Embedder σ) (nextId : Nat) :
    Embedder.Agree (fun s t => s = ⟨t, nextId⟩) e.inSession e where
  embedDocuments texts := by
    rintro _ t rfl
    exact ⟨rfl, rfl⟩
  embedQuery text := by
    rintro _ t rfl
    exact ⟨rfl, rfl⟩

end RetrievalKit
