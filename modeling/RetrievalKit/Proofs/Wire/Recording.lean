import RetrievalKit.Proofs.Wire.Simulation

/-!
# Records of what is sent

A world with a record of everything that is sent through a backend, in order.  The backend and
the embedder of a world become ones of the recorded world; what they answer does not depend on
the record.

* `Recorded` — the requests;
* `Logged` — the requests that ask for a reply, each with what came of it.
-/

namespace RetrievalKit

/-- A world with the requests that were sent in it, oldest first. -/
structure Recorded (σ : Type) where
  world : σ
  sent : List Request

namespace Recorded

variable {σ α : Type}

/-- An action that sends nothing. -/
def lift (a : Action σ α) : Action (Recorded σ) α := ExceptT.mk fun s =>
  let r := a.run s.world
  (r.1, { s with world := r.2 })

/-- An action that sends a request. -/
def sending (request : Request) (a : Action σ α) : Action (Recorded σ) α := ExceptT.mk fun s =>
  let r := a.run s.world
  (r.1, ⟨r.2, s.sent ++ [request]⟩)

end Recorded

/-- The backend that records what is sent through it. -/
def Backend.recording {σ : Type} (b : Backend σ) : Backend (Recorded σ) where
  send request := Recorded.sending request (b.send request)
  sendStream request := Recorded.sending request (b.sendStream request)

/-- An embedder in a recorded world; what it sends itself is not recorded. -/
def Embedder.unrecorded {σ : Type} (e : Embedder σ) : Embedder (Recorded σ) where
  embedDocuments texts := Recorded.lift (e.embedDocuments texts)
  embedQuery text := Recorded.lift (e.embedQuery text)

/-- An embedder in a recorded world leaves the record alone. -/
theorem Embedder.agree_unrecorded {σ : Type} (e : Embedder σ) (sent : List Request) :
    Embedder.Agree (fun s t => s = ⟨t, sent⟩) e.unrecorded e where
  embedDocuments texts := by
    rintro _ t rfl
    exact ⟨rfl, rfl⟩
  embedQuery text := by
    rintro _ t rfl
    exact ⟨rfl, rfl⟩

/-! ## Exchanges -/

/-- A request with what came of it. -/
structure Exchange where
  request : Request
  outcome : Except Error Reply

/-- A world with the exchanges that took place in it, oldest first. -/
structure Logged (σ : Type) where
  world : σ
  exchanges : List Exchange

namespace Logged

variable {σ α : Type}

/-- An action without an exchange. -/
def lift (a : Action σ α) : Action (Logged σ) α := ExceptT.mk fun s =>
  let r := a.run s.world
  (r.1, { s with world := r.2 })

/-- The exchange that an action answers a request in. -/
def exchanging (request : Request) (a : Action σ Reply) : Action (Logged σ) Reply :=
  ExceptT.mk fun s =>
    let r := a.run s.world
    (r.1, ⟨r.2, s.exchanges ++ [⟨request, r.1⟩]⟩)

end Logged

/-- The backend that logs its exchanges; streams are none. -/
def Backend.logging {σ : Type} (b : Backend σ) : Backend (Logged σ) where
  send request := Logged.exchanging request (b.send request)
  sendStream request := Logged.lift (b.sendStream request)

/-- An embedder in a logged world; its own exchanges are not logged. -/
def Embedder.unlogged {σ : Type} (e : Embedder σ) : Embedder (Logged σ) where
  embedDocuments texts := Logged.lift (e.embedDocuments texts)
  embedQuery text := Logged.lift (e.embedQuery text)

/-- An embedder in a logged world leaves the log alone. -/
theorem Embedder.agree_unlogged {σ : Type} (e : Embedder σ) (exchanges : List Exchange) :
    Embedder.Agree (fun s t => s = ⟨t, exchanges⟩) e.unlogged e where
  embedDocuments texts := by
    rintro _ t rfl
    exact ⟨rfl, rfl⟩
  embedQuery text := by
    rintro _ t rfl
    exact ⟨rfl, rfl⟩

end RetrievalKit
