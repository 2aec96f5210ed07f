import RetrievalKit.Proofs.Wire.Recording

/-!
# Journals

A world with a journal, in which what some actions did is noted.  An entry may tell of whatever the
one who notes it can see: the request, the outcome, the world before and after.  A journal changes
nothing, so an action does the same without it.

* `Journal.lift`, `Journal.noting` — an action that is not noted, and one that is;
* `Journal.agree_lift`, `Journal.agree_noting` — both agree with the action without a journal;
* `Journal.run_world`, `Surreal.Session.run_unnoted` — so the journal changes nothing;
* `Backend.journaling` — a backend whose exchanges are noted under a name, so that one journal may
  tell of several backends.
-/

namespace RetrievalKit

open Surreal (Session)

/-- A world with a journal, oldest entry first. -/
structure Journal (ε σ : Type) where
  world : σ
  entries : List ε

namespace Journal

variable {ε σ α : Type}

/-- The world of a journal is this one. -/
def IsOf (j : Journal ε σ) (s : σ) : Prop := j.world = s

/-- Changes the world, which is not noted. -/
def onWorld (f : σ → σ) (j : Journal ε σ) : Journal ε σ := { j with world := f j.world }

/-- An action that is not noted. -/
def lift (a : Action σ α) : Action (Journal ε σ) α := ExceptT.mk fun j =>
  let r := a.run j.world
  (r.1, { j with world := r.2 })

/-- An action that is noted with the world before it, its outcome and the world after it. -/
def noting (entry : σ → Except Error α → σ → ε) (a : Action σ α) : Action (Journal ε σ) α :=
  ExceptT.mk fun j =>
    let r := a.run j.world
    (r.1, ⟨r.2, j.entries ++ [entry j.world r.1 r.2]⟩)

theorem agree_lift (a : Action σ α) : Action.Agree (IsOf (ε := ε)) (lift a) a := by
  rintro j _ rfl
  exact ⟨rfl, rfl⟩

theorem agree_noting (entry : σ → Except Error α → σ → ε) (a : Action σ α) :
    Action.Agree IsOf (noting entry a) a := by
  rintro j _ rfl
  exact ⟨rfl, rfl⟩

/-- An action that agrees with one without a journal does the same to its world. -/
theorem run_world {a : Action (Journal ε σ) α} {a' : Action σ α} (h : Action.Agree IsOf a a')
    (j : Journal ε σ) : a'.run j.world = ((a.run j).1, (a.run j).2.world) := by
  obtain ⟨houtcome, hworld⟩ := h j j.world rfl
  exact Prod.ext houtcome.symm hworld.symm

end Journal

/-- A session without its journal. -/
def Surreal.Session.unnoted {ε σ : Type} (w : Session (Journal ε σ)) : Session σ :=
  ⟨w.world.world, w.nextId⟩

/-- An action that agrees with one without a journal does the same to its session. -/
theorem Surreal.Session.run_unnoted {ε σ α : Type} {a : Action (Session (Journal ε σ)) α}
    {a' : Action (Session σ) α} (h : Action.Agree (Session.Related Journal.IsOf) a a')
    (w : Session (Journal ε σ)) : a'.run w.unnoted = ((a.run w).1, (a.run w).2.unnoted) := by
  obtain ⟨houtcome, hworld, hid⟩ := h w w.unnoted ⟨rfl, rfl⟩
  unfold Session.unnoted at *
  rw [hid, show (a.run w).2.world.world = _ from hworld]
  exact Prod.ext houtcome.symm rfl

/-- An embedder in a world with a journal; what it sends itself is not noted. -/
def Embedder.unnoted {ε σ : Type} (e : Embedder σ) : Embedder (Journal ε σ) where
  embedDocuments texts := Journal.lift (e.embedDocuments texts)
  embedQuery text := Journal.lift (e.embedQuery text)

theorem Embedder.agree_unnoted {ε σ : Type} (e : Embedder σ) :
    Embedder.Agree (Journal.IsOf (ε := ε)) e.unnoted e where
  embedDocuments texts := Journal.agree_lift (e.embedDocuments texts)
  embedQuery text := Journal.agree_lift (e.embedQuery text)

/-! ## Exchanges of several backends -/

section Exchanges

variable {ι σ : Type}

/-- A backend whose exchanges are noted under a name; streams are not noted. -/
def Backend.journaling (name : ι) (b : Backend σ) : Backend (Journal (ι × Exchange) σ) where
  send request :=
    Journal.noting (fun _ outcome _ => (name, ⟨request, outcome⟩)) (b.send request)
  sendStream request := Journal.lift (b.sendStream request)

theorem Backend.agree_journaling (name : ι) (b : Backend σ) :
    Backend.Agree Journal.IsOf (b.journaling name) b where
  send request := Journal.agree_noting _ (b.send request)
  sendStream request := Journal.agree_lift (b.sendStream request)

end Exchanges

end RetrievalKit
