import RetrievalKit.Wire.Basic

/-!
# Running actions

What an action does to a world, one lemma for each way to build an action.  `run_bind` splits a
sequence at its first action, `run_bind_eq_ok` reads a successful sequence backwards.
-/

namespace RetrievalKit

instance decidableEqExcept {ε α : Type} [DecidableEq ε] [DecidableEq α] :
    DecidableEq (Except ε α)
  | .ok a, .ok b => decidable_of_iff (a = b) ⟨congrArg _, Except.ok.inj⟩
  | .error e, .error f => decidable_of_iff (e = f) ⟨congrArg _, Except.error.inj⟩
  | .ok _, .error _ => isFalse nofun
  | .error _, .ok _ => isFalse nofun

namespace Action

variable {σ α β : Type}

@[simp] theorem run_pure (a : α) (s : σ) : (pure a : Action σ α).run s = (.ok a, s) := rfl

@[simp] theorem run_liftExcept (r : Except Error α) (s : σ) : (liftExcept r).run s = (r, s) := rfl

theorem run_bind (a : Action σ α) (f : α → Action σ β) (s : σ) :
    (a >>= f).run s =
      match a.run s with
      | (.ok x, s') => (f x).run s'
      | (.error e, s') => (.error e, s') := by
  rcases h : a.run s with ⟨e | x, s'⟩
  · have h' : a s = (.error e, s') := h
    simp only [ExceptT.run, bind, ExceptT.bind, ExceptT.mk, StateT.bind, h', ExceptT.bindCont]
    rfl
  · have h' : a s = (.ok x, s') := h
    simp only [ExceptT.run, bind, ExceptT.bind, ExceptT.mk, StateT.bind, h', ExceptT.bindCont]

theorem run_bind_of_ok {a : Action σ α} {x : α} {s s' : σ} (h : a.run s = (.ok x, s'))
    (f : α → Action σ β) : (a >>= f).run s = (f x).run s' := by
  rw [run_bind, h]

theorem run_bind_of_error {a : Action σ α} {e : Error} {s s' : σ}
    (h : a.run s = (.error e, s')) (f : α → Action σ β) :
    (a >>= f).run s = (.error e, s') := by
  rw [run_bind, h]

/-- A sequence succeeds through the success of its first action. -/
theorem run_bind_eq_ok {a : Action σ α} {f : α → Action σ β} {y : β} {s s'' : σ}
    (h : (a >>= f).run s = (.ok y, s'')) :
    ∃ x s', a.run s = (.ok x, s') ∧ (f x).run s' = (.ok y, s'') := by
  rw [run_bind] at h
  split at h
  · rename_i x s' ha
    exact ⟨x, s', ha, h⟩
  · cases h

/-- What only looks at the outcome of an action has no effect of its own. -/
theorem run_bind_liftExcept (a : Action σ α) (f : α → Except Error β) (s : σ) :
    (a >>= fun x => liftExcept (f x)).run s = ((a.run s).1 >>= f, (a.run s).2) := by
  rcases h : a.run s with ⟨e | x, s'⟩
  · exact run_bind_of_error h _
  · exact run_bind_of_ok h _

theorem run_bind_pure (a : Action σ α) (f : α → β) (s : σ) :
    (a >>= fun x => pure (f x)).run s = ((a.run s).1.map f, (a.run s).2) := by
  rcases h : a.run s with ⟨e | x, s'⟩
  · exact run_bind_of_error h _
  · exact run_bind_of_ok h _

/-- Reading a stream changes nothing after it is opened. -/
theorem readPieces_snd (opening : Action σ (List Piece)) (read : List Piece → List (Except Error α))
    (s : σ) : (opening.readPieces read s).2 = (opening.run s).2 := by
  unfold readPieces
  split
  · rename_i h
    rw [h]
  · rename_i h
    rw [h]

/-! Outcomes without effects are put together before or after they are lifted. -/

theorem liftExcept_bind (r : Except Error α) (f : α → Except Error β) :
    (liftExcept (r >>= f) : Action σ β) = liftExcept r >>= fun x => liftExcept (f x) := by
  cases r with
  | error e => rfl
  | ok x => rfl

theorem liftExcept_map (r : Except Error α) (f : α → β) :
    (liftExcept (r.map f) : Action σ β) = liftExcept r >>= fun x => pure (f x) := by
  cases r with
  | error e => rfl
  | ok x => rfl

end Action

end RetrievalKit
