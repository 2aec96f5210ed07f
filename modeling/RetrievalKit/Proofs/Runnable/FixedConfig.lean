import RetrievalKit.Proofs.Runnable.Expression

/-!
# A step under a fixed configuration

What fixing a configuration leaves of a step.  Its effect and its stream stay as they are under that
configuration, with whatever they do to the world.  Its batch does not: the inputs are run one after
another, even where the step has a batch of its own.

* `Runnable.InvokesEach` — one input after another, each with its own outcome;
* `Runnable.inSequence_eq_iff` — what running inputs in sequence does;
* `Runnable.withConfig_agrees` — which operations the fixed step shares with the step, and for which
  steps it shares all of them;
* `Runnable.batch_withConfig_bulk` — a step whose batch is lost.
-/

namespace RetrievalKit

variable {σ α β : Type}

namespace Runnable

/-- The inputs are run one after another, whatever the outcomes. -/
inductive InvokesEach (invoke : α → Action σ β) :
    List α → σ → List (Except Error β) → σ → Prop
  | nil {s : σ} : InvokesEach invoke [] s [] s
  | cons {a : α} {inputs : List α} {s s' s'' : σ} {out : Except Error β}
      {results : List (Except Error β)} (h : (invoke a).run s = (out, s'))
      (hrest : InvokesEach invoke inputs s' results s'') :
      InvokesEach invoke (a :: inputs) s (out :: results) s''

theorem inSequence_eq_iff {invoke : α → Action σ β} {inputs : List α} {s s' : σ}
    {results : List (Except Error β)} :
    inSequence invoke inputs s = (results, s') ↔ InvokesEach invoke inputs s results s' := by
  induction inputs generalizing s results with
  | nil =>
    constructor
    · rintro ⟨⟩
      exact .nil
    · rintro ⟨⟩
      rfl
  | cons a inputs ih =>
    constructor
    · rintro ⟨⟩
      exact .cons rfl (ih.mp rfl)
    · rintro (_ | ⟨h, hrest⟩)
      rw [inSequence, h, ih.mpr hrest]

/-- A batch that runs its inputs one after another is the default one. -/
theorem batch_eq_inSequence_iff {batch : List α → Drain σ β} {invoke : α → Action σ β} :
    (∀ inputs, batch inputs = inSequence invoke inputs) ↔
      ∀ inputs s results s', batch inputs s = (results, s') →
        InvokesEach invoke inputs s results s' := by
  constructor
  · intro h inputs s results s' hbatch
    rw [h] at hbatch
    exact inSequence_eq_iff.mp hbatch
  · intro h inputs
    funext s
    exact (inSequence_eq_iff.mpr (h inputs s _ _ rfl)).symm

/-- **A fixed configuration keeps the effect and the stream of a step, and its batch if that runs
the inputs one after another.**  Under every caller's configuration the fixed step is invoked and
streamed as the step is under the fixed one.  Its batch invokes the step on each input in turn; that
is the batch of the step if and only if the step does the same, as every step does that is put
together from those of the library. -/
theorem withConfig_agrees (step : Runnable σ α β) (config : RunConfig) :
    (∀ caller a s, ((step.withConfig config).invoke caller a).run s =
      (step.invoke config a).run s) ∧
    (∀ caller a s, (step.withConfig config).stream caller a s = step.stream config a s) ∧
    (∀ caller inputs s results s', (step.withConfig config).batch caller inputs s = (results, s') ↔
      InvokesEach (step.invoke config) inputs s results s') ∧
    ((∀ caller inputs s, (step.withConfig config).batch caller inputs s =
        step.batch config inputs s) ↔
      ∀ inputs s results s', step.batch config inputs s = (results, s') →
        InvokesEach (step.invoke config) inputs s results s') ∧
    ((∃ e : Expression σ α β, e.toRunnable = step) → ∀ caller inputs s,
      (step.withConfig config).batch caller inputs s = step.batch config inputs s) := by
  have hbatch : ∀ caller inputs, (step.withConfig config).batch caller inputs =
      inSequence (step.invoke config) inputs := fun _ _ => rfl
  refine ⟨fun _ _ _ => rfl, fun _ _ _ => rfl, fun _ _ _ _ _ => inSequence_eq_iff, ?_, ?_⟩
  · rw [← batch_eq_inSequence_iff]
    constructor
    · intro h inputs
      funext s
      exact (h config inputs s).symm
    · intro h caller inputs s
      rw [hbatch, h]
  · rintro ⟨e, rfl⟩ caller inputs s
    rw [hbatch, e.keepsBatch]

/-- A step that counts the calls it makes: one for an input, and one for all inputs of a batch. -/
def bulk : Runnable Nat String String where
  invoke _ text calls := (.ok text, calls + 1)
  batch _ texts calls := (texts.map .ok, calls + 1)
  stream _ text calls := ([.ok text], calls + 1)

/-- Two inputs that the step takes in one call take two once a configuration is fixed. -/
theorem batch_withConfig_bulk :
    bulk.batch .empty ["a", "b"] 0 = ([.ok "a", .ok "b"], 1) ∧
      (bulk.withConfig .empty).batch .empty ["a", "b"] 0 = ([.ok "a", .ok "b"], 2) ∧
      ¬ ∀ caller inputs s, (bulk.withConfig .empty).batch caller inputs s =
        bulk.batch .empty inputs s := by
  refine ⟨rfl, rfl, fun h => ?_⟩
  have hcalls : 2 = 1 := congrArg Prod.snd (h .empty ["a", "b"] 0)
  omega

end Runnable

end RetrievalKit
