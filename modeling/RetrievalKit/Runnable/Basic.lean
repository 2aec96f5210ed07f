import RetrievalKit.RunConfig
import RetrievalKit.Wire.Basic

/-!
# Steps

A step takes an input to an output under a run configuration: once (`invoke`), for each of several
inputs (`batch`), or with a stream of outputs (`stream`).

* `Runnable.ofInvoke` — the step that is given by `invoke` alone: a batch runs the inputs one after
  another, a stream yields the one output;
* `Runnable.andThen` — the output of one step is the input of the next; the stream is that of the
  last step;
* `Runnable.withConfig` — a step that always runs under one configuration.
-/

namespace RetrievalKit

/-- A step from `α` to `β` in the world `σ`. -/
structure Runnable (σ α β : Type) where
  invoke : RunConfig → α → Action σ β
  batch : RunConfig → List α → Drain σ β
  stream : RunConfig → α → Drain σ β

namespace Runnable

variable {σ α β γ : Type}

/-- Runs an action on each input, one after another; a failure does not keep the others from
running. -/
def inSequence (invoke : α → Action σ β) : List α → Drain σ β
  | [], s => ([], s)
  | a :: rest, s =>
    let r := (invoke a).run s
    let later := inSequence invoke rest r.2
    (r.1 :: later.1, later.2)

/-- The step with this effect and this stream. -/
def ofInvokeAndStream (invoke : RunConfig → α → Action σ β)
    (stream : RunConfig → α → Drain σ β) : Runnable σ α β where
  invoke := invoke
  batch config inputs := inSequence (invoke config) inputs
  stream := stream

/-- The step with this effect. -/
def ofInvoke (invoke : RunConfig → α → Action σ β) : Runnable σ α β :=
  ofInvokeAndStream invoke fun config input => Drain.ofAction (invoke config input)

/-- The step that applies an action, whatever the configuration. -/
def lambda (f : α → Action σ β) : Runnable σ α β := ofInvoke fun _ => f

/-- The step that passes its input on. -/
def passthrough : Runnable σ α α := lambda pure

/-- Two steps, one after the other. -/
def andThen (first : Runnable σ α β) (second : Runnable σ β γ) : Runnable σ α γ :=
  ofInvokeAndStream
    (fun config input => do
      let between ← first.invoke config input
      second.invoke config between)
    (fun config input s =>
      match (first.invoke config input).run s with
      | (.ok between, s) => second.stream config between s
      | (.error e, s) => ([.error e], s))

/-- The step under one configuration, whatever the caller's. -/
def withConfig (config : RunConfig) (step : Runnable σ α β) : Runnable σ α β :=
  ofInvokeAndStream (fun _ => step.invoke config) (fun _ => step.stream config)

end Runnable

end RetrievalKit
