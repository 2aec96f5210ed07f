import RetrievalKit.Proofs.Wire.Action
import RetrievalKit.Runnable.Adapters

/-!
# What an expression does

An expression puts steps one after another and fixes configurations, in any nesting.  Whatever its
brackets are, it does what its leaves do in a row, each under the configuration that is fixed
closest to it.

* `Expression.toRunnable` — the step that an expression makes;
* `Expression.row` — its leaves from left to right, with their configurations;
* `Row.Runs` — what a row of leaves does to one input, leaf by leaf;
* `Row.RunsEach` — what it does to several inputs;
* `Expression.does_row` — the three operations of the step are those of its row, and two
  expressions with one row make the same step.
-/

namespace RetrievalKit

variable {σ : Type}

/-! ## Expressions -/

/-- A batch is the inputs run one after another, and nothing else. -/
def Runnable.KeepsBatch {α β : Type} (step : Runnable σ α β) : Prop :=
  ∀ config inputs, step.batch config inputs = inSequence (step.invoke config) inputs

/-- A step that is not made of others. -/
inductive Leaf (σ : Type) : Type → Type → Type 1
  | lambda {α β : Type} (f : α → Action σ β) : Leaf σ α β
  | passthrough {α : Type} : Leaf σ α α
  | retriever (r : Retriever σ) (wanted : Nat) : Leaf σ String (List Document)
  | chatModel (m : ChatModel σ) : Leaf σ ChatRequest Message
  /-- Any other step without a batch of its own. -/
  | custom {α β : Type} (step : Runnable σ α β) (h : step.KeepsBatch) : Leaf σ α β

def Leaf.toRunnable {α β : Type} : Leaf σ α β → Runnable σ α β
  | .lambda f => .lambda f
  | .passthrough => .passthrough
  | .retriever r wanted => r.toRunnable wanted
  | .chatModel m => m.toRunnable
  | .custom step _ => step

/-- Steps put together. -/
inductive Expression (σ : Type) : Type → Type → Type 1
  | leaf {α β : Type} (l : Leaf σ α β) : Expression σ α β
  | andThen {α β γ : Type} (first : Expression σ α β) (second : Expression σ β γ) :
    Expression σ α γ
  | withConfig {α β : Type} (config : RunConfig) (e : Expression σ α β) : Expression σ α β

def Expression.toRunnable {α β : Type} : Expression σ α β → Runnable σ α β
  | .leaf l => l.toRunnable
  | .andThen first second => first.toRunnable.andThen second.toRunnable
  | .withConfig config e => e.toRunnable.withConfig config

theorem Leaf.keepsBatch {α β : Type} (l : Leaf σ α β) : l.toRunnable.KeepsBatch := by
  cases l with
  | lambda f => intro config inputs; rfl
  | passthrough => intro config inputs; rfl
  | retriever r wanted => intro config inputs; rfl
  | chatModel m => intro config inputs; rfl
  | custom step h => exact h

theorem Expression.keepsBatch {α β : Type} (e : Expression σ α β) : e.toRunnable.KeepsBatch := by
  cases e with
  | leaf l => exact l.keepsBatch
  | andThen first second => intro config inputs; rfl
  | withConfig config e => intro config inputs; rfl

/-! ## Rows of leaves -/

/-- Leaves one after another, each with the configuration that is fixed for it, if one is. -/
inductive Row (σ : Type) : Type → Type → Type 1
  | last {α β : Type} (fixed : Option RunConfig) (l : Leaf σ α β) : Row σ α β
  | cons {α β γ : Type} (fixed : Option RunConfig) (l : Leaf σ α β) (rest : Row σ β γ) : Row σ α γ

def Row.append {α β γ : Type} : Row σ α β → Row σ β γ → Row σ α γ
  | .last fixed l, row => .cons fixed l row
  | .cons fixed l rest, row => .cons fixed l (rest.append row)

theorem Row.append_assoc {α β γ δ : Type} (first : Row σ α β) (second : Row σ β γ)
    (third : Row σ γ δ) :
    (first.append second).append third = first.append (second.append third) := by
  induction first with
  | last fixed l => rfl
  | cons fixed l rest ih => simp only [append, ih]

/-- The leaves of an expression where this configuration is fixed around it, or none.  One that is
fixed inside the expression is closer to its leaves. -/
def Expression.row {α β : Type} (fixed : Option RunConfig) : Expression σ α β → Row σ α β
  | .leaf l => .last fixed l
  | .andThen first second => (first.row fixed).append (second.row fixed)
  | .withConfig config e => e.row (some config)

/-! ## What a row does -/

namespace Row

/-- How a row ends: what is asked of its last leaf, and what stands for the failure of a leaf
before that. -/
structure Ending (σ γ ω : Type) where
  last : {α : Type} → Leaf σ α γ → RunConfig → α → σ → ω × σ
  failed : Error → ω

/-- The row ends with the one output of its last leaf. -/
def Ending.invoke {γ : Type} : Ending σ γ (Except Error γ) where
  last l config a s := (l.toRunnable.invoke config a).run s
  failed := .error

/-- The row ends with the stream of its last leaf; an error in its place is the only item. -/
def Ending.stream {γ : Type} : Ending σ γ (List (Except Error γ)) where
  last l config a s := l.toRunnable.stream config a s
  failed e := [.error e]

/-- Every leaf but the last is invoked, one after another, each on the output of the leaf before it
and under its own configuration or else the caller's.  After a leaf that fails none is run. -/
inductive Runs {γ ω : Type} (ending : Ending σ γ ω) (caller : RunConfig) :
    {α : Type} → Row σ α γ → α → σ → ω → σ → Prop
  | last {α : Type} {fixed : Option RunConfig} {l : Leaf σ α γ} {a : α} {s s' : σ} {out : ω}
      (h : ending.last l (fixed.getD caller) a s = (out, s')) :
      Runs ending caller (.last fixed l) a s out s'
  | stop {α β : Type} {fixed : Option RunConfig} {l : Leaf σ α β} {rest : Row σ β γ} {a : α}
      {s s' : σ} {e : Error}
      (h : (l.toRunnable.invoke (fixed.getD caller) a).run s = (.error e, s')) :
      Runs ending caller (.cons fixed l rest) a s (ending.failed e) s'
  | step {α β : Type} {fixed : Option RunConfig} {l : Leaf σ α β} {rest : Row σ β γ} {a : α} {b : β}
      {s s' s'' : σ} {out : ω}
      (h : (l.toRunnable.invoke (fixed.getD caller) a).run s = (.ok b, s'))
      (hrest : Runs ending caller rest b s' out s'') :
      Runs ending caller (.cons fixed l rest) a s out s''

/-- The row runs on one input after another, whatever the outcomes, and each input has its own. -/
inductive RunsEach {α β : Type} (caller : RunConfig) (row : Row σ α β) :
    List α → σ → List (Except Error β) → σ → Prop
  | nil {s : σ} : RunsEach caller row [] s [] s
  | cons {a : α} {inputs : List α} {s s' s'' : σ} {out : Except Error β}
      {results : List (Except Error β)} (h : row.Runs .invoke caller a s out s')
      (hrest : RunsEach caller row inputs s' results s'') :
      RunsEach caller row (a :: inputs) s (out :: results) s''

variable {caller : RunConfig} {α β γ ω : Type} {ending : Ending σ γ ω}

/-- Where one row ends with an output, another can go on. -/
theorem Runs.append {first : Row σ α β} {second : Row σ β γ} {a : α} {b : β} {s s' s'' : σ}
    {out : ω} (h : first.Runs .invoke caller a s (.ok b) s')
    (h' : second.Runs ending caller b s' out s'') :
    (first.append second).Runs ending caller a s out s'' := by
  induction first generalizing s with
  | last fixed l =>
    cases h with
    | last hleaf => exact .step hleaf h'
  | cons fixed l rest ih =>
    cases h with
    | step hleaf hrest => exact .step hleaf (ih hrest h')

/-- Where one row fails, no other goes on. -/
theorem Runs.append_of_error {first : Row σ α β} {a : α} {s s' : σ} {e : Error}
    (h : first.Runs .invoke caller a s (.error e) s') (second : Row σ β γ) :
    (first.append second).Runs ending caller a s (ending.failed e) s' := by
  induction first generalizing s with
  | last fixed l =>
    cases h with
    | last hleaf => exact .stop hleaf
  | cons fixed l rest ih =>
    cases h with
    | stop hleaf => exact .stop hleaf
    | step hleaf hrest => exact .step hleaf (ih hrest second)

/-- A row does one thing only. -/
theorem Runs.unique {row : Row σ α γ} {a : α} {s s' s'' : σ} {out out' : ω}
    (h : row.Runs ending caller a s out s') (h' : row.Runs ending caller a s out' s'') :
    (out, s') = (out', s'') := by
  induction h with
  | last hleaf =>
    cases h' with
    | last hleaf' => exact hleaf.symm.trans hleaf'
  | stop hleaf =>
    cases h' with
    | stop hleaf' =>
      cases hleaf.symm.trans hleaf'
      rfl
    | step hleaf' hrest' => cases hleaf.symm.trans hleaf'
  | step hleaf hrest ih =>
    cases h' with
    | stop hleaf' => cases hleaf.symm.trans hleaf'
    | step hleaf' hrest' =>
      cases hleaf.symm.trans hleaf'
      exact ih hrest'

/-- What a row does is all it does. -/
theorem Runs.eq_iff {row : Row σ α γ} {a : α} {s : σ} {r : ω × σ}
    (h : row.Runs ending caller a s r.1 r.2) (out : ω) (s' : σ) :
    r = (out, s') ↔ row.Runs ending caller a s out s' := by
  constructor
  · rintro rfl
    exact h
  · intro h'
    exact h.unique h'

theorem RunsEach.unique {row : Row σ α β} {inputs : List α} {s s' s'' : σ}
    {results results' : List (Except Error β)} (h : row.RunsEach caller inputs s results s')
    (h' : row.RunsEach caller inputs s results' s'') : (results, s') = (results', s'') := by
  induction h generalizing results' with
  | nil =>
    cases h'
    rfl
  | cons hfirst hrest ih =>
    cases h' with
    | cons hfirst' hrest' =>
      cases hfirst.unique hfirst'
      cases ih hrest'
      rfl

theorem RunsEach.eq_iff {row : Row σ α β} {inputs : List α} {s : σ}
    {r : List (Except Error β) × σ} (h : row.RunsEach caller inputs s r.1 r.2)
    (results : List (Except Error β)) (s' : σ) :
    r = (results, s') ↔ row.RunsEach caller inputs s results s' := by
  constructor
  · rintro rfl
    exact h
  · intro h'
    exact h.unique h'

theorem RunsEach.length_eq {row : Row σ α β} {inputs : List α} {s s' : σ}
    {results : List (Except Error β)} (h : row.RunsEach caller inputs s results s') :
    results.length = inputs.length := by
  induction h with
  | nil => rfl
  | cons hfirst hrest ih => simp [ih]

end Row

/-! ## What an expression does -/

section Stream

variable {α β γ : Type} {first : Runnable σ α β} {config : RunConfig} {a : α} {s s' : σ}

theorem Runnable.stream_andThen_of_ok {b : β}
    (h : (first.invoke config a).run s = (.ok b, s')) (second : Runnable σ β γ) :
    (first.andThen second).stream config a s = second.stream config b s' := by
  simp only [andThen, ofInvokeAndStream, h]

theorem Runnable.stream_andThen_of_error {e : Error}
    (h : (first.invoke config a).run s = (.error e, s')) (second : Runnable σ β γ) :
    (first.andThen second).stream config a s = ([.error e], s') := by
  simp only [andThen, ofInvokeAndStream, h]

end Stream

namespace Expression

variable {α β : Type}

/-- Where a configuration is fixed around an expression, its step is invoked under it. -/
theorem runs_invoke (e : Expression σ α β) (caller : RunConfig) (fixed : Option RunConfig) (a : α)
    (s : σ) :
    let r := (e.toRunnable.invoke (fixed.getD caller) a).run s
    (e.row fixed).Runs .invoke caller a s r.1 r.2 := by
  induction e generalizing fixed s with
  | leaf l => exact .last rfl
  | andThen first second ihFirst ihSecond =>
    intro r
    have hfirst := ihFirst fixed a s
    have hr : r = (first.toRunnable.invoke (fixed.getD caller) a >>=
      second.toRunnable.invoke (fixed.getD caller)).run s := rfl
    rw [hr, Action.run_bind]
    rcases hrun : (first.toRunnable.invoke (fixed.getD caller) a).run s with ⟨err | b, s'⟩
    · rw [hrun] at hfirst
      exact hfirst.append_of_error _
    · rw [hrun] at hfirst
      exact hfirst.append (ihSecond fixed b s')
  | withConfig config e ih => exact ih (some config) a s

theorem runs_stream (e : Expression σ α β) (caller : RunConfig) (fixed : Option RunConfig) (a : α)
    (s : σ) :
    let r := e.toRunnable.stream (fixed.getD caller) a s
    (e.row fixed).Runs .stream caller a s r.1 r.2 := by
  induction e generalizing fixed s with
  | leaf l => exact .last rfl
  | andThen first second _ ihSecond =>
    intro r
    have hfirst := first.runs_invoke caller fixed a s
    have hr : r = (first.toRunnable.andThen second.toRunnable).stream (fixed.getD caller) a s := rfl
    rcases hrun : (first.toRunnable.invoke (fixed.getD caller) a).run s with ⟨err | b, s'⟩
    · rw [hrun] at hfirst
      rw [hr, Runnable.stream_andThen_of_error hrun]
      exact hfirst.append_of_error _
    · rw [hrun] at hfirst
      rw [hr, Runnable.stream_andThen_of_ok hrun]
      exact hfirst.append (ihSecond fixed b s')
  | withConfig config e ih => exact ih (some config) a s

theorem runsEach_batch (e : Expression σ α β) (caller : RunConfig) (inputs : List α) (s : σ) :
    let r := e.toRunnable.batch caller inputs s
    (e.row none).RunsEach caller inputs s r.1 r.2 := by
  rw [e.keepsBatch]
  induction inputs generalizing s with
  | nil => exact .nil
  | cons a inputs ih => exact .cons (e.runs_invoke caller none a s) (ih _)

/-- **Two expressions with one row make the same step.** -/
theorem toRunnable_eq_of_row {e e' : Expression σ α β} (h : e.row none = e'.row none) :
    e.toRunnable = e'.toRunnable := by
  have hinvoke : e.toRunnable.invoke = e'.toRunnable.invoke := by
    funext caller a s
    have hrun := e.runs_invoke caller none a s
    rw [h] at hrun
    exact hrun.unique (e'.runs_invoke caller none a s)
  have hbatch : e.toRunnable.batch = e'.toRunnable.batch := by
    funext caller inputs
    rw [e.keepsBatch, e'.keepsBatch, hinvoke]
  have hstream : e.toRunnable.stream = e'.toRunnable.stream := by
    funext caller a s
    have hrun := e.runs_stream caller none a s
    rw [h] at hrun
    exact hrun.unique (e'.runs_stream caller none a s)
  calc e.toRunnable
      = ⟨e.toRunnable.invoke, e.toRunnable.batch, e.toRunnable.stream⟩ := rfl
    _ = ⟨e'.toRunnable.invoke, e'.toRunnable.batch, e'.toRunnable.stream⟩ := by
        rw [hinvoke, hbatch, hstream]
    _ = e'.toRunnable := rfl

/-- **An expression does what its leaves do in a row.**  Invoked, it invokes them from left to right
until one fails; streamed, it yields the stream of the last one; a batch invokes it on each input in
turn and answers as many results.  So the brackets of an expression do not matter: all expressions
with the same leaves under the same configurations make the same step. -/
theorem does_row (e : Expression σ α β) (caller : RunConfig) :
    (∀ a s out s', (e.toRunnable.invoke caller a).run s = (out, s') ↔
      (e.row none).Runs .invoke caller a s out s') ∧
    (∀ a s items s', e.toRunnable.stream caller a s = (items, s') ↔
      (e.row none).Runs .stream caller a s items s') ∧
    (∀ inputs s results s', e.toRunnable.batch caller inputs s = (results, s') ↔
      (e.row none).RunsEach caller inputs s results s') ∧
    (∀ inputs s, (e.toRunnable.batch caller inputs s).1.length = inputs.length) ∧
    (∀ e' : Expression σ α β, e.row none = e'.row none → e.toRunnable = e'.toRunnable) ∧
    ∀ {γ δ : Type} (second : Expression σ β γ) (third : Expression σ γ δ),
      ((e.andThen second).andThen third).toRunnable =
        (e.andThen (second.andThen third)).toRunnable := by
  refine ⟨?_, ?_, ?_, ?_, fun e' h => toRunnable_eq_of_row h, ?_⟩
  · intro a s
    exact (e.runs_invoke caller none a s).eq_iff
  · intro a s
    exact (e.runs_stream caller none a s).eq_iff
  · intro inputs s
    exact (e.runsEach_batch caller inputs s).eq_iff
  · intro inputs s
    exact (e.runsEach_batch caller inputs s).length_eq
  · intro γ δ second third
    exact toRunnable_eq_of_row (Row.append_assoc _ _ _)

/-- A configuration around two steps goes to both of them, but not past one that is closer. -/
example (c d : RunConfig) (first : Leaf σ α β) (second : Leaf σ β α) :
    ((((leaf first).withConfig d).andThen (leaf second)).withConfig c).row none =
      .cons (some d) first (.last (some c) second) := rfl

end Expression

end RetrievalKit
