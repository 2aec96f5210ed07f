import RetrievalKit.HuggingFace.Endpoint
import RetrievalKit.Proofs.Wire.Action
import RetrievalKit.Proofs.Wire.Recording

/-!
# What an endpoint sends

Each call of an endpoint is one request, whatever comes of it.

* `Endpoint.Call` — the four calls, as values;
* `Endpoint.requestOf` — the request that a call makes of its arguments;
* `Endpoint.Sends` — what a call sends over a backend that writes everything down;
* `Endpoint.after_eq` — a call does to its world what its request does;
* `Endpoint.sends_requestOf` — so it sends this request, once, and nothing else.
-/

namespace RetrievalKit.HuggingFace.Endpoint

variable {σ : Type}

/-- A call with its arguments. -/
inductive Call where
  | generate (prompt : String) (stop : List String)
  | stream (prompt : String) (stop : List String)
  | chat (r : ChatRequest)
  | streamChat (r : ChatRequest)

namespace Call

/-- The prompt that a call sends. -/
def prompt : Call → String
  | .generate prompt _ | .stream prompt _ => prompt
  | .chat r | .streamChat r => promptOf r.messages

/-- Whether a call is answered by a stream, as it always is if the settings say so. -/
def isStreamed (c : EndpointConfig) : Call → Bool
  | .generate .. | .chat _ => c.streaming
  | .stream .. | .streamChat _ => true

end Call

/-- The parameters that a call sends. -/
def paramsOf (e : Endpoint σ) : Call → Dict
  | .generate _ stop | .stream _ stop => e.invocationParams stop
  | .chat r | .streamChat r => e.chatParams r

/-- The request that a call makes of its arguments. -/
def requestOf (e : Endpoint σ) (call : Call) : Request :=
  e.request call.prompt (e.paramsOf call) (call.isStreamed e.config)

/-- The world after a call. -/
def after (e : Endpoint σ) (w : σ) : Call → σ
  | .generate prompt stop => ((e.generate prompt stop).run w).2
  | .stream prompt stop => (e.stream prompt stop w).2
  | .chat r => ((e.chat r).run w).2
  | .streamChat r => (e.streamChat r w).2

/-- The endpoint, with all that it sends written down. -/
def recorded (e : Endpoint σ) : Endpoint (Recorded σ) := { e with backend := e.backend.recording }

/-- A call sends one request, whatever the world is like, and nothing else. -/
def Sends (e : Endpoint σ) (call : Call) (request : Request) : Prop :=
  ∀ w : Recorded σ, (e.recorded.after w call).sent = w.sent ++ [request]

/-! ## Worlds -/

theorem streamWith_snd (e : Endpoint σ) (prompt : String) (params : Dict) (w : σ) :
    (e.streamWith prompt params w).2 =
      ((e.backend.sendStream (e.request prompt params true)).run w).2 :=
  Action.readPieces_snd _ _ w

/-- An endpoint that generates through its stream makes a text of the items of the stream. -/
theorem run_generateWith_of_streaming {e : Endpoint σ} (h : e.config.streaming = true)
    (prompt : String) (params : Dict) (w : σ) :
    (e.generateWith prompt params).run w =
      (joined (e.streamWith prompt params w).1, (e.streamWith prompt params w).2) := by
  rw [generateWith, if_pos h]
  rfl

theorem generateWith_snd (e : Endpoint σ) (prompt : String) (params : Dict) (w : σ) :
    ((e.generateWith prompt params).run w).2 =
      if e.config.streaming then
        ((e.backend.sendStream (e.request prompt params e.config.streaming)).run w).2
      else ((e.backend.send (e.request prompt params e.config.streaming)).run w).2 := by
  cases h : e.config.streaming with
  | true =>
    rw [run_generateWith_of_streaming h, streamWith_snd]
    rfl
  | false =>
    rw [generateWith, h, if_neg Bool.false_ne_true, ← bind_assoc, Action.run_bind_pure,
      Action.run_bind_liftExcept]
    rfl

/-- **A call does to its world what its request does.** -/
theorem after_eq (e : Endpoint σ) (w : σ) (call : Call) :
    e.after w call =
      if call.isStreamed e.config then ((e.backend.sendStream (e.requestOf call)).run w).2
      else ((e.backend.send (e.requestOf call)).run w).2 := by
  cases call with
  | generate prompt stop => exact generateWith_snd e _ _ w
  | stream prompt stop => exact streamWith_snd e _ _ w
  | chat r =>
    show ((e.generateWith _ _ >>= fun text => pure _).run w).2 = _
    rw [Action.run_bind_pure]
    exact generateWith_snd e _ _ w
  | streamChat r => exact streamWith_snd e _ _ w

/-- **A call sends its request, once, and nothing else.** -/
theorem sends_requestOf (e : Endpoint σ) (call : Call) : e.Sends call (e.requestOf call) := by
  intro w
  rw [after_eq]
  split
  · rfl
  · rfl

end RetrievalKit.HuggingFace.Endpoint
