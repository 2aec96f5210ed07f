import RetrievalKit.Proofs.Cohere.Stream
import RetrievalKit.Proofs.HuggingFace.StreamEnd
import RetrievalKit.Proofs.Sse.Events
import RetrievalKit.Proofs.Wire.Action
import RetrievalKit.Wire.Bench

/-!
# How streams end

Every stream of a client ends cleanly, whatever bytes and errors arrive: it yields parts, then at
most one item of another kind, and that is the last.

* `streams_endCleanly` — the chunks of both chat models, and the texts of an endpoint.
-/

namespace RetrievalKit

/-- **Streams fail at most once, and end cleanly.**  A Cohere chat yields pieces of text, and after
them nothing, one error, or the usage.  An endpoint yields texts, or chunks of them, and after them
at most one error.  If a stream cannot be opened, that error is all it yields.  A stream ends at
its first ending event: nothing that comes after it matters. -/
theorem streams_endCleanly (σ : Type) :
    (∀ (c : Cohere.ChatConfig) (b : Backend σ) (r : ChatRequest),
      Drain.EndsCleanly (b.sendStream (Cohere.Chat.chatRequest c r true))
        (fun chunk => chunk.content ≠ "" ∧ chunk.usage = none)
        (fun chunk => chunk.content = "" ∧ chunk.usage ≠ none)
        Cohere.Chat.IsEnding (Cohere.Chat.streamChat c b r)) ∧
    (∀ (e : HuggingFace.Endpoint σ) (prompt : String) (stop : List String),
      Drain.EndsCleanly
        (e.backend.sendStream (e.request prompt (e.invocationParams stop) true))
        (fun text => text ≠ "") (fun _ => False)
        (HuggingFace.IsEnding (HuggingFace.stopList (e.invocationParams stop)))
        (e.stream prompt stop)) ∧
    (∀ (e : HuggingFace.Endpoint σ) (r : ChatRequest),
      Drain.EndsCleanly
        (e.backend.sendStream
          (e.request (HuggingFace.Endpoint.promptOf r.messages) (e.chatParams r) true))
        (fun chunk => chunk.content ≠ "" ∧ chunk.usage = none) (fun _ => False)
        (HuggingFace.IsEnding (HuggingFace.stopList (e.chatParams r))) (e.streamChat r)) :=
  ⟨fun c b r => Cohere.Chat.streamChat_endsCleanly c b r,
    fun e prompt stop => e.stream_endsCleanly prompt stop, fun e r => e.streamChat_endsCleanly r⟩

/-- A bench with one scripted stream of events with these data. -/
def eventBench (data : List String) : Bench :=
  ⟨[⟨[], [.ok (data.map fun d => .ok (Sse.eventBytes d))], []⟩], [], 0⟩

/-- An event that is no JSON text ends a stream, whatever the next event is. -/
theorem streams_endCleanly_no_json :
    let c := Cohere.ChatConfig.new "key"
    let e : HuggingFace.Endpoint Bench := ⟨.standard, "http://x", none, [], Bench.backend 0⟩
    let r := ChatRequest.ofMessages [.ofHuman "x"]
    (Cohere.Chat.streamChat c (Bench.backend 0) r (eventBench ["<", "\x7b\x7d"])).1 =
        (Cohere.Chat.streamChat c (Bench.backend 0) r (eventBench ["<", ">"])).1 ∧
      (e.stream "x" [] (eventBench ["<", "\x7b\x7d"])).1 =
        (e.stream "x" [] (eventBench ["<", ">"])).1 := by
  intro c e r
  obtain ⟨hcohere, hstream, -⟩ := streams_endCleanly Bench
  have hbroken : Json.parse? "<" = none := by decide +kernel
  have hfirst : Sse.events (["<", "\x7b\x7d"].map fun d => .ok (Sse.eventBytes d)) =
      [] ++ .ok "<" :: [.ok "\x7b\x7d"] := by decide +kernel
  have hsecond : Sse.events (["<", ">"].map fun d => .ok (Sse.eventBytes d)) =
      [] ++ .ok "<" :: [.ok ">"] := by decide +kernel
  exact ⟨(hcohere c (Bench.backend 0) r).nothing_after _ _ _ _ _ _ _ _ rfl rfl hfirst hsecond
      (.noJson hbroken),
    (hstream e "x" []).nothing_after _ _ _ _ _ _ _ _ rfl rfl hfirst hsecond
      (.noJson (by decide +kernel) hbroken)⟩

end RetrievalKit
