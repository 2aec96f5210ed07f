import RetrievalKit.Cohere.Chat
import RetrievalKit.HuggingFace.Endpoint
import RetrievalKit.Proofs.Sse.Events
import RetrievalKit.Proofs.Sse.Reading
import RetrievalKit.Proofs.Wire.Action
import RetrievalKit.Wire.Bench

/-!
# Streams and the division of their bytes

A provider's bytes arrive in chunks of any size: a chunk may be empty, and it may end inside a
character, a line, a line end or an event.

* `Sse.events_eq_of_flatten_eq` — the same bytes are the same events;
* `streams_eq_of_flatten_eq` — hence the same items in every stream of a client.
-/

namespace RetrievalKit

/-- The same bytes, however divided, are the same events. -/
theorem Sse.events_eq_of_flatten_eq {chunks chunks' : List (List UInt8)}
    (h : chunks.flatten = chunks'.flatten) :
    Sse.events (chunks.map .ok) = Sse.events (chunks'.map .ok) := by
  obtain ⟨text, rest, htext⟩ := Utf8.exists_isText chunks.flatten
  calc Sse.events (chunks.map .ok)
      = (dispatched (completeLines text)).map .ok ++ leftover rest := events_of_isText htext
    _ = Sse.events (chunks'.map .ok) := (events_of_isText (h ▸ htext)).symm

/-- A request is answered by a stream of these chunks. -/
def Backend.Opens {σ : Type} (b : Backend σ) (request : Request) (s : σ)
    (chunks : List (List UInt8)) : Prop :=
  ((b.sendStream request).run s).1 = .ok (chunks.map .ok)

/-- The same endpoint over another backend. -/
def HuggingFace.Endpoint.over {σ τ : Type} (e : HuggingFace.Endpoint σ) (b : Backend τ) :
    HuggingFace.Endpoint τ :=
  ⟨e.config, e.url, e.token, e.extraHeaders, b⟩

section Division

variable {σ τ : Type} {b : Backend σ} {b' : Backend τ} {s : σ} {t : τ}
  {chunks chunks' : List (List UInt8)}

/-- What is read from the events of two streams with the same bytes is the same. -/
theorem readPieces_eq_of_flatten_eq {α : Type} {request : Request}
    (hopen : b.Opens request s chunks) (hopen' : b'.Opens request t chunks')
    (hbytes : chunks.flatten = chunks'.flatten)
    (read : List (Except Error String) → List (Except Error α)) :
    ((b.sendStream request).readPieces (fun pieces => read (Sse.events pieces)) s).1 =
      ((b'.sendStream request).readPieces (fun pieces => read (Sse.events pieces)) t).1 := by
  rw [Action.readPieces_of_ok hopen, Action.readPieces_of_ok hopen',
    Sse.events_eq_of_flatten_eq hbytes]

theorem HuggingFace.Endpoint.streamWith_eq_of_flatten_eq (e : HuggingFace.Endpoint σ)
    {prompt : String} {params : Dict}
    (hopen : e.backend.Opens (e.request prompt params true) s chunks)
    (hopen' : b'.Opens (e.request prompt params true) t chunks')
    (hbytes : chunks.flatten = chunks'.flatten) :
    (e.streamWith prompt params s).1 = ((e.over b').streamWith prompt params t).1 :=
  readPieces_eq_of_flatten_eq hopen hopen' hbytes _

/-- **What a stream yields does not depend on the division of its bytes into chunks.** -/
theorem streams_eq_of_flatten_eq (hbytes : chunks.flatten = chunks'.flatten) :
    (∀ (c : Cohere.ChatConfig) (r : ChatRequest),
      b.Opens (Cohere.Chat.chatRequest c r true) s chunks →
      b'.Opens (Cohere.Chat.chatRequest c r true) t chunks' →
      (Cohere.Chat.streamChat c b r s).1 = (Cohere.Chat.streamChat c b' r t).1) ∧
    (∀ (e : HuggingFace.Endpoint σ) (prompt : String) (stop : List String),
      let request := e.request prompt (e.invocationParams stop) true
      e.backend.Opens request s chunks → b'.Opens request t chunks' →
      (e.stream prompt stop s).1 = ((e.over b').stream prompt stop t).1) ∧
    (∀ (e : HuggingFace.Endpoint σ) (r : ChatRequest),
      let request := e.request (HuggingFace.Endpoint.promptOf r.messages) (e.chatParams r) true
      e.backend.Opens request s chunks → b'.Opens request t chunks' →
      (e.streamChat r s).1 = ((e.over b').streamChat r t).1) := by
  refine ⟨?_, ?_, ?_⟩
  · intro c r hopen hopen'
    exact readPieces_eq_of_flatten_eq hopen hopen' hbytes Cohere.Chat.chunks
  · intro e prompt stop request hopen hopen'
    exact e.streamWith_eq_of_flatten_eq hopen hopen' hbytes
  · intro e r request hopen hopen'
    exact congrArg (List.map (Except.map Chunk.ofContent))
      (e.streamWith_eq_of_flatten_eq hopen hopen' hbytes)

end Division

/-! ## An event, byte by byte -/

/-- The bytes of an event that both providers understand.  Its letter takes two bytes, and so does
each end of a line. -/
def accentBytes : List UInt8 :=
  ("data:\x7b\"type\":\"content-delta\",\"delta\":\x7b\"message\":\x7b\"content\":" ++
    "\x7b\"text\":\"é\"\x7d\x7d\x7d,\"token\":\x7b\"text\":\"é\"\x7d\x7d\r\n\r\n").toList.flatMap String.utf8EncodeChar

/-- A bench with one scripted stream of these chunks. -/
def chunkBench (chunks : List (List UInt8)) : Bench := ⟨[⟨[], [.ok (chunks.map .ok)], []⟩], [], 0⟩

/-- The event in one chunk, and each of its bytes in a chunk of its own. -/
theorem streams_eq_of_flatten_eq_accent :
    let c := Cohere.ChatConfig.new "key"
    let e : HuggingFace.Endpoint Bench := ⟨.standard, "http://x", none, [], Bench.backend 0⟩
    let r := ChatRequest.ofMessages [.ofHuman "x"]
    let whole := chunkBench [accentBytes]
    let single := chunkBench (accentBytes.map fun byte => [byte])
    ((Cohere.Chat.streamChat c (Bench.backend 0) r whole).1 =
        (Cohere.Chat.streamChat c (Bench.backend 0) r single).1 ∧
      (e.stream "x" [] whole).1 = ((e.over (Bench.backend 0)).stream "x" [] single).1 ∧
      (e.streamChat r whole).1 = ((e.over (Bench.backend 0)).streamChat r single).1) ∧
    (Cohere.Chat.streamChat c (Bench.backend 0) r whole).1 = [.ok (.ofContent "é")] ∧
      (e.stream "x" [] whole).1 = [.ok "é"] := by
  intro c e r whole single
  have hbytes : [accentBytes].flatten = (accentBytes.map fun byte => [byte]).flatten := by
    simp [← List.flatMap_def]
  obtain ⟨hcohere, hstream, hchat⟩ := @streams_eq_of_flatten_eq Bench Bench (Bench.backend 0)
    (Bench.backend 0) whole single _ _ hbytes
  exact ⟨⟨hcohere c r rfl rfl, hstream e "x" [] rfl rfl, hchat e r rfl rfl⟩,
    by decide +kernel, by decide +kernel⟩

end RetrievalKit
