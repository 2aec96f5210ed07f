import RetrievalKit.Proofs.Clients.Worlds
import RetrievalKit.Proofs.Wire.Retrying

/-!
# Retrying does not show

A client over a retrying backend cannot tell that requests are repeated: it answers as it would if
the provider had only given the last outcome of each run of attempts.

* `Clients.perform` — the calls of all clients, as values;
* `Clients.agree_performEach` — over backends that answer the same, so do all calls;
* `Clients.run_performEach_retrying` — hence every sequence of calls answers the same with retries
  and without, numbers its calls the same, and sends the same requests, only more often.
-/

namespace RetrievalKit

open Surreal (Session)

/-! ## Calls -/

/-- The clients that speak to a provider. -/
inductive Client where
  | store
  | reranker
  | cohereEmbeddings
  | cohereChat
  | endpoint
  | huggingFaceEmbeddings
  deriving DecidableEq

/-- One client of each kind: their settings, and the slots of their providers. -/
structure Clients where
  environment : Environment
  store : Surreal.Config
  reranker : Cohere.RerankConfig
  cohereEmbeddings : Cohere.EmbedConfig
  cohereChat : Cohere.ChatConfig
  endpoint : HuggingFace.EndpointConfig
  huggingFaceEmbeddings : HuggingFace.EmbedConfig
  slot : Client → Nat

/-- Where vectors come from. -/
inductive VectorSource where
  | cohere
  | huggingFace
  /-- An embedder without a provider, which may fail. -/
  | given (documents : List String → Except Error (List Vector32))
    (query : String → Except Error Vector32)

/-- A call of a client with its arguments. -/
inductive ClientCall where
  | store (source : VectorSource) (op : Surreal.Operation)
  | rerank (query : String) (documents : List Document) (topN : Option Nat)
  | rerankWithScores (query : String) (documents : List Document) (topN : Option Nat)
  | embedDocuments (source : VectorSource) (texts : List String)
  | embedQuery (source : VectorSource) (text : String)
  | cohereChat (r : ChatRequest)
  | cohereStream (r : ChatRequest)
  | generate (prompt : String) (stop : List String)
  | stream (prompt : String) (stop : List String)
  | endpointChat (r : ChatRequest)
  | endpointStream (r : ChatRequest)

/-- What a call answers. -/
inductive ClientAnswer where
  | stored (answer : Surreal.Answer)
  | documents (documents : List Document)
  | scored (hits : List Scored)
  | vectors (vectors : List Vector32)
  | vector (vector : Vector32)
  | response (response : ChatResponse)
  | text (text : String)
  | texts (items : List (Except Error String))
  | chunks (items : List (Except Error Chunk))

/-- All items of a stream of the world, inside a session. -/
def Surreal.Session.drained {σ α : Type} (items : Drain σ α) :
    Action (Session σ) (List (Except Error α)) := ExceptT.mk do
  let items ← Session.onWorld items
  pure (.ok items)

namespace Clients

section Perform

variable {σ : Type} (c : Clients) (backend : Nat → Backend σ)

/-- The embedder that vectors come from. -/
def embedder : VectorSource → Embedder σ
  | .cohere => Cohere.Embed.embedder c.cohereEmbeddings (backend (c.slot .cohereEmbeddings))
  | .huggingFace =>
    HuggingFace.Embed.embedder c.huggingFaceEmbeddings (backend (c.slot .huggingFaceEmbeddings))
  | .given documents query => ⟨fun texts => liftExcept (documents texts),
    fun text => liftExcept (query text)⟩

/-- Uses the endpoint, if its settings are valid. -/
def withEndpoint {α : Type} (use : HuggingFace.Endpoint σ → Action (Session σ) α) :
    Action (Session σ) α := do
  let e ← liftExcept
    (HuggingFace.Endpoint.ofConfig c.environment c.endpoint (backend (c.slot .endpoint)))
  use e

/-- Makes a call. -/
def perform : ClientCall → Action (Session σ) ClientAnswer
  | .store source op => do
    let s ← liftExcept (Surreal.Store.ofConfig c.store (backend (c.slot .store)))
    let answer ← s.perform (c.embedder backend source).inSession op
    pure (.stored answer)
  | .rerank query documents topN => do
    let reranker : Cohere.Reranker σ := ⟨c.reranker, backend (c.slot .reranker)⟩
    let found ← Session.lift (reranker.rerank query documents topN)
    pure (.documents found)
  | .rerankWithScores query documents topN => do
    let reranker : Cohere.Reranker σ := ⟨c.reranker, backend (c.slot .reranker)⟩
    let hits ← Session.lift (reranker.rerankWithScores query documents topN)
    pure (.scored hits)
  | .embedDocuments source texts => do
    let vectors ← Session.lift ((c.embedder backend source).embedDocuments texts)
    pure (.vectors vectors)
  | .embedQuery source text => do
    let vector ← Session.lift ((c.embedder backend source).embedQuery text)
    pure (.vector vector)
  | .cohereChat r => do
    let answer ← Session.lift (Cohere.Chat.chat c.cohereChat (backend (c.slot .cohereChat)) r)
    pure (.response answer)
  | .cohereStream r => do
    let items ← Session.drained
      (Cohere.Chat.streamChat c.cohereChat (backend (c.slot .cohereChat)) r)
    pure (.chunks items)
  | .generate prompt stop => c.withEndpoint backend fun e => do
    let text ← Session.lift (e.generate prompt stop)
    pure (.text text)
  | .stream prompt stop => c.withEndpoint backend fun e => do
    let items ← Session.drained (e.stream prompt stop)
    pure (.texts items)
  | .endpointChat r => c.withEndpoint backend fun e => do
    let answer ← Session.lift (e.chat r)
    pure (.response answer)
  | .endpointStream r => c.withEndpoint backend fun e => do
    let items ← Session.drained (e.streamChat r)
    pure (.chunks items)

/-- Makes calls one after the other, whatever their outcomes. -/
def performEach (calls : List ClientCall) :
    StateM (Session σ) (List (Except Error ClientAnswer)) :=
  calls.mapM fun call => (c.perform backend call).run

end Perform

/-! ## Two worlds -/

section Worlds

variable {σ τ : Type} {R : σ → τ → Prop} {c : Clients} {b : Nat → Backend σ} {b' : Nat → Backend τ}

theorem agree_drained {α : Type} {items : Drain σ α} {items' : Drain τ α}
    (h : Agree R items items') :
    Action.Agree (Session.Related R) (Session.drained items) (Session.drained items') :=
  RetrievalKit.Agree.bind h.onWorld fun items => .pure (Except.ok items)

theorem agree_embedder (hb : ∀ slot, Backend.Agree R (b slot) (b' slot)) (source : VectorSource) :
    Embedder.Agree R (c.embedder b source) (c.embedder b' source) := by
  cases source with
  | cohere => exact Cohere.Embed.agree_embedder (hb _) _
  | huggingFace => exact HuggingFace.Embed.agree_embedder (hb _) _
  | given documents query => exact ⟨fun _ => .liftExcept _, fun _ => .liftExcept _⟩

/-- **A call answers the same over backends that do.** -/
theorem agree_perform (hb : ∀ slot, Backend.Agree R (b slot) (b' slot)) (call : ClientCall) :
    Action.Agree (Session.Related R) (c.perform b call) (c.perform b' call) := by
  cases call with
  | store source op =>
    refine Surreal.Store.agree_ofConfig fun valid => ?_
    exact (Surreal.Store.agree_perform (hb _) (agree_embedder hb source).inSession op).bind
      fun _ => .pure _
  | rerank query documents topN =>
    exact (Cohere.Reranker.agree_rerank (hb _) _ query documents topN).lift.bind fun _ => .pure _
  | rerankWithScores query documents topN =>
    exact (Cohere.Reranker.agree_rerankWithScores (hb _) _ query documents topN).lift.bind
      fun _ => .pure _
  | embedDocuments source texts =>
    exact ((agree_embedder hb source).embedDocuments texts).lift.bind fun _ => .pure _
  | embedQuery source text =>
    exact ((agree_embedder hb source).embedQuery text).lift.bind fun _ => .pure _
  | cohereChat r => exact (Cohere.Chat.agree_chat (hb _) _ r).lift.bind fun _ => .pure _
  | cohereStream r =>
    exact (agree_drained (Cohere.Chat.agree_streamChat (hb _) _ r)).bind fun _ => .pure _
  | generate prompt stop =>
    refine HuggingFace.Endpoint.agree_ofConfig _ _ fun url token headers => ?_
    exact (HuggingFace.Endpoint.agree_generate (hb _) prompt stop).lift.bind fun _ => .pure _
  | stream prompt stop =>
    refine HuggingFace.Endpoint.agree_ofConfig _ _ fun url token headers => ?_
    exact (agree_drained (HuggingFace.Endpoint.agree_stream (hb _) prompt stop)).bind
      fun _ => .pure _
  | endpointChat r =>
    refine HuggingFace.Endpoint.agree_ofConfig _ _ fun url token headers => ?_
    exact (HuggingFace.Endpoint.agree_chat (hb _) r).lift.bind fun _ => .pure _
  | endpointStream r =>
    refine HuggingFace.Endpoint.agree_ofConfig _ _ fun url token headers => ?_
    exact (agree_drained (HuggingFace.Endpoint.agree_streamChat (hb _) r)).bind fun _ => .pure _

/-- A sequence of calls answers the same over backends that do. -/
theorem agree_performEach (hb : ∀ slot, Backend.Agree R (b slot) (b' slot))
    (calls : List ClientCall) :
    Agree (Session.Related R) (c.performEach b calls) (c.performEach b' calls) :=
  .mapM (fun call => agree_perform hb call) calls

end Worlds

/-! ## Retries -/

/-- **Retrying does not show.**  For every script, every policy and every sequence of calls, calls
over retrying backends have the outcomes that they have over plain ones whose scripts keep only the
last entry of each run, and they use the same numbers.  They send the same requests in the same
order, each once or more, as often as the policy of its slot allows, and leave scripts with the
same outcomes to come.  Delays are whole milliseconds within the range of a duration, as for every
`RetryPolicy`. -/
theorem run_performEach_retrying (c : Clients) (policies : Nat → RetryPolicy)
    (calls : List ClientCall) (s : Session Bench) :
    let retrying := fun slot => (Bench.backend slot).retrying (policies slot) Bench.sleep
    let retried := (c.performEach retrying calls).run s
    let plain := (c.performEach Bench.backend calls).run
      { s with world := s.world.surviving policies }
    retried.1 = plain.1 ∧ retried.2.nextId = plain.2.nextId ∧
      (∃ sent : List (Attempt × Nat),
        plain.2.world.attempts = s.world.attempts ++ sent.map (·.1) ∧
        retried.2.world.attempts =
          s.world.attempts ++ sent.flatMap (fun e => List.replicate e.2 e.1) ∧
        ∀ e ∈ sent, 1 ≤ e.2 ∧ e.2 ≤ max 1 (policies e.1.slot).maxAttempts) ∧
      ∀ slot, plain.2.world.script slot =
        (retried.2.world.script slot).surviving (policies slot) := by
  intro retrying retried plain
  have hbackends : ∀ slot, Backend.Agree (Bench.Retried policies s.world.attempts)
      (Bench.backend slot) (retrying slot) := Bench.agree_retrying
  obtain ⟨houtcomes, hworlds, hid⟩ := agree_performEach (c := c) hbackends calls
    { s with world := s.world.surviving policies } s
    ⟨Bench.retried_surviving policies s.world, rfl⟩
  exact ⟨houtcomes.symm, hid.symm, hworlds.attempts, hworlds.script⟩

end Clients

end RetrievalKit
