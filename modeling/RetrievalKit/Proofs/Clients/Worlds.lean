import RetrievalKit.Cohere.Chat
import RetrievalKit.Cohere.Embed
import RetrievalKit.Cohere.Rerank
import RetrievalKit.HuggingFace.Embed
import RetrievalKit.HuggingFace.Endpoint
import RetrievalKit.Proofs.Surreal.Operation
import RetrievalKit.Proofs.Wire.Simulation

/-!
# Clients in two worlds

Every client is made of requests and of what it makes of the replies, so over two backends that
answer the same it does the same.  Each lemma follows the steps of one call.

* `Surreal.Store.agree_perform` — the operations of a store;
* `Cohere.Reranker.agree_rerank`, `Cohere.Embed.agree_embedder`, `Cohere.Chat.agree_chat`,
  `Cohere.Chat.agree_streamChat` — the Cohere clients;
* `HuggingFace.Embed.agree_embedder`, `HuggingFace.Endpoint.agree_generate`, `agree_stream`,
  `agree_chat`, `agree_streamChat` — the Hugging Face clients.
-/

namespace RetrievalKit

open Surreal (Session)

variable {σ τ : Type} {R : σ → τ → Prop} {b : Backend σ} {b' : Backend τ}

/-! ## The store -/

namespace Surreal

/-- A call in two sessions carries the same number, and so is the same request. -/
theorem agree_query (hb : Backend.Agree R b b') (c : Config) (command : Command) :
    Action.Agree (Session.Related R) (query c b command) (query c b' command) :=
  agree_takeId.bind fun id =>
    (hb.send (callRequest c id command)).lift.bind fun reply => .liftExcept (statementResults reply)

namespace Store

variable {c : Config} {valid : c.validate = .ok ()} {e : Embedder (Session σ)}
  {e' : Embedder (Session τ)}

theorem agree_call {α : Type} (hb : Backend.Agree R b b') (check : Except Error Unit)
    (command : Command) (decode : List Json → Except Error α) :
    Action.Agree (Session.Related R) (call ⟨c, valid, b⟩ check command decode)
      (call ⟨c, valid, b'⟩ check command decode) :=
  (Action.Agree.liftExcept check).bind fun _ =>
    (agree_query hb c command).bind fun results => .liftExcept (decode results)

theorem ofConfig_of_invalid {e : Error} (h : c.validate = .error e) (b : Backend σ) :
    Store.ofConfig c b = .error e := by
  unfold Store.ofConfig
  split
  · rename_i hvalid
    rw [h] at hvalid
    cases hvalid
  · rename_i herror
    rw [h, Except.error.injEq] at herror
    rw [herror]

/-- What is done with a store is the same in both worlds if it is so for valid settings. -/
theorem agree_ofConfig {α : Type} {R' : Session σ → Session τ → Prop}
    {f : Store σ → Action (Session σ) α} {f' : Store τ → Action (Session τ) α}
    (h : ∀ valid, Action.Agree R' (f ⟨c, valid, b⟩) (f' ⟨c, valid, b'⟩)) :
    Action.Agree R' (liftExcept (Store.ofConfig c b) >>= f)
      (liftExcept (Store.ofConfig c b') >>= f') := by
  cases hvalid : c.validate with
  | error e =>
    rw [ofConfig_of_invalid hvalid, ofConfig_of_invalid hvalid]
    exact fun _ _ hst => ⟨rfl, hst⟩
  | ok _ =>
    rw [ofConfig_of_valid hvalid, ofConfig_of_valid hvalid]
    exact h hvalid

/-- **An operation of a store answers the same in both worlds.** -/
theorem agree_perform (hb : Backend.Agree R b b') (he : Embedder.Agree (Session.Related R) e e')
    (op : Operation) : Action.Agree (Session.Related R)
      (Store.perform ⟨c, valid, b⟩ e op) (Store.perform ⟨c, valid, b'⟩ e' op) := by
  rw [perform_eq, perform_eq]
  split
  · exact .pure op.idleAnswer
  · exact (op.agree_embedding he).bind fun vectors => agree_call hb _ _ _

end Store

end Surreal

/-! ## Cohere -/

namespace Cohere

theorem Reranker.agree_rerankWithScores (hb : Backend.Agree R b b') (c : RerankConfig)
    (query : String) (documents : List Document) (topN : Option Nat) :
    Action.Agree R (Reranker.rerankWithScores ⟨c, b⟩ query documents topN)
      (Reranker.rerankWithScores ⟨c, b'⟩ query documents topN) := by
  unfold Reranker.rerankWithScores
  dsimp only
  split
  · exact .pure []
  · exact (hb.send _).bind fun reply => .liftExcept (ranked documents reply)

theorem Reranker.agree_rerank (hb : Backend.Agree R b b') (c : RerankConfig) (query : String)
    (documents : List Document) (topN : Option Nat) :
    Action.Agree R (Reranker.rerank ⟨c, b⟩ query documents topN)
      (Reranker.rerank ⟨c, b'⟩ query documents topN) :=
  (agree_rerankWithScores hb c query documents topN).bind fun _ => .pure _

theorem Embed.agree_batch (hb : Backend.Agree R b b') (c : EmbedConfig) (texts : List String)
    (t : InputType) : Action.Agree R (batch c b texts t) (batch c b' texts t) := by
  unfold batch
  split
  · exact .pure []
  · exact (hb.send _).bind fun reply => .liftExcept (vectors reply)

theorem Embed.agree_embedder (hb : Backend.Agree R b b') (c : EmbedConfig) :
    Embedder.Agree R (embedder c b) (embedder c b') where
  embedDocuments texts := agree_batch hb c texts c.inputType
  embedQuery text := by
    refine (agree_batch hb c [text] c.queryInputType).bind fun found => ?_
    split
    · exact .pure _
    · exact .fail _ _

theorem Chat.agree_chat (hb : Backend.Agree R b b') (c : ChatConfig) (r : ChatRequest) :
    Action.Agree R (chat c b r) (chat c b' r) :=
  (hb.send (chatRequest c r false)).bind fun reply => .liftExcept (response reply)

theorem Chat.agree_streamChat (hb : Backend.Agree R b b') (c : ChatConfig) (r : ChatRequest) :
    Agree R (streamChat c b r) (streamChat c b' r) :=
  (hb.sendStream (chatRequest c r true)).readPieces _

end Cohere

/-! ## Hugging Face -/

namespace HuggingFace

theorem Embed.agree_batch (hb : Backend.Agree R b b') (c : EmbedConfig) (texts : List String) :
    Action.Agree R (batch c b texts) (batch c b' texts) := by
  unfold batch
  split
  · exact .pure []
  · exact (hb.send _).bind fun reply => .liftExcept (vectors reply)

theorem Embed.agree_embedder (hb : Backend.Agree R b b') (c : EmbedConfig) :
    Embedder.Agree R (embedder c b) (embedder c b') where
  embedDocuments texts := agree_batch hb c texts
  embedQuery text := by
    refine (agree_batch hb c [text]).bind fun found => ?_
    split
    · exact .pure _
    · exact .fail _ _

namespace Endpoint

variable {c : EndpointConfig} {url : String} {token : Option String}
  {headers : List (String × String)}

theorem agree_streamWith (hb : Backend.Agree R b b') (prompt : String) (params : Dict) :
    Agree R (streamWith ⟨c, url, token, headers, b⟩ prompt params)
      (streamWith ⟨c, url, token, headers, b'⟩ prompt params) :=
  (hb.sendStream _).readPieces _

theorem agree_generateWith (hb : Backend.Agree R b b') (prompt : String) (params : Dict) :
    Action.Agree R (generateWith ⟨c, url, token, headers, b⟩ prompt params)
      (generateWith ⟨c, url, token, headers, b'⟩ prompt params) := by
  unfold generateWith
  split
  · exact (agree_streamWith hb prompt params).bind fun items => .pure (joined items)
  · exact (hb.send _).bind fun reply => (Action.Agree.liftExcept _).bind fun text => .pure _

theorem agree_generate (hb : Backend.Agree R b b') (prompt : String) (stop : List String) :
    Action.Agree R (generate ⟨c, url, token, headers, b⟩ prompt stop)
      (generate ⟨c, url, token, headers, b'⟩ prompt stop) :=
  agree_generateWith hb prompt _

theorem agree_stream (hb : Backend.Agree R b b') (prompt : String) (stop : List String) :
    Agree R (stream ⟨c, url, token, headers, b⟩ prompt stop)
      (stream ⟨c, url, token, headers, b'⟩ prompt stop) :=
  agree_streamWith hb prompt _

theorem agree_chat (hb : Backend.Agree R b b') (r : ChatRequest) :
    Action.Agree R (chat ⟨c, url, token, headers, b⟩ r) (chat ⟨c, url, token, headers, b'⟩ r) :=
  (agree_generateWith hb _ _).bind fun _ => .pure _

theorem agree_streamChat (hb : Backend.Agree R b b') (r : ChatRequest) :
    Agree R (streamChat ⟨c, url, token, headers, b⟩ r)
      (streamChat ⟨c, url, token, headers, b'⟩ r) :=
  (agree_streamWith hb _ _).map Chunk.ofContent

/-- The settings make an endpoint over both backends, or over neither. -/
theorem ofConfig_cases (env : Environment) (c : EndpointConfig) (b : Backend σ) (b' : Backend τ) :
    (∃ e, ofConfig env c b = .error e ∧ ofConfig env c b' = .error e) ∨
      ∃ url token headers, ofConfig env c b = .ok ⟨c, url, token, headers, b⟩ ∧
        ofConfig env c b' = .ok ⟨c, url, token, headers, b'⟩ := by
  unfold ofConfig
  cases c.checkModelKwargs with
  | error e => exact Or.inl ⟨e, rfl, rfl⟩
  | ok _ =>
    cases c.serverHeaders with
    | error e => exact Or.inl ⟨e, rfl, rfl⟩
    | ok headers =>
      cases c.resolveUrl (env.get? "HF_INFERENCE_ENDPOINT") with
      | error e => exact Or.inl ⟨e, rfl, rfl⟩
      | ok url => exact Or.inr ⟨url, _, headers, rfl, rfl⟩

/-- What is done with an endpoint is the same in both worlds if it is so for the same settings. -/
theorem agree_ofConfig {α : Type} (env : Environment) (c : EndpointConfig)
    {R' : Session σ → Session τ → Prop} {f : Endpoint σ → Action (Session σ) α}
    {f' : Endpoint τ → Action (Session τ) α}
    (h : ∀ url token headers, Action.Agree R' (f ⟨c, url, token, headers, b⟩)
      (f' ⟨c, url, token, headers, b'⟩)) :
    Action.Agree R' (liftExcept (ofConfig env c b) >>= f)
      (liftExcept (ofConfig env c b') >>= f') := by
  rcases ofConfig_cases env c b b' with ⟨e, he, he'⟩ | ⟨url, token, headers, he, he'⟩
  · rw [he, he']
    exact fun _ _ hst => ⟨rfl, hst⟩
  · rw [he, he']
    exact h url token headers

end Endpoint

end HuggingFace

end RetrievalKit
