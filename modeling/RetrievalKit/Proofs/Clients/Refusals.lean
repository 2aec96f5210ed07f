import RetrievalKit.Proofs.Clients.Retried
import RetrievalKit.Proofs.Wire.Journal

/-!
# Failed replies

What a client makes of a reply with a status of 400 or more.  Each client reads statuses in its own
way, and all come to the same: such a reply ends the call, which fails with a rate limit for status
429 and with the client's own kind of error for every other status.

* `Refusal` — the error that a failed reply stands for;
* `Client.Refuses` — a decoder that refuses failed replies so;
* `Action.Heeds` — an action in which a failed reply is the last exchange, and its error the
  outcome, with one lemma for each way to build actions;
* `Clients.heeds_perform` — so it is with every call of every client;
* `Clients.refuses_perform` — which the journal that shows the replies does not change.
-/

namespace RetrievalKit

open Surreal (Session)

/-! ## The error of a failed reply -/

namespace Client

/-- The kind of error that failed replies are to a client, apart from rate limits. -/
def errorKind : Client → ErrorKind
  | .store => .vectorStore
  | .reranker => .reranker
  | .cohereEmbeddings | .huggingFaceEmbeddings => .embedding
  | .cohereChat | .endpoint => .model

/-- The field in which the provider of a client explains a failure; two clients know of none. -/
def explanationKey : Client → Option String
  | .reranker | .cohereEmbeddings | .cohereChat => some "message"
  | .endpoint => some "error"
  | .store | .huggingFaceEmbeddings => none

theorem errorKind_ne_rateLimit (client : Client) : client.errorKind ≠ .rateLimit := by
  cases client <;> decide

end Client

/-- What a body says about a failure, if the explanation has its field. -/
inductive Json.Explains (key : String) : Json → String → Prop
  /-- A body that is a text is the explanation. -/
  | text (s : String) : Explains key (.str s) s
  /-- Else the explanation is the text in the field. -/
  | field {body : Json} {s : String} : (∀ t, body ≠ .str t) → body.get? key = some (.str s) →
      Explains key body s
  /-- Without one it is the whole body, printed as JSON. -/
  | whole {body : Json} : (∀ t, body ≠ .str t) → (∀ s, body.get? key ≠ some (.str s)) →
      Explains key body body.render

/-- The error that a failed reply to a client stands for. -/
structure Refusal (client : Client) (reply : Reply) (err : Error) : Prop where
  rateLimit_iff : err.kind = .rateLimit ↔ reply.status = 429
  kind : reply.status ≠ 429 → err.kind = client.errorKind
  /-- The text ends with what the body says. -/
  text : ∀ key, client.explanationKey = some key →
    ∃ before said, err.text = before ++ said ∧ reply.body.Explains key said

theorem Json.explains_explanation (key : String) (body : Json) :
    body.Explains key (body.explanation key) := by
  by_cases htext : ∃ t, body = .str t
  · obtain ⟨t, rfl⟩ := htext
    exact .text t
  · have hother : ∀ t, body ≠ .str t := fun t ht => htext ⟨t, ht⟩
    have hexplanation : body.explanation key =
        (((body.get? key).bind Json.asString?).getD body.render) := by
      rw [← read_field asString? rfl]
      unfold Json.explanation
      split
      · rename_i t
        exact absurd rfl (hother t)
      · rfl
    rw [hexplanation]
    cases hfound : (body.get? key).bind Json.asString? with
    | none =>
      refine .whole hother fun s hs => ?_
      rw [hs] at hfound
      cases hfound
    | some s =>
      obtain ⟨v, hv, hstring⟩ := Option.bind_eq_some_iff.mp hfound
      rw [asString?_eq_some_iff.mp hstring] at hv
      exact .field hother hv

/-! ## Decoders -/

section Decoders

variable {α β : Type} {client : Client}

/-- A decoder makes of every failed reply the error that it stands for. -/
def Client.Refuses (client : Client) (decode : Reply → Except Error α) : Prop :=
  ∀ reply : Reply, 400 ≤ reply.status → ∃ err, decode reply = .error err ∧ Refusal client reply err

/-- What is read after a check is not read from a failed reply. -/
theorem Client.Refuses.bind {check : Reply → Except Error α} (h : client.Refuses check)
    (read : Reply → α → Except Error β) :
    client.Refuses fun reply => check reply >>= read reply := by
  intro reply hfailed
  obtain ⟨err, hcheck, hrefusal⟩ := h reply hfailed
  refine ⟨err, ?_, hrefusal⟩
  show check reply >>= read reply = .error err
  rw [hcheck]
  rfl

/-- The check of a service, with the explanation that the client's provider gives. -/
theorem Client.refuses_check {explain : Json → String}
    (hexplain : ∀ key, client.explanationKey = some key → explain = Json.explanation key)
    (service : String) : client.Refuses (Reply.check service client.errorKind explain) := by
  intro reply hfailed
  have hcheck : reply.check service client.errorKind explain =
      if reply.status = 429 then .error ⟨.rateLimit, explain reply.body⟩
      else .error ⟨client.errorKind,
        service ++ " API error (" ++ toString reply.status ++ "): " ++ explain reply.body⟩ := by
    simp [Reply.check, Reply.isFailure, Reply.tooManyRequests, hfailed]
  have hsays : ∀ before key, client.explanationKey = some key →
      ∃ start said, before ++ explain reply.body = start ++ said ∧
        reply.body.Explains key said := fun before key hkey =>
    ⟨before, explain reply.body, rfl, hexplain key hkey ▸ reply.body.explains_explanation key⟩
  rw [hcheck]
  split
  · rename_i hlimit
    exact ⟨_, rfl, by simp [hlimit], fun h => absurd hlimit h, by simpa using hsays ""⟩
  · rename_i hother
    exact ⟨_, rfl, by simp [hother, client.errorKind_ne_rateLimit], fun _ => rfl, hsays _⟩

/-- The database's own reading of statuses, which looks at the body as well. -/
theorem Surreal.refuses_statementResults : Client.store.Refuses statementResults := by
  intro reply hfailed
  have herror : ∃ err, replyError? reply = some err ∧ (err.kind = .rateLimit ↔ reply.status = 429) ∧
      (reply.status ≠ 429 → err.kind = .vectorStore) := by
    unfold replyError? Reply.tooManyRequests Reply.isFailure
    split
    · rename_i hlimit
      exact ⟨_, rfl, by simp [hlimit], fun h => absurd hlimit h⟩
    · rename_i hother
      split
      · exact ⟨_, rfl, by simp [hother], fun _ => rfl⟩
      · split
        · exact ⟨_, rfl, by simp [hother], fun _ => rfl⟩
        · rw [decide_eq_true hfailed, if_pos rfl]
          exact ⟨_, rfl, by simp [hother], fun _ => rfl⟩
  obtain ⟨err, hreply, hlimit, hkind⟩ := herror
  exact ⟨err, by rw [statementResults, hreply], hlimit, hkind, nofun⟩

end Decoders

/-! ## Actions -/

section Actions

variable {σ ω ε α β : Type}

/-- What only looks at an outcome may do so inside the session or outside. -/
theorem Surreal.Session.lift_bind_liftExcept (a : Action σ α) (f : α → Except Error β) :
    (Session.lift a >>= fun x => liftExcept (f x)) =
      Session.lift (a >>= fun x => liftExcept (f x)) := by
  refine funext fun w => ?_
  have hleft := Action.run_bind_liftExcept (Session.lift a) f w
  have hright := Action.run_bind_liftExcept a f w.world
  show _ = (((a >>= fun x => liftExcept (f x)).run w.world).1,
    ({ w with world := ((a >>= fun x => liftExcept (f x)).run w.world).2 } : Session σ))
  rw [hright]
  exact hleft

/-- A failed reply is the last of these exchanges, and the outcome is the error that it stands for
to the client that it was sent to, which is one of these. -/
def Heeded (clients : List Client) (new : List (Client × Exchange)) (outcome : Except Error α) :
    Prop :=
  ∀ x ∈ new, ∀ reply : Reply, x.2.outcome = .ok reply → 400 ≤ reply.status →
    new.getLast? = some x ∧ x.1 ∈ clients ∧ ∃ err, outcome = .error err ∧ Refusal x.1 reply err

/-- Every failed reply that an action gets is heeded.  The journal of its world notes each exchange
with the client that makes it. -/
def Action.Heeds (entries : ω → List (Client × Exchange)) (clients : List Client)
    (a : Action ω α) : Prop :=
  ∀ w, ∃ new, entries (a.run w).2 = entries w ++ new ∧ Heeded clients new (a.run w).1

/-- The journal of a session. -/
def Surreal.Session.entries (w : Session (Journal (Client × Exchange) σ)) :
    List (Client × Exchange) :=
  w.world.entries

namespace Action.Heeds

variable {entries : ω → List (Client × Exchange)} {clients : List Client}

/-- An action that makes no exchange. -/
theorem of_silent {a : Action ω α} (h : ∀ w, entries (a.run w).2 = entries w) :
    a.Heeds entries clients :=
  fun w => ⟨[], by rw [h, List.append_nil], nofun⟩

theorem pure (x : α) : Action.Heeds entries clients (Pure.pure x) :=
  .of_silent fun _ => rfl

theorem liftExcept (r : Except Error α) :
    Action.Heeds entries clients (RetrievalKit.liftExcept r) :=
  .of_silent fun _ => rfl

theorem fail (kind : ErrorKind) (text : String) :
    Action.Heeds entries clients (RetrievalKit.fail kind text : Action ω α) :=
  .of_silent fun _ => rfl

/-- After a failed reply nothing follows, because the first action fails with it. -/
theorem bind {a : Action ω α} (h : a.Heeds entries clients) {f : α → Action ω β}
    (hf : ∀ x, (f x).Heeds entries clients) : (a >>= f).Heeds entries clients := by
  intro w
  obtain ⟨new, hnew, hheeded⟩ := h w
  rcases hrun : a.run w with ⟨err | x, w'⟩
  · rw [run_bind_of_error hrun]
    rw [hrun] at hnew hheeded
    refine ⟨new, hnew, fun y hy reply hreply hfailed => ?_⟩
    obtain ⟨hlast, hclient, err', herr, hrefusal⟩ := hheeded y hy reply hreply hfailed
    cases herr
    exact ⟨hlast, hclient, err, rfl, hrefusal⟩
  · rw [run_bind_of_ok hrun]
    rw [hrun] at hnew hheeded
    obtain ⟨rest, hrest, hheeded'⟩ := hf x w'
    refine ⟨new ++ rest, by rw [hrest, hnew, List.append_assoc], ?_⟩
    intro y hy reply hreply hfailed
    rcases List.mem_append.mp hy with hy | hy
    · obtain ⟨-, -, err, herr, -⟩ := hheeded y hy reply hreply hfailed
      cases herr
    · obtain ⟨hlast, hrefused⟩ := hheeded' y hy reply hreply hfailed
      exact ⟨by rw [List.getLast?_append, hlast, Option.some_or], hrefused⟩

theorem mono {a : Action ω α} (h : a.Heeds entries clients) {others : List Client}
    (hsub : clients ⊆ others) : a.Heeds entries others := by
  intro w
  obtain ⟨new, hnew, hheeded⟩ := h w
  refine ⟨new, hnew, fun x hx reply hreply hfailed => ?_⟩
  obtain ⟨hlast, hclient, hrefused⟩ := hheeded x hx reply hreply hfailed
  exact ⟨hlast, hsub hclient, hrefused⟩

/-- A request of a client whose reply is decoded at once. -/
theorem send {client : Client} {decode : Reply → Except Error α} (h : client.Refuses decode)
    (b : Backend σ) (request : Request) :
    Action.Heeds Journal.entries [client]
      ((b.journaling client).send request >>= fun reply =>
        RetrievalKit.liftExcept (decode reply)) := by
  intro j
  rw [run_bind_liftExcept]
  refine ⟨[(client, ⟨request, ((b.send request).run j.world).1⟩)], rfl, ?_⟩
  intro x hx reply hreply hfailed
  cases List.mem_singleton.mp hx
  obtain ⟨err, hdecode, hrefusal⟩ := h reply hfailed
  have hreply' : ((b.send request).run j.world).1 = .ok reply := hreply
  refine ⟨rfl, List.mem_singleton_self client, err, ?_, hrefusal⟩
  show ((b.send request).run j.world).1 >>= decode = .error err
  rw [hreply']
  exact hdecode

theorem lift {a : Action (Journal (Client × Exchange) σ) α}
    (h : a.Heeds Journal.entries clients) :
    Action.Heeds Session.entries clients (Session.lift a) :=
  fun w => h w.world

end Action.Heeds

/-- The stream that an action opens makes no exchange if the action makes none. -/
theorem Action.entries_readPieces {opening : Action ω (List Piece)} {entries : ω → List ε}
    (h : ∀ w, entries (opening.run w).2 = entries w) (read : List Piece → List (Except Error α))
    (w : ω) : entries ((opening.readPieces read) w).2 = entries w := by
  have hw := h w
  unfold Action.readPieces
  split
  · rename_i hrun
    rwa [hrun] at hw
  · rename_i hrun
    rwa [hrun] at hw

/-- All failed replies are heeded while texts are embedded. -/
structure Embedder.Heeds (clients : List Client)
    (e : Embedder (Journal (Client × Exchange) σ)) : Prop where
  embedDocuments : ∀ texts, (e.embedDocuments texts).Heeds Journal.entries clients
  embedQuery : ∀ text, (e.embedQuery text).Heeds Journal.entries clients

end Actions

/-! ## Clients -/

section Clients

variable {σ : Type} (b : Backend σ)

namespace Cohere

theorem Reranker.heeds_rerankWithScores (c : RerankConfig) (query : String)
    (documents : List Document) (topN : Option Nat) :
    (Reranker.rerankWithScores ⟨c, b.journaling .reranker⟩ query documents topN).Heeds
      Journal.entries [.reranker] := by
  unfold Reranker.rerankWithScores
  dsimp only
  split
  · exact .pure []
  · exact .send ((Client.reranker.refuses_check (by simp [Client.explanationKey]) _).bind _) b _

theorem Reranker.heeds_rerank (c : RerankConfig) (query : String) (documents : List Document)
    (topN : Option Nat) :
    (Reranker.rerank ⟨c, b.journaling .reranker⟩ query documents topN).Heeds
      Journal.entries [.reranker] :=
  (heeds_rerankWithScores b c query documents topN).bind fun _ => .pure _

theorem Embed.heeds_batch (c : EmbedConfig) (texts : List String) (t : InputType) :
    (batch c (b.journaling .cohereEmbeddings) texts t).Heeds Journal.entries
      [.cohereEmbeddings] := by
  unfold batch
  split
  · exact .pure []
  · exact .send ((Client.cohereEmbeddings.refuses_check (by simp [Client.explanationKey]) _).bind _)
      b _

theorem Embed.heeds_embedder (c : EmbedConfig) :
    (embedder c (b.journaling .cohereEmbeddings)).Heeds [.cohereEmbeddings] where
  embedDocuments texts := heeds_batch b c texts c.inputType
  embedQuery text := by
    refine (heeds_batch b c [text] c.queryInputType).bind fun found => ?_
    split
    · exact .pure _
    · exact .fail _ _

theorem Chat.heeds_chat (c : ChatConfig) (r : ChatRequest) :
    (chat c (b.journaling .cohereChat) r).Heeds Journal.entries [.cohereChat] :=
  .send ((Client.cohereChat.refuses_check (by simp [Client.explanationKey]) _).bind _) b _

end Cohere

namespace HuggingFace

theorem Embed.heeds_batch (c : EmbedConfig) (texts : List String) :
    (batch c (b.journaling .huggingFaceEmbeddings) texts).Heeds Journal.entries
      [.huggingFaceEmbeddings] := by
  unfold batch
  split
  · exact .pure []
  · exact .send ((Client.huggingFaceEmbeddings.refuses_check (by simp [Client.explanationKey])
      _).bind _) b _

theorem Embed.heeds_embedder (c : EmbedConfig) :
    (embedder c (b.journaling .huggingFaceEmbeddings)).Heeds [.huggingFaceEmbeddings] where
  embedDocuments texts := heeds_batch b c texts
  embedQuery text := by
    refine (heeds_batch b c [text]).bind fun found => ?_
    split
    · exact .pure _
    · exact .fail _ _

/-- What an endpoint streams is no exchange. -/
theorem Endpoint.entries_streamWith (c : EndpointConfig) (url : String) (token : Option String)
    (headers : List (String × String)) (prompt : String) (params : Dict)
    (j : Journal (Client × Exchange) σ) :
    ((streamWith ⟨c, url, token, headers, b.journaling .endpoint⟩ prompt params)
      j).2.entries = j.entries :=
  Action.entries_readPieces (fun _ => rfl) _ j

/-- An endpoint that generates through its stream makes no exchange; else it decodes its one
reply. -/
theorem Endpoint.heeds_generateWith (c : EndpointConfig) (url : String) (token : Option String)
    (headers : List (String × String)) (prompt : String) (params : Dict) :
    (generateWith ⟨c, url, token, headers, b.journaling .endpoint⟩ prompt params).Heeds
      Journal.entries [.endpoint] := by
  unfold generateWith
  split
  · exact .of_silent (entries_streamWith b c url token headers prompt params)
  · rw [← bind_assoc]
    refine Action.Heeds.bind ?_ fun text => .pure _
    exact .send ((Client.endpoint.refuses_check (by simp [Client.explanationKey]) _).bind _) b _

end HuggingFace

namespace Surreal

/-- A call takes a number, which is no exchange, and decodes its one reply. -/
theorem Store.heeds_run {c : Config} {valid : c.validate = .ok ()} (command : Command) :
    (Store.run ⟨c, valid, b.journaling .store⟩ command).Heeds Session.entries
      [.store] := by
  have htake : Action.Heeds (Session.entries (σ := σ)) [.store] takeId :=
    .of_silent fun _ => rfl
  refine htake.bind fun id => ?_
  rw [Session.lift_bind_liftExcept]
  exact (Action.Heeds.send refuses_statementResults b (callRequest c id command)).lift

theorem Operation.heeds_embedding {e : Embedder (Journal (Client × Exchange) σ)}
    {clients : List Client} (he : e.Heeds clients) (op : Operation) :
    (op.embedding e.inSession).Heeds Session.entries clients := by
  have hquery : ∀ text, Action.Heeds Session.entries clients
      (e.inSession.embedQuery text >>= fun vector => pure [vector]) :=
    fun text => (he.embedQuery text).lift.bind fun vector => .pure [vector]
  cases op with
  | ensureIndex | deleteTable | delete | getByIds => exact .pure []
  | addDocuments documents => exact (he.embedDocuments _).lift
  | similaritySearch text _ => exact hquery text
  | similaritySearchWithScore text _ => exact hquery text
  | similaritySearchWithFilter text _ _ => exact hquery text
  | similaritySearchByVector vector _ => exact .pure [vector]

/-- An operation heeds the replies of the database and those of its embedder. -/
theorem Store.heeds_perform {c : Config} {valid : c.validate = .ok ()}
    {e : Embedder (Journal (Client × Exchange) σ)} {clients : List Client}
    (he : e.Heeds clients) (op : Operation) :
    (Store.perform ⟨c, valid, b.journaling .store⟩ e.inSession op).Heeds Session.entries
      (.store :: clients) := by
  rw [perform_eq]
  split
  · exact .pure op.idleAnswer
  · refine ((op.heeds_embedding he).mono (List.subset_cons_self _ _)).bind fun vectors => ?_
    refine Action.Heeds.bind (.liftExcept _) fun _ => ?_
    refine ((heeds_run b _).mono (by simp)).bind fun results => .liftExcept _

end Surreal

end Clients

/-! ## Calls -/

/-- The clients that may send requests for vectors. -/
def VectorSource.clients : VectorSource → List Client
  | .cohere => [.cohereEmbeddings]
  | .huggingFace => [.huggingFaceEmbeddings]
  | .given .. => []

/-- The clients that may send requests in a call. -/
def ClientCall.clients : ClientCall → List Client
  | .store source _ => .store :: source.clients
  | .rerank .. | .rerankWithScores .. => [.reranker]
  | .embedDocuments source _ | .embedQuery source _ => source.clients
  | .cohereChat _ | .cohereStream _ => [.cohereChat]
  | .generate .. | .stream .. | .endpointChat _ | .endpointStream _ => [.endpoint]

namespace Clients

variable {σ : Type} (c : Clients) (backend : Nat → Backend σ)

/-- The clients with a slot for each, also where two of them share a backend. -/
def apart : Clients :=
  { c with slot := Client.ctorIdx }

/-- The backends of the clients in these slots, which note the exchanges of the client. -/
def journaling (slot : Nat) : Backend (Journal (Client × Exchange) σ) :=
  (backend (c.slot (.ofNat slot))).journaling (.ofNat slot)

/-- What the clients do does not depend on the slots of their backends. -/
theorem perform_apart (call : ClientCall) :
    c.apart.perform (fun slot => backend (c.slot (.ofNat slot))) call = c.perform backend call := by
  cases call with
  | store source op => cases source <;> rfl
  | embedDocuments source texts => cases source <;> rfl
  | embedQuery source text => cases source <;> rfl
  | _ => rfl

theorem heeds_embedder (source : VectorSource) :
    (c.apart.embedder (c.journaling backend) source).Heeds source.clients := by
  cases source with
  | cohere => exact Cohere.Embed.heeds_embedder (backend _) c.cohereEmbeddings
  | huggingFace => exact HuggingFace.Embed.heeds_embedder (backend _) c.huggingFaceEmbeddings
  | given documents query => exact ⟨fun _ => .liftExcept _, fun _ => .liftExcept _⟩

/-- What is done with an endpoint heeds failed replies if it does with every endpoint. -/
theorem heeds_withEndpoint {α : Type} {clients : List Client}
    {use : HuggingFace.Endpoint (Journal (Client × Exchange) σ) →
      Action (Session (Journal (Client × Exchange) σ)) α}
    (h : ∀ url token headers,
      (use ⟨c.endpoint, url, token, headers, c.journaling backend (c.apart.slot .endpoint)⟩).Heeds
        Session.entries clients) :
    (c.apart.withEndpoint (c.journaling backend) use).Heeds Session.entries clients := by
  unfold withEndpoint
  rcases HuggingFace.Endpoint.ofConfig_cases c.apart.environment c.apart.endpoint
      (c.journaling backend (c.apart.slot .endpoint))
      (c.journaling backend (c.apart.slot .endpoint)) with
    ⟨err, herror, -⟩ | ⟨url, token, headers, hok, -⟩
  · rw [herror]
    exact .of_silent fun _ => rfl
  · rw [hok]
    exact h url token headers

/-- A stream that is drained makes no exchange if it makes none in its world. -/
theorem heeds_drained {α : Type} {items : Drain (Journal (Client × Exchange) σ) α}
    (h : ∀ j, (items j).2.entries = j.entries) (clients : List Client) :
    (Session.drained items).Heeds Session.entries clients :=
  .of_silent fun w => h w.world

/-- **Every call heeds failed replies.** -/
theorem heeds_perform (call : ClientCall) :
    (c.apart.perform (c.journaling backend) call).Heeds Session.entries call.clients := by
  cases call with
  | store source op =>
    cases hvalid : c.apart.store.validate with
    | error err =>
      unfold perform
      rw [Surreal.Store.ofConfig_of_invalid hvalid]
      exact .of_silent fun _ => rfl
    | ok _ =>
      unfold perform
      rw [Surreal.Store.ofConfig_of_valid hvalid]
      exact (Surreal.Store.heeds_perform (backend _) (heeds_embedder c backend source) op).bind
        fun _ => .pure _
  | rerank query documents topN =>
    exact (Cohere.Reranker.heeds_rerank (backend _) c.reranker query documents topN).lift.bind
      fun _ => .pure _
  | rerankWithScores query documents topN =>
    exact (Cohere.Reranker.heeds_rerankWithScores (backend _) c.reranker query documents
      topN).lift.bind fun _ => .pure _
  | embedDocuments source texts =>
    exact ((heeds_embedder c backend source).embedDocuments texts).lift.bind fun _ => .pure _
  | embedQuery source text =>
    exact ((heeds_embedder c backend source).embedQuery text).lift.bind fun _ => .pure _
  | cohereChat r =>
    exact (Cohere.Chat.heeds_chat (backend _) c.cohereChat r).lift.bind fun _ => .pure _
  | cohereStream r =>
    exact (heeds_drained (Action.entries_readPieces (fun _ => rfl) _) _).bind fun _ => .pure _
  | generate prompt stop =>
    refine heeds_withEndpoint c backend fun url token headers => ?_
    exact (HuggingFace.Endpoint.heeds_generateWith (backend _) c.endpoint url token headers
      prompt _).lift.bind fun _ => .pure _
  | stream prompt stop =>
    refine heeds_withEndpoint c backend fun url token headers => ?_
    exact (heeds_drained (HuggingFace.Endpoint.entries_streamWith (backend _) c.endpoint url
      token headers prompt _) _).bind fun _ => .pure _
  | endpointChat r =>
    refine heeds_withEndpoint c backend fun url token headers => ?_
    refine Action.Heeds.bind (Action.Heeds.lift ?_) fun _ => .pure _
    exact (HuggingFace.Endpoint.heeds_generateWith (backend _) c.endpoint url token headers
      _ _).bind fun _ => .pure _
  | endpointStream r =>
    refine heeds_withEndpoint c backend fun url token headers => ?_
    -- The chunks of a chat are the texts of the stream, put into another form.
    refine (heeds_drained (fun j => ?_) _).bind fun _ => .pure _
    exact HuggingFace.Endpoint.entries_streamWith (backend _) c.endpoint url token headers
      (HuggingFace.Endpoint.promptOf r.messages) _ j

/-- **Failed replies are errors of one kind.**  Whatever backends the clients have and whatever
became of earlier calls, a reply with a status of 400 or more that a call gets is the last exchange
of the call, and the call fails with the error that the reply stands for to the client it was sent
to: a rate limit exactly for status 429, otherwise the client's kind of error, with a text that ends
with the provider's explanation where the client looks for one.  The journal that shows the replies
changes nothing. -/
theorem refuses_perform (call : ClientCall) (w : Session (Journal (Client × Exchange) σ)) :
    let r := (c.apart.perform (c.journaling backend) call).run w
    (c.perform backend call).run w.unnoted = (r.1, r.2.unnoted) ∧
    ∃ new, r.2.world.entries = w.world.entries ++ new ∧
      ∀ x ∈ new, ∀ reply : Reply, x.2.outcome = .ok reply → 400 ≤ reply.status →
        new.getLast? = some x ∧ x.1 ∈ call.clients ∧
          ∃ err, r.1 = .error err ∧ Refusal x.1 reply err := by
  intro r
  have hbackends : ∀ slot, Backend.Agree Journal.IsOf (c.journaling backend slot)
      (backend (c.slot (.ofNat slot))) := fun _ => Backend.agree_journaling _ _
  have hagree := agree_perform (c := c.apart) hbackends call
  rw [perform_apart] at hagree
  exact ⟨Session.run_unnoted hagree w, heeds_perform c backend call w⟩

/-- A chat with a provider that is asked too often, and says so in a field that is not looked at:
the text is the whole body. -/
theorem refuses_perform_limited :
    let c : Clients :=
      { environment := .empty
        store := .new "http://localhost:8000" "ns" "db" "documents"
        reranker := .new "key", cohereEmbeddings := .new "key", cohereChat := .new "key"
        endpoint := .standard
        huggingFaceEmbeddings := .new .empty "org/model"
        slot := fun _ => 0 }
    let reply : Reply := ⟨429, .obj [("error", .str "slow")]⟩
    let b : Nat → Backend Unit := fun _ => ⟨fun _ => pure reply, fun _ => pure []⟩
    let r := (c.perform b (.cohereChat (.ofMessages []))).run (.start ())
    ∃ err, r.1 = .error err ∧ Refusal .cohereChat reply err ∧
      err = ⟨.rateLimit, "\x7b\"error\":\"slow\"\x7d"⟩ := by
  intro c reply b r
  let call : ClientCall := .cohereChat (.ofMessages [])
  obtain ⟨hplain, new, hnew, hheeded⟩ := refuses_perform c b call (.start ⟨(), []⟩)
  have hentries : new = [(.cohereChat, ⟨Cohere.Chat.chatRequest c.cohereChat (.ofMessages []) false,
    .ok reply⟩)] := hnew.symm
  obtain ⟨-, -, err, herr, hrefusal⟩ :=
    hheeded _ (by rw [hentries]; exact List.mem_singleton_self _) reply rfl (by decide)
  have hr : r.1 = .error err := by rw [← herr]; exact congrArg Prod.fst hplain
  refine ⟨err, hr, hrefusal, ?_⟩
  have hlimit : r.1 = .error ⟨.rateLimit, "\x7b\"error\":\"slow\"\x7d"⟩ := by cbv
  rw [hr] at hlimit
  exact Except.error.inj hlimit

end Clients

end RetrievalKit
