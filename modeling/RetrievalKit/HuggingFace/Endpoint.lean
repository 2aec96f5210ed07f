import RetrievalKit.Chat.Model
import RetrievalKit.HuggingFace.Config
import RetrievalKit.HuggingFace.Stop
import RetrievalKit.Json.Reader
import RetrievalKit.Sse.Decoder
import RetrievalKit.Text.Blank
import RetrievalKit.Wire.Failure

/-!
# Text-generation endpoints

* `Endpoint.ofConfig` — the endpoint with valid settings, its address and headers resolved;
* `Endpoint.invocationParams` — the parameters of one call;
* `texts` — the texts in a stream of token events, up to the first stop sequence in a token;
* `Endpoint.generate`, `stream`, `chat`, `streamChat` — the calls.  A chat is the transcript of its
  messages as a prompt.
-/

namespace RetrievalKit.HuggingFace

/-- An endpoint over a backend. -/
structure Endpoint (σ : Type) where
  config : EndpointConfig
  url : String
  token : Option String
  extraHeaders : List (String × String)
  backend : Backend σ

/-! ## Replies -/

/-- The text in the body of a reply: in the body itself or in its first item. -/
def generatedText (body : Json) : Except Error String :=
  let item := match body with
    | .arr items => items.headD .null
    | v => v
  match (item.field "generated_text").asString? with
  | some text => .ok text
  | none => .error ⟨.parsing, "missing generated_text in response: " ++ body.render⟩

/-- The text in a reply. -/
def textOfReply (reply : Reply) : Except Error String := do
  reply.check "Hugging Face" .model (Json.explanation "error")
  generatedText reply.body

/-- The stop sequences among the parameters of a call; empty ones stop nothing. -/
def stopList (params : Dict) : List (List Char) :=
  let items := ((Dict.get? "stop" params).bind Json.asArray?).getD []
  ((items.filterMap Json.asString?).filter (· != "")).map String.toList

/-! ## Streams -/

/-- What an event of a stream means. -/
inductive TokenEvent where
  /-- A generated token. -/
  | token (text : String)
  /-- A token that is no text, or an event without data. -/
  | other

/-- The meaning of an event with these data. -/
def tokenEvent (data : String) : Except Error TokenEvent :=
  if Text.isBlank data then .ok .other
  else match Json.parse? data with
    | none => .error ⟨.parsing, "Hugging Face stream event: no JSON text"⟩
    | some v =>
      match (v.get? "error").bind Json.asString? with
      | some message => .error ⟨.model, "Hugging Face stream error: " ++ message⟩
      | none =>
        let token := v.field "token"
        if (token.field "special").asBool? = some true then .ok .other
        else .ok (.token ((token.field "text").asString?.getD ""))

/-- The item that a token yields, unless nothing of it is left. -/
def textItem (text : List Char) : List (Except Error String) :=
  if text.isEmpty then [] else [.ok (String.ofList text)]

/-- The texts in a list of events.  Each token is cut at its first stop sequence, and nothing
follows a token that has one, or an error. -/
def texts (stops : List (List Char)) : List (Except Error String) → List (Except Error String)
  | [] => []
  | .error e :: _ => [.error e]
  | .ok data :: rest =>
    match tokenEvent data with
    | .error e => [.error e]
    | .ok .other => texts stops rest
    | .ok (.token text) =>
      match cutAtStop stops text.toList with
      | (before, true) => textItem before
      | (before, false) => textItem before ++ texts stops rest

/-- The items of a stream as one text, or its first error. -/
def joined : List (Except Error String) → Except Error String
  | [] => .ok ""
  | .error e :: _ => .error e
  | .ok text :: rest => (joined rest).map (text ++ ·)

namespace Endpoint

variable {σ : Type}

/-- The endpoint with these settings, if they are valid. -/
def ofConfig (env : Environment) (c : EndpointConfig) (backend : Backend σ) :
    Except Error (Endpoint σ) := do
  c.checkModelKwargs
  let headers ← c.serverHeaders
  let url ← c.resolveUrl (env.get? "HF_INFERENCE_ENDPOINT")
  pure ⟨c, url, c.apiToken.or (tokenOfEnvironment env), headers, backend⟩

/-! ## Parameters -/

/-- The parameters of the settings, without the stop sequences. -/
def settings (c : EndpointConfig) : List (String × Json) :=
  [("max_new_tokens", Json.ofWord32 c.maxNewTokens)] ++
    Json.entryIfSome "top_k" Json.ofWord32 c.topK ++
    Json.entryIfSome "top_p" .float c.topP ++
    Json.entryIfSome "typical_p" .float c.typicalP ++
    Json.entryIfSome "temperature" .float c.temperature ++
    Json.entryIfSome "repetition_penalty" .float c.repetitionPenalty ++
    Json.entryIfSome "truncate" Json.ofWord32 c.truncate ++
    Json.entryIfSome "seed" (fun n => .int n.toNat) c.seed ++
    [("return_full_text", .bool c.returnFullText), ("do_sample", .bool c.doSample),
     ("watermark", .bool c.watermark)]

/-- The stop sequences that an extra parameter `stop` stands for, or those of the settings. -/
def baseStops (c : EndpointConfig) : List Json :=
  match Dict.get? "stop" c.modelKwargs with
  | some (.arr items) => items
  | some (.str s) => [.str s]
  | some _ => []
  | none => c.stopSequences.map .str

/-- The parameters of a call with further stop sequences. -/
def invocationParams (e : Endpoint σ) (stop : List String) : Dict :=
  let params := Dict.overlay (Dict.ofList (settings e.config)) e.config.modelKwargs
  params.insert "stop" (.arr (baseStops e.config ++ stop.map .str))

/-- The parameters of a chat: those of a call, with the request's own settings. -/
def chatParams (e : Endpoint σ) (r : ChatRequest) : Dict :=
  (e.invocationParams r.stop).overlay
    (Json.entryIfSome "temperature" .float r.temperature ++
      Json.entryIfSome "max_new_tokens" Json.ofWord32 r.maxTokens)

/-! ## Calls -/

/-- The request of a call. -/
def request (e : Endpoint σ) (prompt : String) (params : Dict) (stream : Bool) : Request :=
  { url := e.url
    headers := [("Content-Type", "application/json")] ++ tokenHeader e.token ++ e.extraHeaders
    body := Json.ofEntries
      [("inputs", .str prompt), ("parameters", .obj params), ("stream", .bool stream)] }

/-- Streams the texts generated with these parameters. -/
def streamWith (e : Endpoint σ) (prompt : String) (params : Dict) : Drain σ String :=
  (e.backend.sendStream (e.request prompt params true)).readPieces fun pieces =>
    texts (stopList params) (Sse.events pieces)

/-- Generates a text with these parameters, through the stream if the settings say so. -/
def generateWith (e : Endpoint σ) (prompt : String) (params : Dict) : Action σ String :=
  if e.config.streaming then ExceptT.mk do
    let items ← e.streamWith prompt params
    pure (joined items)
  else do
    let reply ← e.backend.send (e.request prompt params false)
    let text ← liftExcept (textOfReply reply)
    pure (String.ofList (stripStops (stopList params) text.toList))

/-- Generates the continuation of a prompt. -/
def generate (e : Endpoint σ) (prompt : String) (stop : List String) : Action σ String :=
  e.generateWith prompt (e.invocationParams stop)

/-- Streams the continuation of a prompt. -/
def stream (e : Endpoint σ) (prompt : String) (stop : List String) : Drain σ String :=
  e.streamWith prompt (e.invocationParams stop)

/-- The prompt of a chat. -/
def promptOf (messages : List Message) : String := Message.transcript "Human" "AI" messages

def chat (e : Endpoint σ) (r : ChatRequest) : Action σ ChatResponse := do
  let text ← e.generateWith (promptOf r.messages) (e.chatParams r)
  pure ⟨.ofAssistant text, none⟩

def streamChat (e : Endpoint σ) (r : ChatRequest) : Drain σ Chunk :=
  (e.streamWith (promptOf r.messages) (e.chatParams r)).map Chunk.ofContent

/-- The endpoint as a chat model. -/
def toChatModel (e : Endpoint σ) : ChatModel σ := ⟨e.chat, e.streamChat⟩

end Endpoint

end RetrievalKit.HuggingFace
