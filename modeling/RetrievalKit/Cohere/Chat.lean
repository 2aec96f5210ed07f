import RetrievalKit.Chat.Model
import RetrievalKit.Cohere.Api
import RetrievalKit.Json.Reader
import RetrievalKit.Sse.Decoder

/-!
# Cohere chat

* `Chat.body` — the request, the same for an answer at once and for a stream but for one flag;
* `Chat.response` — the answer in a reply;
* `Chat.chunks` — the chunks in a stream of events: one for each piece of text, one for the usage
  at the end of the message, and nothing after that or after an error.
-/

namespace RetrievalKit.Cohere

/-- The settings of a chat model. -/
structure ChatConfig where
  apiKey : String
  model : String
  baseUrl : String
  temperature : Option Double
  maxTokens : Option UInt32

namespace ChatConfig

def new (apiKey : String) : ChatConfig :=
  ⟨apiKey, "command-r-plus-08-2024", defaultBaseUrl, none, none⟩

def ofEnvironment (env : Environment) : Except Error ChatConfig :=
  (apiKeyOfEnvironment env).map new

def withModel (model : String) (c : ChatConfig) : ChatConfig := { c with model := model }

def withBaseUrl (url : String) (c : ChatConfig) : ChatConfig := { c with baseUrl := url }

def withTemperature (t : Double) (c : ChatConfig) : ChatConfig := { c with temperature := some t }

def withMaxTokens (n : UInt32) (c : ChatConfig) : ChatConfig := { c with maxTokens := some n }

end ChatConfig

namespace Chat

variable {σ : Type}

/-! ## Requests -/

/-- The provider's name for a role. -/
def roleName : Message → String
  | .system .. => "system"
  | .human .. => "user"
  | .assistant .. => "assistant"

/-- A message in a request. -/
def messageJson (m : Message) : Json :=
  Json.ofEntries [("role", .str (roleName m)), ("content", .str m.content)]

/-- The body of a request; settings of the call take the place of the model's. -/
def body (c : ChatConfig) (r : ChatRequest) (stream : Bool) : Json :=
  Json.ofEntries
    ([("model", .str c.model), ("messages", .arr (r.messages.map messageJson)),
      ("stream", .bool stream)] ++
      Json.entryIfSome "temperature" .float (r.temperature.or c.temperature) ++
      Json.entryIfSome "max_tokens" Json.ofWord32 (r.maxTokens.or c.maxTokens) ++
      if r.stop.isEmpty then [] else [("stop_sequences", Json.ofStrings r.stop)])

def chatRequest (c : ChatConfig) (r : ChatRequest) (stream : Bool) : Request :=
  request c.baseUrl "chat" c.apiKey (body c r stream)

/-! ## Answers -/

/-- A token count; what is no natural number counts as zero, and only 32 bits are kept. -/
def tokenCount (v : Json) : UInt32 := UInt32.ofNat (v.asNat?.getD 0)

/-- The usage in a reply: the exact counts, else the billed ones. -/
def usage? (v : Json) : Option TokenUsage :=
  let counts := ((v.field "tokens").asObject?).or ((v.field "billed_units").asObject?)
  counts.map fun fields =>
    .ofCounts (tokenCount ((Json.obj fields).field "input_tokens"))
      (tokenCount ((Json.obj fields).field "output_tokens"))

/-- The text of an answer: the texts of its parts, joined. -/
def contentText (v : Json) : String :=
  String.join ((v.asArray?.getD []).filterMap fun part => (part.field "text").asString?)

/-- The message in the body of a reply. -/
def message (v : Json) : Message :=
  let metadata := match v.get? "finish_reason" with
    | some reason => [("finish_reason", reason)]
    | none => []
  .assistant (contentText ((v.field "message").field "content")) (v.field "id").asString? metadata

/-- The answer in a reply. -/
def response (reply : Reply) : Except Error ChatResponse := do
  checkReply "chat" .model reply
  pure ⟨message reply.body, usage? (reply.body.field "usage")⟩

/-! ## Streams -/

/-- What an event of a stream means. -/
inductive StreamEvent where
  /-- A piece of text. -/
  | text (content : String)
  /-- The end of the message. -/
  | ending (usage : Option TokenUsage)
  /-- Anything else. -/
  | other

/-- The meaning of an event with these data. -/
def streamEvent (data : String) : Except Error StreamEvent :=
  match Json.parse? data with
  | none => .error ⟨.parsing, "Cohere stream event: no JSON text"⟩
  | some v =>
    match (v.field "type").asString? with
    | some "content-delta" =>
      let delta := (((v.field "delta").field "message").field "content").field "text"
      .ok (.text (delta.asString?.getD ""))
    | some "message-end" => .ok (.ending (usage? ((v.field "delta").field "usage")))
    | _ => .ok .other

/-- The chunks in a list of events.  Empty texts yield no chunk; the end of the message yields
one if the usage is known, and nothing follows it or an error. -/
def chunks : List (Except Error String) → List (Except Error Chunk)
  | [] => []
  | .error e :: _ => [.error e]
  | .ok data :: rest =>
    match streamEvent data with
    | .error e => [.error e]
    | .ok (.text content) =>
      if content = "" then chunks rest else .ok (.ofContent content) :: chunks rest
    | .ok (.ending (some usage)) => [.ok ⟨"", some usage⟩]
    | .ok (.ending none) => []
    | .ok .other => chunks rest

/-! ## The model -/

def chat (c : ChatConfig) (backend : Backend σ) (r : ChatRequest) : Action σ ChatResponse := do
  let reply ← backend.send (chatRequest c r false)
  liftExcept (response reply)

def streamChat (c : ChatConfig) (backend : Backend σ) (r : ChatRequest) : Drain σ Chunk :=
  (backend.sendStream (chatRequest c r true)).readPieces fun pieces => chunks (Sse.events pieces)

/-- The chat model with these settings. -/
def model (c : ChatConfig) (backend : Backend σ) : ChatModel σ :=
  ⟨chat c backend, streamChat c backend⟩

end Chat

end RetrievalKit.Cohere
