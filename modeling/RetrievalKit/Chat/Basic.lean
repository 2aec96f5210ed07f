import RetrievalKit.Message

/-!
# Chat requests, responses and chunks

* `TokenUsage` — what a call cost, in 32-bit words;
* `Chunk` — a part of an assistant's message; `Chunk.append` joins two, the later usage winning;
* `ChatRequest`, `ChatResponse` — what goes into a chat model and what comes out.

Each has a JSON form (`toJson`, `ofJson?`).
-/

namespace RetrievalKit

/-! ## Usage -/

/-- Token counts of one call. -/
structure TokenUsage where
  input : UInt32
  output : UInt32
  total : UInt32
  deriving DecidableEq

namespace TokenUsage

/-- The usage with the total of both counts. -/
def ofCounts (input output : UInt32) : TokenUsage := ⟨input, output, input + output⟩

def toJson (u : TokenUsage) : Json :=
  Json.ofEntries
    [("input_tokens", Json.ofWord32 u.input), ("output_tokens", Json.ofWord32 u.output),
     ("total_tokens", Json.ofWord32 u.total)]

def ofJson? (v : Json) : Option TokenUsage := do
  let get ← v.record? ["input_tokens", "output_tokens", "total_tokens"] 3
  let input ← Field.required Field.word32? (get "input_tokens")
  let output ← Field.required Field.word32? (get "output_tokens")
  let total ← Field.required Field.word32? (get "total_tokens")
  some ⟨input, output, total⟩

end TokenUsage

/-! ## Chunks -/

/-- A part of an assistant's message. -/
structure Chunk where
  content : String
  usage : Option TokenUsage
  deriving DecidableEq

namespace Chunk

/-- The chunk that adds nothing. -/
def empty : Chunk := ⟨"", none⟩

def ofContent (content : String) : Chunk := ⟨content, none⟩

/-- Contents are joined; the usage of the later chunk counts if it has one. -/
def append (a b : Chunk) : Chunk := ⟨a.content ++ b.content, b.usage.or a.usage⟩

instance : Append Chunk := ⟨append⟩

theorem append_def (a b : Chunk) : a ++ b = ⟨a.content ++ b.content, b.usage.or a.usage⟩ := rfl

theorem empty_append (a : Chunk) : empty ++ a = a := by
  cases a; simp [append_def, empty]

theorem append_empty (a : Chunk) : a ++ empty = a := by
  cases a; simp [append_def, empty]

theorem append_assoc (a b c : Chunk) : a ++ b ++ c = a ++ (b ++ c) := by
  cases a; cases b; cases c; simp [append_def, String.append_assoc, Option.or_assoc]

/-- The chunks joined in order. -/
def sum (chunks : List Chunk) : Chunk := chunks.foldl (· ++ ·) empty

def toMessage (c : Chunk) : Message := .ofAssistant c.content

def toJson (c : Chunk) : Json :=
  Json.ofEntries
    ([("content", .str c.content)] ++ Json.entryIfSome "usage" TokenUsage.toJson c.usage)

def ofJson? (v : Json) : Option Chunk := do
  let get ← v.record? ["content", "usage"] 1
  let content ← Field.required Json.asString? (get "content")
  let usage ← Field.optional TokenUsage.ofJson? (get "usage")
  some ⟨content, usage⟩

end Chunk

/-! ## Requests -/

/-- What is asked of a chat model: the messages, and settings for this call. -/
structure ChatRequest where
  messages : List Message
  temperature : Option Double
  maxTokens : Option UInt32
  stop : List String

namespace ChatRequest

/-- A request without settings of its own. -/
def ofMessages (messages : List Message) : ChatRequest := ⟨messages, none, none, []⟩

def withTemperature (t : Double) (r : ChatRequest) : ChatRequest := { r with temperature := some t }

def withMaxTokens (n : UInt32) (r : ChatRequest) : ChatRequest := { r with maxTokens := some n }

def withStop (stop : List String) (r : ChatRequest) : ChatRequest := { r with stop := stop }

def toJson (r : ChatRequest) : Json :=
  Json.ofEntries
    ([("messages", .arr (r.messages.map Message.toJson))] ++
      Json.entryIfSome "temperature" .float r.temperature ++
      Json.entryIfSome "max_tokens" Json.ofWord32 r.maxTokens ++
      if r.stop.isEmpty then [] else [("stop", Json.ofStrings r.stop)])

def ofJson? (v : Json) : Option ChatRequest := do
  let get ← v.record? ["messages", "temperature", "max_tokens", "stop"] 1
  let messages ← Field.required (Field.list? Message.ofJson?) (get "messages")
  let temperature ← Field.optional Json.asDouble? (get "temperature")
  let maxTokens ← Field.optional Field.word32? (get "max_tokens")
  let stop ← Field.withDefault [] (Field.list? Json.asString?) (get "stop")
  some ⟨messages, temperature, maxTokens, stop⟩

end ChatRequest

/-! ## Responses -/

/-- A chat model's answer. -/
structure ChatResponse where
  message : Message
  usage : Option TokenUsage

namespace ChatResponse

/-- The whole answer as one chunk. -/
def toChunk (r : ChatResponse) : Chunk := ⟨r.message.content, r.usage⟩

/-- The usage is always written, null when unknown. -/
def toJson (r : ChatResponse) : Json :=
  Json.ofEntries
    [("message", r.message.toJson), ("usage", Json.ofOption TokenUsage.toJson r.usage)]

/-- An object may leave the usage out, an array may not. -/
def ofJson? (v : Json) : Option ChatResponse := do
  let get ← v.record? ["message", "usage"] 2
  let message ← Field.required Message.ofJson? (get "message")
  let usage ← Field.optional TokenUsage.ofJson? (get "usage")
  some ⟨message, usage⟩

end ChatResponse

end RetrievalKit
