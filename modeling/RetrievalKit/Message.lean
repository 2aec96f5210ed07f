import RetrievalKit.Json.Record

/-!
# Chat messages

A message has one of three roles; only the assistant's messages carry response metadata.  The
JSON form names the role in the field `role`, or as the first item of the array spelling.

* `Message.toJson`, `Message.ofJson?` — the JSON form; an absent identifier and empty metadata
  are not written;
* `Message.transcript` — messages as plain text, one line each.
-/

namespace RetrievalKit

/-- A chat message. -/
inductive Message where
  | system (content : String) (id : Option String)
  | human (content : String) (id : Option String)
  | assistant (content : String) (id : Option String) (responseMetadata : Dict)

namespace Message

/-- A system message without an identifier. -/
def ofSystem (content : String) : Message := .system content none

/-- A human message without an identifier. -/
def ofHuman (content : String) : Message := .human content none

/-- An assistant message without identifier and metadata. -/
def ofAssistant (content : String) : Message := .assistant content none []

def content : Message → String
  | .system c _ => c
  | .human c _ => c
  | .assistant c _ _ => c

def id? : Message → Option String
  | .system _ i => i
  | .human _ i => i
  | .assistant _ i _ => i

/-- The name of the role in the JSON form. -/
def role : Message → String
  | .system .. => "system"
  | .human .. => "human"
  | .assistant .. => "assistant"

/-- The metadata of an assistant's message. -/
def responseMetadata? : Message → Option Dict
  | .assistant _ _ m => some m
  | _ => none

def isSystem : Message → Bool
  | .system .. => true
  | _ => false

def isHuman : Message → Bool
  | .human .. => true
  | _ => false

def isAssistant : Message → Bool
  | .assistant .. => true
  | _ => false

def withId (id : String) : Message → Message
  | .system c _ => .system c (some id)
  | .human c _ => .human c (some id)
  | .assistant c _ m => .assistant c (some id) m

/-- Stores one entry of response metadata; messages of the other roles stay as they are. -/
def withResponseMetadata (key : String) (value : Json) : Message → Message
  | .assistant c i m => .assistant c i (m.insert key value)
  | m => m

/-- Equality up to the sign of zeros in the metadata. -/
def sameValue : Message → Message → Bool
  | .system c i, .system d j => c == d && i == j
  | .human c i, .human d j => c == d && i == j
  | .assistant c i m, .assistant d j n => c == d && i == j && Json.sameFields m n
  | _, _ => false

/-! ## JSON form -/

/-- The entry with the metadata, if there is any. -/
def metadataEntries (m : Message) : List (String × Json) :=
  let metadata := m.responseMetadata?.getD []
  if metadata.isEmpty then [] else [("response_metadata", .obj metadata)]

def toJson (m : Message) : Json :=
  Json.ofEntries
    ([("role", .str m.role), ("content", .str m.content)] ++
      Json.entryIfSome "id" .str m.id? ++ m.metadataEntries)

/-- Reads the fields of a message whose role is known. -/
def ofFields? (role : String) (v : Json) : Option Message :=
  if role = "assistant" then do
    let get ← v.record? ["content", "id", "response_metadata"] 1
    let content ← Field.required Json.asString? (get "content")
    let id ← Field.optional Json.asString? (get "id")
    let metadata ← Field.withDefault [] Json.asObject? (get "response_metadata")
    some (.assistant content id metadata)
  else do
    let get ← v.record? ["content", "id"] 1
    let content ← Field.required Json.asString? (get "content")
    let id ← Field.optional Json.asString? (get "id")
    if role = "system" then some (.system content id)
    else if role = "human" then some (.human content id)
    else none

def ofJson? : Json → Option Message
  | .obj fields => do
    let role ← Field.required Json.asString? (Dict.get? "role" fields)
    ofFields? role (.obj fields)
  | .arr (.str role :: items) => ofFields? role (.arr items)
  | _ => none

/-! ## Transcripts -/

/-- One line of a transcript: who speaks, and the content. -/
def transcriptLine (humanName assistantName : String) (m : Message) : String :=
  let speaker := match m with
    | .system .. => "System"
    | .human .. => humanName
    | .assistant .. => assistantName
  speaker ++ ": " ++ m.content

/-- The messages as plain text, a line break between two. -/
def transcript (humanName assistantName : String) (messages : List Message) : String :=
  "\n".intercalate (messages.map (transcriptLine humanName assistantName))

end Message

end RetrievalKit
