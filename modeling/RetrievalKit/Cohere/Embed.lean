import RetrievalKit.Cohere.Api
import RetrievalKit.Embedding.Basic

/-!
# Cohere embeddings

Texts are embedded in batches of one input type: one type for documents, another for queries.
-/

namespace RetrievalKit.Cohere

/-- What the vectors are for. -/
inductive InputType where
  | searchDocument
  | searchQuery
  | classification
  | clustering
  deriving DecidableEq, Repr

/-- The name of an input type in a request. -/
def InputType.name : InputType → String
  | .searchDocument => "search_document"
  | .searchQuery => "search_query"
  | .classification => "classification"
  | .clustering => "clustering"

/-- The settings of an embedder. -/
structure EmbedConfig where
  apiKey : String
  model : String
  /-- The type of documents. -/
  inputType : InputType
  /-- The type of queries. -/
  queryInputType : InputType
  baseUrl : String

namespace EmbedConfig

def new (apiKey : String) : EmbedConfig :=
  ⟨apiKey, "embed-english-v3.0", .searchDocument, .searchQuery, defaultBaseUrl⟩

def ofEnvironment (env : Environment) : Except Error EmbedConfig :=
  (apiKeyOfEnvironment env).map new

def withModel (model : String) (c : EmbedConfig) : EmbedConfig := { c with model := model }

def withInputType (t : InputType) (c : EmbedConfig) : EmbedConfig := { c with inputType := t }

def withBaseUrl (url : String) (c : EmbedConfig) : EmbedConfig := { c with baseUrl := url }

end EmbedConfig

namespace Embed

variable {σ : Type}

/-- The body of a request. -/
def body (c : EmbedConfig) (texts : List String) (t : InputType) : Json :=
  Json.ofEntries
    [("model", .str c.model), ("texts", Json.ofStrings texts), ("input_type", .str t.name),
     ("embedding_types", Json.ofStrings ["float"])]

/-- The vector of one item of a reply. -/
def vector (item : Json) : Except Error Vector32 :=
  match item.asArray? with
  | some values => .ok (Vector32.ofItems values)
  | none => .error ⟨.embedding, "embedding is not an array"⟩

/-- The vectors of a reply. -/
def vectors (reply : Reply) : Except Error (List Vector32) := do
  checkReply "embed" .embedding reply
  match ((reply.body.field "embeddings").field "float").asArray? with
  | some items => items.mapM vector
  | none => .error ⟨.embedding, "missing embeddings.float"⟩

/-- Embeds texts of one type; without texts nothing is sent. -/
def batch (c : EmbedConfig) (backend : Backend σ) (texts : List String) (t : InputType) :
    Action σ (List Vector32) :=
  if texts.isEmpty then pure []
  else do
    let reply ← backend.send (request c.baseUrl "embed" c.apiKey (body c texts t))
    liftExcept (vectors reply)

/-- Embeds one query. -/
def query (c : EmbedConfig) (backend : Backend σ) (text : String) : Action σ Vector32 := do
  let found ← batch c backend [text] c.queryInputType
  match found.getLast? with
  | some v => pure v
  | none => fail .embedding "empty response"

/-- The embedder with these settings. -/
def embedder (c : EmbedConfig) (backend : Backend σ) : Embedder σ where
  embedDocuments texts := batch c backend texts c.inputType
  embedQuery text := query c backend text

end Embed

end RetrievalKit.Cohere
