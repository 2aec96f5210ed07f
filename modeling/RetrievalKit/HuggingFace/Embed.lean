import RetrievalKit.Embedding.Basic
import RetrievalKit.HuggingFace.Token
import RetrievalKit.Wire.Failure

/-!
# Hugging Face embeddings

Texts are embedded by the feature-extraction pipeline of a model.  The reply is an array of
vectors, or an object that holds one.
-/

namespace RetrievalKit.HuggingFace

/-- The settings of an embedder. -/
structure EmbedConfig where
  model : String
  apiKey : Option String
  /-- The address below which the models are found. -/
  baseUrl : String
  /-- Whether to wait for a model that is not loaded yet. -/
  waitForModel : Bool

namespace EmbedConfig

def new (env : Environment) (model : String) : EmbedConfig :=
  ⟨model, tokenOfEnvironment env, "https://router.huggingface.co/hf-inference/models", true⟩

def withApiKey (key : String) (c : EmbedConfig) : EmbedConfig := { c with apiKey := some key }

def withBaseUrl (url : String) (c : EmbedConfig) : EmbedConfig := { c with baseUrl := url }

def withWaitForModel (wait : Bool) (c : EmbedConfig) : EmbedConfig :=
  { c with waitForModel := wait }

end EmbedConfig

namespace Embed

variable {σ : Type}

/-- The request for the vectors of some texts. -/
def request (c : EmbedConfig) (texts : List String) : Request :=
  { url := joinPath c.baseUrl (c.model ++ "/pipeline/feature-extraction")
    headers := [("Content-Type", "application/json")] ++ tokenHeader c.apiKey ++
      if c.waitForModel then [("x-wait-for-model", "true")] else []
    body := Json.ofEntries [("inputs", Json.ofStrings texts)] }

/-- The vector of one item of a reply. -/
def vector (item : Json) : Except Error Vector32 :=
  match item.asArray? with
  | some values => .ok (Vector32.ofItems values)
  | none => .error ⟨.embedding, "embedding item is not an array"⟩

/-- The vectors in the body of a reply. -/
def vectorsOfBody (body : Json) : Except Error (List Vector32) :=
  match (body.asArray?).or ((body.get? "embeddings").bind Json.asArray?) with
  | some items => items.mapM vector
  | none => .error ⟨.embedding, "unexpected HuggingFace response format"⟩

/-- The vectors of a reply. -/
def vectors (reply : Reply) : Except Error (List Vector32) := do
  reply.check "HuggingFace" .embedding Json.render
  vectorsOfBody reply.body

/-- Embeds texts; without texts nothing is sent. -/
def batch (c : EmbedConfig) (backend : Backend σ) (texts : List String) :
    Action σ (List Vector32) :=
  if texts.isEmpty then pure []
  else do
    let reply ← backend.send (request c texts)
    liftExcept (vectors reply)

/-- Embeds one query. -/
def query (c : EmbedConfig) (backend : Backend σ) (text : String) : Action σ Vector32 := do
  let found ← batch c backend [text]
  match found.getLast? with
  | some v => pure v
  | none => fail .embedding "empty HuggingFace response"

/-- The embedder with these settings. -/
def embedder (c : EmbedConfig) (backend : Backend σ) : Embedder σ :=
  ⟨batch c backend, query c backend⟩

end Embed

end RetrievalKit.HuggingFace
