import RetrievalKit.Cohere.Api
import RetrievalKit.Retrieval.Basic

/-!
# Reranking

Documents ordered by their relevance to a query.  The reply names documents by their place in the
request; each comes back as it was, with its score in the metadata.

* `Reranker.ranked` — the documents that a reply names, or the error it stands for;
* `Reranker.rerankWithScores`, `rerank` — one request;
* `Reranker.toCompressor` — the reranker behind a retriever.
-/

namespace RetrievalKit.Cohere

/-- The metadata key of a document's score. -/
def relevanceScoreKey : String := "relevance_score"

/-- The settings of a reranker. -/
structure RerankConfig where
  apiKey : String
  model : String
  /-- How many documents are wanted at most; all of them unless it is set. -/
  topN : Option Nat
  baseUrl : String

namespace RerankConfig

def new (apiKey : String) : RerankConfig := ⟨apiKey, "rerank-v3.5", none, defaultBaseUrl⟩

def ofEnvironment (env : Environment) : Except Error RerankConfig :=
  (apiKeyOfEnvironment env).map new

def withModel (model : String) (c : RerankConfig) : RerankConfig := { c with model := model }

def withTopN (n : Nat) (c : RerankConfig) : RerankConfig := { c with topN := some n }

def withBaseUrl (url : String) (c : RerankConfig) : RerankConfig := { c with baseUrl := url }

end RerankConfig

/-- A reranker over a backend. -/
structure Reranker (σ : Type) where
  config : RerankConfig
  backend : Backend σ

namespace Reranker

variable {σ : Type}

/-- The body of a request. -/
def body (c : RerankConfig) (query : String) (documents : List Document) (topN : Option Nat) :
    Json :=
  Json.ofEntries
    ([("model", .str c.model), ("query", .str query),
      ("documents", Json.ofStrings (documents.map (·.content)))] ++
      Json.entryIfSome "top_n" (fun n => .int (n : Nat)) topN)

/-- A document with its score stored in the metadata. -/
def withScore (d : Document) (score : Double) : Document :=
  { d with metadata := d.metadata.insert relevanceScoreKey (.float score) }

/-- The document that one result names, with its score; a score that is no number counts as
zero. -/
def rankedOne (documents : List Document) (result : Json) : Except Error Scored :=
  match (result.field "index").asNat? with
  | none => .error ⟨.parsing, "Cohere rerank: result without index"⟩
  | some index =>
    let score := (result.field "relevance_score").asDouble?.getD Double.zero
    match documents[index]? with
    | some d => .ok (withScore d score, Single.ofDouble score)
    | none => .error ⟨.parsing, "Cohere rerank: index " ++ toString index ++
        " out of range for " ++ toString documents.length ++ " documents"⟩

/-- The documents that a reply names, in its order. -/
def ranked (documents : List Document) (reply : Reply) : Except Error (List Scored) := do
  checkReply "rerank" .reranker reply
  match (reply.body.field "results").asArray? with
  | some results => results.mapM (rankedOne documents)
  | none => .error ⟨.parsing, "Cohere rerank: missing results"⟩

/-- Orders documents by relevance; `topN` takes the place of the setting. -/
def rerankWithScores (r : Reranker σ) (query : String) (documents : List Document)
    (topN : Option Nat) : Action σ (List Scored) :=
  let topN := topN.or r.config.topN
  if documents.isEmpty ∨ topN = some 0 then pure []
  else do
    let reply ← r.backend.send
      (request r.config.baseUrl "rerank" r.config.apiKey (body r.config query documents topN))
    liftExcept (ranked documents reply)

/-- Orders documents by relevance. -/
def rerank (r : Reranker σ) (query : String) (documents : List Document) (topN : Option Nat) :
    Action σ (List Document) := do
  let scored ← r.rerankWithScores query documents topN
  pure (scored.map (·.1))

/-- The reranker as a compressor. -/
def toCompressor (r : Reranker σ) : Compressor σ where
  compress documents query := r.rerank query documents none

end Reranker

end RetrievalKit.Cohere
