import RetrievalKit.Document
import RetrievalKit.Embedding.Basic

/-!
# Stores, retrievers and compressors

The interfaces of retrieval, in a world `σ`.  A store that does not fetch by identifier and does
not say how its scores are ordered has the defaults: fetching fails, and higher scores are closer.
-/

namespace RetrievalKit

/-- A document with the score of a search. -/
abbrev Scored := Document × Single

/-- A store of documents that is searched by vectors. -/
structure VectorStore (σ : Type) where
  /-- Adds documents and answers their identifiers in order. -/
  addDocuments : List Document → Embedder σ → Action σ (List String)
  similaritySearch : String → Nat → Embedder σ → Action σ (List Document)
  similaritySearchWithScore : String → Nat → Embedder σ → Action σ (List Scored)
  similaritySearchByVector : Vector32 → Nat → Action σ (List Document)
  delete : List String → Action σ Unit
  /-- Fetches documents by identifier, skipping those that are missing. -/
  getByIds : List String → Action σ (List Document) := fun _ =>
    fail .vectorStore "get_by_ids is not supported by this store"
  /-- Whether a larger score means a closer match. -/
  higherIsCloser : Bool := true

/-- Finds documents for a query, at most a given number. -/
structure Retriever (σ : Type) where
  retrieve : String → Nat → Action σ (List Document)

/-- Reorders or thins out documents for a query. -/
structure Compressor (σ : Type) where
  compress : List Document → String → Action σ (List Document)

end RetrievalKit
