import RetrievalKit.Retrieval.Basic

/-!
# Retrievers

* `Retriever.ofStore` — finds documents in a vector store, all of the nearest or only those with a
  score on the near side of a threshold;
* `Retriever.compressed` — passes what a retriever finds through a compressor.
-/

namespace RetrievalKit

/-- Whether a score is at least as near as the threshold. -/
def isNearEnough (higherIsCloser : Bool) (threshold score : Single) : Bool :=
  if higherIsCloser then threshold.le score else score.le threshold

namespace Retriever

variable {σ : Type}

/-- Finds documents in a store.  `standard` is the number of documents when the caller names
none. -/
def ofStore (store : VectorStore σ) (embedder : Embedder σ) (standard : Nat)
    (threshold : Option Single) : Retriever σ where
  retrieve query wanted :=
    let k := if 0 < wanted then wanted else standard
    match threshold with
    | none => store.similaritySearch query k embedder
    | some t => do
      let scored ← store.similaritySearchWithScore query k embedder
      pure ((scored.filter fun hit => isNearEnough store.higherIsCloser t hit.2).map (·.1))

/-- Passes the documents of a retriever through a compressor, unless there are none. -/
def compressed (base : Retriever σ) (compressor : Compressor σ) : Retriever σ where
  retrieve query wanted := do
    let found ← base.retrieve query wanted
    if found.isEmpty then pure found else compressor.compress found query

end Retriever

end RetrievalKit
