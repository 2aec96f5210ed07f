import RetrievalKit.Json.Record
import RetrievalKit.Numeric.Single
import RetrievalKit.Wire.Basic

/-!
# Embeddings

An embedder turns texts into vectors of single-precision numbers: documents in batches, queries
one at a time.
-/

namespace RetrievalKit

/-- The vector of a text. -/
abbrev Vector32 := List Single

/-- An embedder in the world `σ`. -/
structure Embedder (σ : Type) where
  embedDocuments : List String → Action σ (List Vector32)
  embedQuery : String → Action σ Vector32

/-- An embedder without effects or failures. -/
def Embedder.ofFunction {σ : Type} (vector : String → Vector32) : Embedder σ where
  embedDocuments texts := pure (texts.map vector)
  embedQuery text := pure (vector text)

/-- The vector that a JSON array stands for: numbers rounded to single precision, and zero in
place of anything else. -/
def Vector32.ofItems (items : List Json) : Vector32 :=
  items.map fun v => Single.ofDouble (v.asDouble?.getD Double.zero)

/-- A vector in a request; infinities are written as null. -/
def Vector32.toJson (v : Vector32) : Json :=
  .arr (v.map fun x => Json.ofOption .float x.toDouble?)

end RetrievalKit
