import RetrievalKit.Embedding.Basic

/-!
# Hashed embeddings

A deterministic embedding that needs no provider.  The bytes of a text are dealt out in turn to
the components, each component is the sum of its bytes, and the vector is scaled to length one
unless it is zero.  Every operation rounds to single precision, from left to right.
-/

namespace RetrievalKit.Hashed

/-- The number of components unless another is asked for. -/
def standardDimensions : Nat := 4

/-- The sums of the bytes of a text, dealt out to `dimensions` components in turn. -/
def byteSums (dimensions : Nat) (text : String) : Array Single :=
  text.toUTF8.toList.zipIdx.foldl
    (fun sums (byte, i) => sums.modify (i % dimensions) fun s => s.add (Single.ofNat byte.toNat))
    (Array.replicate dimensions Single.zero)

/-- The length of a vector. -/
def magnitude (v : Vector32) : Single :=
  (v.foldl (fun sum x => sum.add (x.mul x)) Single.zero).sqrt

/-- The vector scaled to length one; a zero vector stays. -/
def normalized (v : Vector32) : Vector32 :=
  let m := magnitude v
  if m.code = 0 then v else v.map fun x => x.div m

/-- The vector of a text. -/
def vector (dimensions : Nat) (text : String) : Vector32 :=
  normalized (byteSums dimensions text).toList

/-- The embedder with this many components. -/
def embedder {σ : Type} (dimensions : Nat) : Embedder σ := .ofFunction (vector dimensions)

end RetrievalKit.Hashed
