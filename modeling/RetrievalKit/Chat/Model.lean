import RetrievalKit.Chat.Basic
import RetrievalKit.Wire.Basic

/-!
# Chat models

A chat model answers a request at once or as a stream of chunks.  A model without a stream of its
own streams its whole answer as one chunk.
-/

namespace RetrievalKit

/-- A chat model in the world `σ`. -/
structure ChatModel (σ : Type) where
  chat : ChatRequest → Action σ ChatResponse
  streamChat : ChatRequest → Drain σ Chunk

/-- The model that streams each answer as one chunk. -/
def ChatModel.ofChat {σ : Type} (chat : ChatRequest → Action σ ChatResponse) : ChatModel σ where
  chat := chat
  streamChat request := (Drain.ofAction (chat request)).map ChatResponse.toChunk

end RetrievalKit
