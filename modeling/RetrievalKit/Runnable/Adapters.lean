import RetrievalKit.Chat.Model
import RetrievalKit.Retrieval.Basic
import RetrievalKit.Runnable.Basic

/-!
# Retrievers and chat models as steps
-/

namespace RetrievalKit

variable {σ : Type}

/-- The step that finds at most `wanted` documents for its input. -/
def Retriever.toRunnable (r : Retriever σ) (wanted : Nat) : Runnable σ String (List Document) :=
  .lambda fun query => r.retrieve query wanted

/-- The step that answers a chat request; its stream yields a message for each chunk. -/
def ChatModel.toRunnable (m : ChatModel σ) : Runnable σ ChatRequest Message :=
  .ofInvokeAndStream
    (fun _ request => do
      let response ← m.chat request
      pure response.message)
    (fun _ request => (m.streamChat request).map Chunk.toMessage)

end RetrievalKit
