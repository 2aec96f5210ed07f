import RetrievalKit.Runnable.Adapters

/-!
# Answering from documents

The chain that answers a question from a document store: documents are found, put into a prompt,
and a chat model answers.
-/

namespace RetrievalKit.Answering

variable {σ : Type}

/-- The request to answer a question from documents only. -/
def prompt (question : String) (documents : List Document) : ChatRequest :=
  .ofMessages
    [.ofSystem ("Answer using only this context:\n\n" ++ Document.contextBlock documents),
     .ofHuman question]

/-- The chain from a query to an answer of the question. -/
def chain (retriever : Retriever σ) (wanted : Nat) (model : ChatModel σ) (question : String) :
    Runnable σ String Message :=
  ((retriever.toRunnable wanted).andThen
    (.lambda fun documents => pure (prompt question documents))).andThen model.toRunnable

end RetrievalKit.Answering
