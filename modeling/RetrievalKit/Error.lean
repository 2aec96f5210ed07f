/-!
# Errors

An error names the subsystem it comes from and carries a text.  `Error.message` is the full text
a caller reads: the subsystem's heading, then the error's own text.
-/

namespace RetrievalKit

/-- The subsystem an error comes from. -/
inductive ErrorKind where
  | model
  | rateLimit
  | timeout
  | validation
  | parsing
  | config
  | embedding
  | vectorStore
  | retriever
  | reranker
  deriving DecidableEq, Repr

/-- The heading of a subsystem's messages. -/
def ErrorKind.heading : ErrorKind → String
  | .model => "model error"
  | .rateLimit => "rate limit"
  | .timeout => "timeout"
  | .validation => "validation error"
  | .parsing => "parsing error"
  | .config => "config error"
  | .embedding => "embedding error"
  | .vectorStore => "vector store error"
  | .retriever => "retriever error"
  | .reranker => "reranker error"

/-- What went wrong, and where. -/
structure Error where
  kind : ErrorKind
  text : String
  deriving DecidableEq, Repr

/-- The text shown to a caller. -/
def Error.message (e : Error) : String := e.kind.heading ++ ": " ++ e.text

/-- Whether a later attempt at the same request may succeed. -/
def Error.isTransient (e : Error) : Bool :=
  match e.kind with
  | .rateLimit => true
  | .timeout => true
  | _ => false

end RetrievalKit
