import RetrievalKit.Environment
import RetrievalKit.Wire.Failure

/-!
# The Cohere interface

What the clients of the reranker, the embedder and the chat model have in common: address, key
and headers of a request, and the meaning of a failed reply.
-/

namespace RetrievalKit.Cohere

def defaultBaseUrl : String := "https://api.cohere.com/v2"

/-- The variable that holds the key. -/
def apiKeyVariable : String := "COHERE_API_KEY"

/-- The key from the environment, which has to be set and not empty. -/
def apiKeyOfEnvironment (env : Environment) : Except Error String :=
  match env.nonempty? apiKeyVariable with
  | some key => .ok key
  | none => .error ⟨.config, apiKeyVariable ++ " is not set"⟩

/-- A request to one endpoint. -/
def request (baseUrl endpoint apiKey : String) (body : Json) : Request :=
  { url := joinPath baseUrl endpoint
    headers := [("Authorization", "Bearer " ++ apiKey), ("Content-Type", "application/json"),
      ("Accept", "application/json")]
    body := body }

/-- Refuses a failed reply of one endpoint. -/
def checkReply (endpoint : String) (kind : ErrorKind) (r : Reply) : Except Error Unit :=
  r.check ("Cohere " ++ endpoint) kind (Json.explanation "message")

end RetrievalKit.Cohere
