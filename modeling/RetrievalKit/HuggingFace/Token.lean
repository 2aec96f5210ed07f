import RetrievalKit.Environment

/-!
# Access tokens

Where a token comes from when the settings have none.
-/

namespace RetrievalKit.HuggingFace

/-- The token from the environment: the first of the two variables that is set counts, and an
empty one is no token. -/
def tokenOfEnvironment (env : Environment) : Option String :=
  ((env.get? "HUGGINGFACEHUB_API_TOKEN").or (env.get? "HF_TOKEN")).filter (· != "")

/-- The header that carries a token. -/
def tokenHeader (token : Option String) : List (String × String) :=
  match token with
  | some t => [("Authorization", "Bearer " ++ t)]
  | none => []

end RetrievalKit.HuggingFace
