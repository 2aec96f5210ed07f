/-!
# Environments

The variables that settings may be taken from.
-/

namespace RetrievalKit

/-- Variables with their values; a later entry does not hide an earlier one. -/
structure Environment where
  entries : List (String × String)

namespace Environment

/-- The environment without variables. -/
def empty : Environment := ⟨[]⟩

/-- The value of a variable that is set, be it empty. -/
def get? (env : Environment) (name : String) : Option String := env.entries.lookup name

/-- The value of a variable, or a default when it is not set. -/
def getD (env : Environment) (name default : String) : String := (env.get? name).getD default

/-- The value of a variable that is set and not empty. -/
def nonempty? (env : Environment) (name : String) : Option String :=
  (env.get? name).filter (· != "")

end Environment

end RetrievalKit
