import RetrievalKit.Error
import RetrievalKit.Json.Basic
import RetrievalKit.Surreal.Identifier
import RetrievalKit.Text.Quoted

/-!
# Metadata filters

A filter asks that metadata fields equal given values, all of them at once.  A key is a path; the
values never stand in the text of a statement but are bound to the variables `f0`, `f1`, ….

* `Filter.clause` — the text of the condition, empty for the filter without conditions;
* `Filter.bindings` — the variables it refers to;
* `Filter.render` — both, for a filter whose keys are paths.
-/

namespace RetrievalKit.Surreal

/-- Equality conditions on metadata fields. -/
structure Filter where
  conditions : List (String × Json)

namespace Filter

/-- The filter that admits every document. -/
def all : Filter := ⟨[]⟩

/-- Adds the condition that a field has a value. -/
def field (key : String) (value : Json) (f : Filter) : Filter :=
  ⟨f.conditions ++ [(key, value)]⟩

def size (f : Filter) : Nat := f.conditions.length

def isEmpty (f : Filter) : Bool := f.conditions.isEmpty

/-- The keys in order. -/
def keys (f : Filter) : List String := f.conditions.map (·.1)

/-- The name of the variable of condition `i`. -/
def valueName (i : Nat) : String := "f" ++ toString i

/-- The text of the condition on one key. -/
def conditionText (key : String) (i : Nat) : String :=
  "metadata." ++ key ++ " = $" ++ valueName i

/-- The condition on these keys as part of a statement. -/
def clause : List String → String
  | [] => ""
  | keys => " WHERE " ++
      " AND ".intercalate (keys.zipIdx.map fun (key, i) => conditionText key i)

/-- The values of the variables, in order. -/
def bindings (f : Filter) : List (String × Json) :=
  f.conditions.zipIdx.map fun (c, i) => (valueName i, c.2)

/-- Refuses the first key that is no path. -/
def check (f : Filter) : Except Error Unit :=
  match f.keys.find? fun key => !isPath key.toList with
  | some key => .error ⟨.validation, "invalid metadata filter key: " ++ Text.quoted key⟩
  | none => .ok ()

/-- The condition as part of a statement, and the given variables with the values of the filter
among them. -/
def render (f : Filter) (given : Dict) : Except Error (String × Dict) := do
  f.check
  .ok (clause f.keys, given.insertAll f.bindings)

end Filter

end RetrievalKit.Surreal
