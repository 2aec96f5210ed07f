import RetrievalKit.Json.Basic

/-!
# Records in JSON

A record is written as an object and read from either of two spellings: an object, whose unknown
fields are ignored, or an array of the field values in the order of declaration.

* `Json.record?` — opens either spelling and answers a look-up by field name;
* `Field.required`, `Field.optional`, `Field.withDefault` — what a missing field means.  An
  optional field may be missing or null; a field with a default may be missing but not null.
-/

namespace RetrievalKit

/-- Opens a record with these fields.  An array holds the first fields in order: at least `least`
of them and no more than there are. -/
def Json.record? (names : List String) (least : Nat) :
    Json → Option (String → Option Json)
  | .obj fields => some fun name => Dict.get? name fields
  | .arr items =>
    if least ≤ items.length ∧ items.length ≤ names.length then
      some fun name => (names.zip items).lookup name
    else none
  | _ => none

namespace Field

/-- A field that has to be there. -/
def required {α : Type} (read : Json → Option α) : Option Json → Option α
  | some v => read v
  | none => none

/-- A field that may be missing or null. -/
def optional {α : Type} (read : Json → Option α) : Option Json → Option (Option α)
  | none => some none
  | some .null => some none
  | some v => (read v).map some

/-- A field that stands for `value` when it is missing. -/
def withDefault {α : Type} (value : α) (read : Json → Option α) : Option Json → Option α
  | some v => read v
  | none => some value

/-- Reads an unsigned 32-bit integer. -/
def word32? : Json → Option UInt32
  | .int n => if 0 ≤ n ∧ n < 4294967296 then some (UInt32.ofNat n.toNat) else none
  | _ => none

/-- Reads a list. -/
def list? {α : Type} (read : Json → Option α) : Json → Option (List α)
  | .arr items => items.mapM read
  | _ => none

end Field

namespace Json

/-- The JSON integer of a word. -/
def ofWord32 (n : UInt32) : Json := .int n.toNat

/-- An entry that is written only when there is a value. -/
def entryIfSome {α : Type} (name : String) (write : α → Json) :
    Option α → List (String × Json)
  | some a => [(name, write a)]
  | none => []

/-- A value, or null. -/
def ofOption {α : Type} (write : α → Json) : Option α → Json
  | some a => write a
  | none => .null

end Json

end RetrievalKit
