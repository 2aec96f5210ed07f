import RetrievalKit.Json.Record

/-!
# Documents

A document is a text with metadata.  The empty identifier means that none is assigned yet.
-/

namespace RetrievalKit

/-- A text with metadata. -/
structure Document where
  id : String
  content : String
  metadata : Dict
  deriving Inhabited

namespace Document

/-- A document without metadata. -/
def new (id content : String) : Document := ⟨id, content, []⟩

/-- A document without identifier and metadata. -/
def ofContent (content : String) : Document := new "" content

/-- Whether an identifier is assigned. -/
def hasId (d : Document) : Bool := d.id != ""

def toJson (d : Document) : Json :=
  Json.ofEntries
    ([("id", .str d.id), ("content", .str d.content)] ++
      if d.metadata.isEmpty then [] else [("metadata", .obj d.metadata)])

def ofJson? (v : Json) : Option Document := do
  let get ← v.record? ["id", "content", "metadata"] 2
  let id ← Field.withDefault "" Json.asString? (get "id")
  let content ← Field.required Json.asString? (get "content")
  let metadata ← Field.withDefault [] Json.asObject? (get "metadata")
  some ⟨id, content, metadata⟩

/-- The contents with a blank line between two, as the context block of a prompt. -/
def contextBlock (documents : List Document) : String :=
  "\n\n".intercalate (documents.map (·.content))

end Document

end RetrievalKit
