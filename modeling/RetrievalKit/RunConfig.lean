import RetrievalKit.Json.Record

/-!
# Run configurations

What a caller passes along a chain of steps: tags, metadata and names of the run.
-/

namespace RetrievalKit

/-- The configuration of one run. -/
structure RunConfig where
  tags : List String
  metadata : Dict
  runId : Option String
  runName : Option String

namespace RunConfig

/-- The configuration that says nothing. -/
def empty : RunConfig := ⟨[], [], none, none⟩

def withTags (tags : List String) (c : RunConfig) : RunConfig := { c with tags := tags }

def withRunName (name : String) (c : RunConfig) : RunConfig := { c with runName := some name }

def withRunId (id : String) (c : RunConfig) : RunConfig := { c with runId := some id }

/-- Stores one entry of metadata. -/
def withMetadata (key : String) (value : Json) (c : RunConfig) : RunConfig :=
  { c with metadata := c.metadata.insert key value }

/-- Every field is written, absent names as null. -/
def toJson (c : RunConfig) : Json :=
  Json.ofEntries
    [("tags", Json.ofStrings c.tags), ("metadata", .obj c.metadata),
     ("run_id", Json.ofOption .str c.runId), ("run_name", Json.ofOption .str c.runName)]

def ofJson? (v : Json) : Option RunConfig := do
  let get ← v.record? ["tags", "metadata", "run_id", "run_name"] 0
  let tags ← Field.withDefault [] (Field.list? Json.asString?) (get "tags")
  let metadata ← Field.withDefault [] Json.asObject? (get "metadata")
  let runId ← Field.optional Json.asString? (get "run_id")
  let runName ← Field.optional Json.asString? (get "run_name")
  some ⟨tags, metadata, runId, runName⟩

end RunConfig

end RetrievalKit
