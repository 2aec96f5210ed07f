import RetrievalKit.Retrieval.Basic
import RetrievalKit.Surreal.RecordId
import RetrievalKit.Surreal.Rpc

/-!
# The document store

Documents in a database table: records with a text, a vector and metadata.  A document with an
identifier is written under it, in place of an earlier one; others get a key from the database.
Every operation is at most one call; one without anything to do is none.

`Store.ofConfig` is the only way to a store, so its settings are valid.
-/

namespace RetrievalKit.Surreal

/-- A document store over a backend. -/
structure Store (σ : Type) where
  config : Config
  valid : config.validate = .ok ()
  backend : Backend σ

namespace Store

variable {σ : Type}

/-- The store with these settings, if they are valid. -/
def ofConfig (config : Config) (backend : Backend σ) : Except Error (Store σ) :=
  match h : config.validate with
  | .ok () => .ok ⟨config, h, backend⟩
  | .error e => .error e

/-- Sends a command of this store. -/
def run (s : Store σ) (command : Command) : Action (Session σ) (List Json) :=
  query s.config s.backend command

/-- Defines the vector index, which needs a dimension. -/
def ensureIndex (s : Store σ) : Action (Session σ) Unit :=
  match s.config.dimension with
  | none => fail .config "ensure_index requires an embedding dimension"
  | some dimension => do
    let _ ← s.run (.defineIndex s.config dimension)

/-- Drops the table with everything in it. -/
def deleteTable (s : Store σ) : Action (Session σ) Unit := do
  let _ ← s.run (.removeTable s.config)

/-- Refuses a vector that has not the dimension of the settings. -/
def checkDimension (c : Config) (vector : Vector32) : Except Error Unit :=
  match c.dimension with
  | none => .ok ()
  | some dimension =>
    if dimension = vector.length then .ok ()
    else .error ⟨.validation, "expected embedding of dimension " ++ toString dimension ++
      ", got " ++ toString vector.length⟩

/-! ## Adding -/

/-- The identifier a statement's result gives to a document: the key of the returned record, else
the document's own. -/
def assignedId (d : Document) (result : Json) : Except Error String :=
  let row := match result with
    | .arr rows => rows.head?.bind (Json.get? "id")
    | v => v.get? "id"
  match row.bind RecordId.key? with
  | some key => .ok key
  | none =>
    if d.hasId then .ok d.id
    else .error ⟨.parsing, "SurrealDB did not return an id for a created record"⟩

/-- The identifiers of all documents, each from the result of its own statement. -/
def assignedIds (documents : List Document) (results : List Json) : Except Error (List String) :=
  if results.length = documents.length then
    (documents.zip results).mapM fun (d, r) => assignedId d r
  else .error ⟨.parsing, "expected " ++ toString documents.length ++
    " statement results from SurrealDB, got " ++ toString results.length⟩

/-- Embeds and writes documents; answers their identifiers in order. -/
def addDocuments (s : Store σ) (documents : List Document) (embedder : Embedder (Session σ)) :
    Action (Session σ) (List String) :=
  if documents.isEmpty then pure []
  else do
    let vectors ← embedder.embedDocuments (documents.map (·.content))
    if vectors.length = documents.length then do
      liftExcept (vectors.forM (checkDimension s.config))
      let results ← s.run (.add s.config (documents.zip vectors))
      liftExcept (assignedIds documents results)
    else
      fail .embedding ("expected " ++ toString documents.length ++ " embeddings, got " ++
        toString vectors.length)

/-! ## Reading -/

/-- The document of a row; what is missing or of another type is empty. -/
def documentOfRow (row : Json) : Document :=
  { id := ((row.get? "id").bind RecordId.key?).getD ""
    content := ((row.get? "text").bind Json.asString?).getD ""
    metadata := ((row.get? "metadata").bind Json.asObject?).getD [] }

/-- The document of a row with its score, which has to be a number. -/
def scoredOfRow (row : Json) : Except Error Scored :=
  match (row.get? "score").bind Json.asDouble? with
  | some score => .ok (documentOfRow row, Single.ofDouble score)
  | none => .error ⟨.parsing, "SurrealDB search row has no numeric score: " ++ row.render⟩

/-- The rows of a statement's result. -/
def rowsOf (results : List Json) : List Json :=
  (results.head?.bind Json.asArray?).getD []

/-- The `k` documents nearest to a vector, with their scores. -/
def searchVector (s : Store σ) (vector : Vector32) (k : Nat) (filter : Filter) :
    Action (Session σ) (List Scored) :=
  if k = 0 then pure []
  else do
    liftExcept (checkDimension s.config vector)
    liftExcept filter.check
    let results ← s.run (.nearest s.config vector k filter)
    liftExcept ((rowsOf results).mapM scoredOfRow)

/-- The `k` documents nearest to a query among those that the filter admits. -/
def similaritySearchWithFilter (s : Store σ) (text : String) (k : Nat) (filter : Filter)
    (embedder : Embedder (Session σ)) : Action (Session σ) (List Scored) :=
  if k = 0 then pure []
  else do
    let vector ← embedder.embedQuery text
    s.searchVector vector k filter

def similaritySearchWithScore (s : Store σ) (text : String) (k : Nat)
    (embedder : Embedder (Session σ)) : Action (Session σ) (List Scored) :=
  s.similaritySearchWithFilter text k .all embedder

def similaritySearch (s : Store σ) (text : String) (k : Nat)
    (embedder : Embedder (Session σ)) : Action (Session σ) (List Document) := do
  let hits ← s.similaritySearchWithScore text k embedder
  pure (hits.map (·.1))

def similaritySearchByVector (s : Store σ) (vector : Vector32) (k : Nat) :
    Action (Session σ) (List Document) := do
  let hits ← s.searchVector vector k .all
  pure (hits.map (·.1))

/-! ## Access by identifier -/

/-- Deletes documents by identifier. -/
def delete (s : Store σ) (ids : List String) : Action (Session σ) Unit :=
  if ids.isEmpty then pure ()
  else do
    let _ ← s.run (.delete s.config ids)

/-- The document in a statement's result, if there is a record. -/
def fetched? : Json → Option Document
  | .arr rows => rows.head?.map documentOfRow
  | .obj fields => some (documentOfRow (.obj fields))
  | _ => none

/-- Fetches documents by identifier, skipping those that are missing. -/
def getByIds (s : Store σ) (ids : List String) : Action (Session σ) (List Document) :=
  if ids.isEmpty then pure []
  else do
    let results ← s.run (.fetch s.config ids)
    pure (results.filterMap fetched?)

/-- The store as a vector store. -/
def toVectorStore (s : Store σ) : VectorStore (Session σ) where
  addDocuments := s.addDocuments
  similaritySearch := s.similaritySearch
  similaritySearchWithScore := s.similaritySearchWithScore
  similaritySearchByVector := s.similaritySearchByVector
  delete := s.delete
  getByIds := s.getByIds
  higherIsCloser := s.config.distance.higherIsCloser

end Store

end RetrievalKit.Surreal
