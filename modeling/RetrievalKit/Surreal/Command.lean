import RetrievalKit.Document
import RetrievalKit.Embedding.Basic
import RetrievalKit.Surreal.Config
import RetrievalKit.Surreal.Filter

/-!
# Commands

What is sent to the database: a list of statements and the values of their variables.  The text
of a statement depends on the table's name, the metric, the dimension and the keys of a filter,
and on nothing else; documents, identifiers, vectors and limits travel as variables.

* `Statement.text` — the statement as the database reads it;
* `Statement.valueNames` — the names of the variables it refers to;
* `Command.add`, `delete`, `fetch`, `nearest`, … — the command of each operation of a store.
-/

namespace RetrievalKit.Surreal

/-- A statement.  The numbers tell which of the numbered variables it refers to. -/
inductive Statement where
  /-- Defines the vector index of a table, unless there is one. -/
  | defineIndex (table : String) (dimension : Nat) (distance : Distance)
  /-- Drops a table, if there is one. -/
  | removeTable (table : String)
  /-- Writes a record under a given key. -/
  | upsert (i : Nat)
  /-- Writes a record under a key of the database's choice. -/
  | create (i : Nat)
  /-- Deletes a record. -/
  | delete (i : Nat)
  /-- Reads a record. -/
  | fetch (i : Nat)
  /-- Reads the records nearest to a vector, among those that a filter on these keys admits. -/
  | nearest (distance : Distance) (keys : List String)
  deriving DecidableEq, Repr

/-- The name of the variable with the key of record `i`. -/
def idVariable (i : Nat) : String := "id" ++ toString i

/-- The name of the variable with the content of record `i`. -/
def contentVariable (i : Nat) : String := "content" ++ toString i

namespace Statement

/-- The words that order scores from the closest on. -/
def direction (d : Distance) : String := if d.higherIsCloser then "DESC" else "ASC"

/-- The statement as the database reads it. -/
def text : Statement → String
  | .defineIndex table dimension distance =>
    "DEFINE INDEX IF NOT EXISTS " ++ table ++ "_embedding_idx ON TABLE " ++ table ++
      " FIELDS embedding MTREE DIMENSION " ++ toString dimension ++ " DIST " ++
      distance.indexKeyword ++ ";"
  | .removeTable table => "REMOVE TABLE IF EXISTS " ++ table ++ ";"
  | .upsert i =>
    "UPSERT type::thing($tb, $" ++ idVariable i ++ ") CONTENT $" ++ contentVariable i ++
      " RETURN id;\n"
  | .create i => "CREATE type::table($tb) CONTENT $" ++ contentVariable i ++ " RETURN id;\n"
  | .delete i => "DELETE type::thing($tb, $" ++ idVariable i ++ ");\n"
  | .fetch i => "SELECT id, text, metadata FROM type::thing($tb, $" ++ idVariable i ++ ");\n"
  | .nearest distance keys =>
    "SELECT id, text, metadata, " ++ distance.scoreFunction ++
      "(embedding, $vector) AS score FROM type::table($tb)" ++ Filter.clause keys ++
      " ORDER BY score " ++ direction distance ++ " LIMIT $k;"

/-- The variables a statement refers to. -/
def valueNames : Statement → List String
  | .defineIndex .. => []
  | .removeTable _ => []
  | .upsert i => ["tb", idVariable i, contentVariable i]
  | .create i => ["tb", contentVariable i]
  | .delete i => ["tb", idVariable i]
  | .fetch i => ["tb", idVariable i]
  | .nearest _ keys => ["vector", "tb"] ++ (List.range keys.length).map Filter.valueName ++ ["k"]

end Statement

/-- Statements with the values of their variables. -/
structure Command where
  statements : List Statement
  bindings : Dict

namespace Command

/-- The text of all statements, one after the other. -/
def text (c : Command) : String := String.join (c.statements.map Statement.text)

def defineIndex (c : Config) (dimension : Nat) : Command :=
  ⟨[.defineIndex c.table dimension c.distance], []⟩

def removeTable (c : Config) : Command := ⟨[.removeTable c.table], []⟩

/-- The record of a document with its vector. -/
def record (d : Document) (vector : Vector32) : Json :=
  Json.ofEntries
    [("text", .str d.content), ("embedding", Vector32.toJson vector), ("metadata", .obj d.metadata)]

/-- The statement that writes document `i`: under its identifier if it has one. -/
def writeStatement (d : Document) (i : Nat) : Statement :=
  if d.hasId then .upsert i else .create i

/-- The variables of the statement that writes document `i`. -/
def writeBindings (d : Document) (vector : Vector32) (i : Nat) : List (String × Json) :=
  (contentVariable i, record d vector) :: if d.hasId then [(idVariable i, .str d.id)] else []

/-- Writes documents with their vectors, one statement each. -/
def add (c : Config) (documents : List (Document × Vector32)) : Command :=
  ⟨documents.zipIdx.map fun (d, i) => writeStatement d.1 i,
   Dict.ofList (("tb", .str c.table) ::
     documents.zipIdx.flatMap fun (d, i) => writeBindings d.1 d.2 i)⟩

/-- The variables of statements on given keys. -/
def idBindings (c : Config) (ids : List String) : Dict :=
  Dict.ofList (("tb", .str c.table) :: ids.zipIdx.map fun (id, i) => (idVariable i, .str id))

/-- Deletes records by key, one statement each. -/
def delete (c : Config) (ids : List String) : Command :=
  ⟨(List.range ids.length).map .delete, idBindings c ids⟩

/-- Reads records by key, one statement each. -/
def fetch (c : Config) (ids : List String) : Command :=
  ⟨(List.range ids.length).map .fetch, idBindings c ids⟩

/-- Reads the `k` records nearest to a vector among those that the filter admits. -/
def nearest (c : Config) (vector : Vector32) (k : Nat) (filter : Filter) : Command :=
  ⟨[.nearest c.distance filter.keys],
   Dict.ofList ([("tb", .str c.table)] ++ filter.bindings ++
     [("vector", Vector32.toJson vector), ("k", .int k)])⟩

end Command

end RetrievalKit.Surreal
