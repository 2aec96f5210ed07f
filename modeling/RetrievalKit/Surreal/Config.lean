import RetrievalKit.Environment
import RetrievalKit.Surreal.Identifier
import RetrievalKit.Text.Base64
import RetrievalKit.Text.Quoted
import RetrievalKit.Wire.Basic

/-!
# Database settings

Where the database is, which table holds the documents, and how vectors are compared.

* `Config.validate` — the table has to be an identifier, because it stands in the text of
  statements; namespace and database may not be empty, a dimension may not be zero;
* `Config.headers` — the headers of each request.
-/

namespace RetrievalKit.Surreal

/-! ## Distances -/

/-- How two vectors are compared. -/
inductive Distance where
  | cosine
  | euclidean
  | manhattan
  deriving DecidableEq, Repr

namespace Distance

/-- The database function that computes the score. -/
def scoreFunction : Distance → String
  | .cosine => "vector::similarity::cosine"
  | .euclidean => "vector::distance::euclidean"
  | .manhattan => "vector::distance::manhattan"

/-- The keyword of the metric in an index definition. -/
def indexKeyword : Distance → String
  | .cosine => "COSINE"
  | .euclidean => "EUCLIDEAN"
  | .manhattan => "MANHATTAN"

/-- Whether a larger score means a closer vector: only for similarities. -/
def higherIsCloser : Distance → Bool
  | .cosine => true
  | .euclidean => false
  | .manhattan => false

end Distance

/-! ## Settings -/

/-- How a client proves who it is. -/
inductive Auth where
  | anonymous
  | basic (user password : String)
  | bearer (token : String)
  deriving DecidableEq, Repr

/-- The settings of a document table. -/
structure Config where
  url : String
  dbNamespace : String
  database : String
  /-- The table that holds the documents. -/
  table : String
  auth : Auth
  /-- The length that every vector must have, if it is fixed. -/
  dimension : Option Nat
  distance : Distance

namespace Config

/-- Settings without credentials and dimension, comparing by cosine. -/
def new (url dbNamespace database table : String) : Config :=
  { url := url, dbNamespace := dbNamespace, database := database, table := table
    auth := .anonymous, dimension := none, distance := .cosine }

def withUrl (url : String) (c : Config) : Config := { c with url := url }

def withCredentials (user password : String) (c : Config) : Config :=
  { c with auth := .basic user password }

def withToken (token : String) (c : Config) : Config := { c with auth := .bearer token }

def withDimension (dimension : Nat) (c : Config) : Config := { c with dimension := some dimension }

def withDistance (distance : Distance) (c : Config) : Config := { c with distance := distance }

/-- Settings from the environment; user and password count only together. -/
def ofEnvironment (env : Environment) : Config :=
  let c := new (env.getD "SURREALDB_URL" "http://localhost:8000") (env.getD "SURREALDB_NS" "ns")
    (env.getD "SURREALDB_DB" "db") (env.getD "SURREALDB_TABLE" "documents")
  match env.get? "SURREALDB_USER", env.get? "SURREALDB_PASS" with
  | some user, some password => c.withCredentials user password
  | _, _ => c

/-- Checks the settings. -/
def validate (c : Config) : Except Error Unit :=
  if !isIdentifier c.table.toList then
    .error ⟨.config, "invalid SurrealDB table name: " ++ Text.quoted c.table⟩
  else if c.dbNamespace = "" ∨ c.database = "" then
    .error ⟨.config, "SurrealDB namespace and database must not be empty"⟩
  else if c.dimension = some 0 then
    .error ⟨.config, "embedding dimension must be positive"⟩
  else .ok ()

/-- The address that statements are sent to. -/
def rpcUrl (c : Config) : String := joinPath c.url "rpc"

/-- The header that proves who the client is. -/
def authHeaders (c : Config) : List (String × String) :=
  match c.auth with
  | .anonymous => []
  | .basic user password =>
    [("Authorization", "Basic " ++ Text.base64Text (user ++ ":" ++ password))]
  | .bearer token => [("Authorization", "Bearer " ++ token)]

/-- The headers of every request. -/
def headers (c : Config) : List (String × String) :=
  [("Accept", "application/json"), ("Content-Type", "application/json"),
   ("surreal-ns", c.dbNamespace), ("surreal-db", c.database)] ++ c.authHeaders

end Config

end RetrievalKit.Surreal
