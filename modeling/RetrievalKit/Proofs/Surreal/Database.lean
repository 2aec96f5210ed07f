import RetrievalKit.Proofs.Surreal.Query
import RetrievalKit.Proofs.Surreal.Variables
import RetrievalKit.Proofs.Wire.Action
import RetrievalKit.Surreal.Store

/-!
# An ideal database

A database that executes the statements of a query in order, and the network between it and a
store.  It reads the text of a request, looks up the variables, and works on tables of records.

* `Deed`, `Deed.perform` — a statement with the values of its variables, and its execution;
* `Request.deeds?` — reading a request; what cannot be read is refused as a whole;
* `KeyChoice` — how the database chooses the key of a new record;
* `Fate`, `Hosted.backend` — what becomes of each attempt to send a request;
* `deeds?_add`, `deeds?_delete`, `deeds?_fetch` — what the commands of a store ask for.
-/

namespace RetrievalKit

namespace Surreal

/-! ## Tables -/

/-- The records of each table by key, and the number of keys chosen so far. -/
structure Database where
  tables : String → Dict
  chosen : Nat

namespace Database

/-- A database without records. -/
def empty : Database := ⟨fun _ => [], 0⟩

/-- Changes one table. -/
def update (table : String) (f : Dict → Dict) (db : Database) : Database :=
  { db with tables := fun t => if t = table then f (db.tables t) else db.tables t }

@[simp] theorem tables_update (table : String) (f : Dict → Dict) (db : Database) :
    (db.update table f).tables table = f (db.tables table) := if_pos rfl

theorem tables_update_of_ne {table other : String} (h : other ≠ table) (f : Dict → Dict)
    (db : Database) : (db.update table f).tables other = db.tables other := if_neg h

end Database

/-- Tables of other names are as they were. -/
def SameElsewhere (name : String) (db db' : Database) : Prop :=
  ∀ other, other ≠ name → db'.tables other = db.tables other

theorem SameElsewhere.refl (name : String) (db : Database) : SameElsewhere name db db :=
  fun _ _ => rfl

theorem SameElsewhere.trans {name : String} {db db' db'' : Database}
    (h' : SameElsewhere name db' db'') (h : SameElsewhere name db db') :
    SameElsewhere name db db'' :=
  fun other hother => (h' other hother).trans (h other hother)

/-- How a database chooses the key of a new record: by whatever it likes, but never an empty key
and never one of the keys that the table holds. -/
structure KeyChoice where
  choose : Nat → List String → String
  ne_empty : ∀ n held, choose n held ≠ ""
  fresh : ∀ n held, choose n held ∉ held

/-- A choice of keys: a letter before all the keys that the table holds. -/
def KeyChoice.joined : KeyChoice where
  choose _ held := "k" ++ String.join held
  ne_empty n held h := by
    have hlist := congrArg String.toList h
    rw [String.toList_append] at hlist
    cases hlist
  fresh n held hmem := by
    have hle : ∀ {held : List String} {key : String}, key ∈ held →
        key.toList.length ≤ (String.join held).toList.length := by
      intro held key hkey
      rw [String.toList_join]
      exact (List.sublist_flatten_of_mem (List.mem_map_of_mem hkey)).length_le
    have hlength := hle hmem
    rw [String.toList_append, List.length_append] at hlength
    have hone : "k".toList.length = 1 := rfl
    omega

/-! ## Statements with their values -/

/-- A statement with the values of its variables. -/
inductive Deed where
  | upsert (table key : String) (content : Json)
  | create (table : String) (content : Json)
  | delete (table key : String)
  | fetch (table key : String)

/-- The value of a variable that has to be a string. -/
def stringVariable? (bindings : Dict) (name : String) : Option String :=
  (Dict.get? name bindings).bind Json.asString?

/-- Looks up the variables of a statement. -/
def Query.deed? (bindings : Dict) : Query → Option Deed
  | .upsert table key content => do
    let table ← stringVariable? bindings table
    let key ← stringVariable? bindings key
    let content ← Dict.get? content bindings
    some (.upsert table key content)
  | .create table content => do
    let table ← stringVariable? bindings table
    let content ← Dict.get? content bindings
    some (.create table content)
  | .delete table key => do
    let table ← stringVariable? bindings table
    let key ← stringVariable? bindings key
    some (.delete table key)
  | .fetch table key => do
    let table ← stringVariable? bindings table
    let key ← stringVariable? bindings key
    some (.fetch table key)

/-- The answer to writing a record: its name. -/
def written (table key : String) : Json :=
  .arr [Json.ofEntries [("id", .str (RecordId.angled table key))]]

/-- The row of a record: its name, its text and its metadata. -/
def rowOf (table key : String) (content : Json) : Json :=
  Json.ofEntries [("id", .str (RecordId.angled table key)), ("text", content.field "text"),
    ("metadata", content.field "metadata")]

/-- Executes a statement; answers its result. -/
def Deed.perform (keys : KeyChoice) : Deed → Database → Json × Database
  | .upsert table key content, db => (written table key, db.update table (Dict.insert key content))
  | .create table content, db =>
    let key := keys.choose db.chosen (Dict.keys (db.tables table))
    (written table key,
      { db.update table (Dict.insert key content) with chosen := db.chosen + 1 })
  | .delete table key, db => (.arr [], db.update table (Dict.erase key))
  | .fetch table key, db =>
    match Dict.get? key (db.tables table) with
    | some content => (.arr [rowOf table key content], db)
    | none => (.arr [], db)

/-- Executes statements in order. -/
def performAll (keys : KeyChoice) : List Deed → Database → List Json × Database
  | [], db => ([], db)
  | deed :: deeds, db =>
    let (result, db) := deed.perform keys db
    let (results, db) := performAll keys deeds db
    (result :: results, db)

theorem performAll_cons (keys : KeyChoice) (deed : Deed) (deeds : List Deed) (db : Database) :
    performAll keys (deed :: deeds) db =
      let first := deed.perform keys db
      (first.1 :: (performAll keys deeds first.2).1, (performAll keys deeds first.2).2) := rfl

theorem perform_fetch_of_some (keys : KeyChoice) {db : Database} {table key : String}
    {content : Json} (h : Dict.get? key (db.tables table) = some content) :
    (Deed.fetch table key).perform keys db = (.arr [rowOf table key content], db) := by
  show (match Dict.get? key (db.tables table) with
    | some content => (Json.arr [rowOf table key content], db)
    | none => (.arr [], db)) = _
  rw [h]

theorem perform_fetch_of_none (keys : KeyChoice) {db : Database} {table key : String}
    (h : Dict.get? key (db.tables table) = none) :
    (Deed.fetch table key).perform keys db = (.arr [], db) := by
  show (match Dict.get? key (db.tables table) with
    | some content => (Json.arr [rowOf table key content], db)
    | none => (.arr [], db)) = _
  rw [h]

end Surreal

open Surreal

/-! ## Requests and replies -/

/-- What a request asks for, if it can be read. -/
def Request.deeds? (request : Request) : Option (List Deed) := do
  let (text, bindings) ← request.query?
  let queries ← (statementsOf text).mapM Query.read?
  queries.mapM (Query.deed? bindings)

namespace Surreal

/-- The reply to a query whose statements had these results. -/
def successReply (results : List Json) : Reply :=
  ⟨200, Json.ofEntries [("result", .arr (results.map fun result =>
    Json.ofEntries [("status", .str "OK"), ("result", result)]))]⟩

/-- The reply to a query that could not be read. -/
def refusal : Reply := ⟨400, Json.ofEntries [("error", .str "malformed query")]⟩

/-- Executes a request, all of it or, if it cannot be read, nothing. -/
def answer (keys : KeyChoice) (request : Request) (db : Database) : Reply × Database :=
  match request.deeds? with
  | some deeds =>
    let (results, db) := performAll keys deeds db
    (successReply results, db)
  | none => (refusal, db)

/-! ## The network -/

/-- What becomes of an attempt to send a request. -/
inductive Fate where
  /-- The request is executed and the reply arrives. -/
  | answered
  /-- The request is executed and the reply is lost. -/
  | lost
  /-- The request is not executed; the reply says so. -/
  | refused (reply : Reply) (isFailure : reply.isFailure = true)
  /-- The request is not executed; no reply arrives. -/
  | failed (error : Error)

/-- A database, the number of attempts that were made to send it a request, and the rest of the
world. -/
structure Hosted (ω : Type) where
  database : Database
  attempts : Nat
  rest : ω

namespace Hosted

variable {ω α : Type}

/-- An effect on the rest of the world. -/
def onRest (f : StateM ω α) : StateM (Hosted ω) α := fun w =>
  let r := f.run w.rest
  (r.1, { w with rest := r.2 })

/-- An embedder in the rest of the world. -/
def embedder (e : Embedder ω) : Embedder (Hosted ω) where
  embedDocuments texts := ExceptT.mk (onRest (e.embedDocuments texts).run)
  embedQuery text := ExceptT.mk (onRest (e.embedQuery text).run)

/-- Time passes in the rest of the world. -/
def sleep (f : Nat → ω → ω) (n : Nat) (w : Hosted ω) : Hosted ω := { w with rest := f n w.rest }

/-- The way to the database, on which attempt `n` has the fate `fates n`. -/
def backend (keys : KeyChoice) (fates : Nat → Fate) : Backend (Hosted ω) where
  send request := ExceptT.mk fun w =>
    let counted := { w with attempts := w.attempts + 1 }
    let executed := answer keys request w.database
    match fates w.attempts with
    | .answered => (.ok executed.1, { counted with database := executed.2 })
    | .lost => (.error ⟨.timeout, "no reply"⟩, { counted with database := executed.2 })
    | .refused reply _ => (.ok reply, counted)
    | .failed error => (.error error, counted)
  sendStream _ := pure []

theorem run_send (keys : KeyChoice) (fates : Nat → Fate) (request : Request) (w : Hosted ω) :
    ((backend keys fates).send request).run w =
      let counted := { w with attempts := w.attempts + 1 }
      let executed := answer keys request w.database
      match fates w.attempts with
      | .answered => (.ok executed.1, { counted with database := executed.2 })
      | .lost => (.error ⟨.timeout, "no reply"⟩, { counted with database := executed.2 })
      | .refused reply _ => (.ok reply, counted)
      | .failed error => (.error error, counted) := rfl

end Hosted

theorem Session.run_lift {σ α : Type} (a : Action σ α) (w : Session σ) :
    (Session.lift a).run w = ((a.run w.world).1, { w with world := (a.run w.world).2 }) := rfl

/-! ## What the commands of a store ask for -/

theorem mapM_eq_some_map {α β : Type} {f : α → Option β} {g : α → β} {items : List α}
    (h : ∀ a ∈ items, f a = some (g a)) : items.mapM f = some (items.map g) := by
  induction items with
  | nil => rfl
  | cons a items ih =>
    have hhead := h a List.mem_cons_self
    have htail := ih fun b hb => h b (List.mem_cons_of_mem a hb)
    rw [List.mapM_cons, hhead, htail]
    rfl

/-- A request whose statements and variables are known. -/
theorem deeds?_callRequest {α : Type} {c : Config} {command : Command} {items : List α}
    {query : α → Query} {deed : α → Deed}
    (hread : statementsOf command.text = items.map fun a => (query a).clause)
    (hvalues : ∀ a ∈ items, (query a).deed? command.bindings = some (deed a)) (id : Nat) :
    (callRequest c id command).deeds? = some (items.map deed) := by
  have hqueries : (statementsOf command.text).mapM Query.read? = some (items.map query) := by
    rw [hread, List.mapM_map]
    exact mapM_eq_some_map fun a _ => Query.read?_clause (query a)
  have hdeeds : (items.map query).mapM (Query.deed? command.bindings) =
      some (items.map deed) := by
    rw [List.mapM_map]
    exact mapM_eq_some_map hvalues
  unfold Request.deeds?
  rw [query?_callRequest, Option.bind_eq_bind, Option.bind_some]
  dsimp only
  rw [hqueries, Option.bind_eq_bind, Option.bind_some, hdeeds]

/-- Writes a document under its identifier, if it has one. -/
def writeDeed (table : String) (document : Document × Vector32) : Deed :=
  if document.1.hasId then .upsert table document.1.id (Command.record document.1 document.2)
  else .create table (Command.record document.1 document.2)

/-- Writing a document stores its record under one key and touches nothing else: under the
document's identifier if it has one, else under a key that was free. -/
theorem perform_writeDeed (keys : KeyChoice) (name : String) (d : Document) (vector : Vector32)
    (db : Database) :
    ∃ key db', (writeDeed name (d, vector)).perform keys db = (written name key, db') ∧
      db'.tables name = (db.tables name).insert key (Command.record d vector) ∧
      SameElsewhere name db db' ∧
      (d.hasId = true ∧ key = d.id ∨
        d.hasId = false ∧ key ≠ "" ∧ key ∉ Dict.keys (db.tables name)) := by
  unfold writeDeed
  cases hid : d.hasId with
  | true =>
    exact ⟨d.id, _, rfl, Database.tables_update .., fun _ h => Database.tables_update_of_ne h _ db,
      Or.inl ⟨rfl, rfl⟩⟩
  | false =>
    exact ⟨_, _, rfl, Database.tables_update .., fun _ h => Database.tables_update_of_ne h _ db,
      Or.inr ⟨rfl, keys.ne_empty _ _, keys.fresh _ _⟩⟩

theorem stringVariable?_of_get? {bindings : Dict} {name value : String}
    (h : Dict.get? name bindings = some (.str value)) :
    stringVariable? bindings name = some value := by
  unfold stringVariable?
  rw [h]
  rfl

theorem deed?_write (c : Config) {documents : List (Document × Vector32)} {i : Nat}
    {document : Document × Vector32} (h : documents[i]? = some document) :
    (Query.write document.1 i).deed? (Command.add c documents).bindings =
      some (writeDeed c.table document) := by
  have htable := stringVariable?_of_get? (Command.get?_add_table c documents)
  have hcontent := Command.get?_add_content c h
  have hid := Command.get?_add_id c h
  unfold Query.write writeDeed
  split
  · rename_i hown
    rw [if_pos hown] at hid
    simp only [Query.deed?, htable, stringVariable?_of_get? hid, hcontent, Option.bind_eq_bind,
      Option.bind_some]
  · simp only [Query.deed?, htable, hcontent, Option.bind_eq_bind, Option.bind_some]

/-- Adding documents asks for one write for each of them, in order. -/
theorem deeds?_add (c : Config) (documents : List (Document × Vector32)) (id : Nat) :
    (callRequest c id (.add c documents)).deeds? = some (documents.map (writeDeed c.table)) := by
  have hread : statementsOf (Command.add c documents).text =
      documents.zipIdx.map fun entry => (Query.write entry.1.1 entry.2).clause := by
    rw [(statementsOf_add c documents).1, List.map_map]
    rfl
  rw [deeds?_callRequest hread fun entry hentry =>
    deed?_write c (List.mem_zipIdx_iff_getElem?.mp hentry)]
  have hfst := congrArg (List.map (writeDeed c.table)) (List.zipIdx_map_fst 0 documents)
  rw [List.map_map] at hfst
  exact congrArg some hfst

/-- Statements on given keys ask for one deed on each key, in order. -/
theorem deeds?_numbered (c : Config) (ids : List String) {statement : Nat → Statement}
    {query : Nat → Query} {deed : String → Deed}
    (hquery : ∀ i, (statement i).query? = some (query i))
    (hdeed : ∀ i id, ids[i]? = some id →
      (query i).deed? (Command.idBindings c ids) = some (deed id)) (id : Nat) :
    (callRequest c id ⟨(List.range ids.length).map statement,
      Command.idBindings c ids⟩).deeds? = some (ids.map deed) := by
  have hread : statementsOf (Command.text ⟨(List.range ids.length).map statement,
      Command.idBindings c ids⟩) = ids.zipIdx.map fun entry => (query entry.2).clause := by
    rw [(statementsOf_numbered hquery ids.length _).1, List.range_eq_range',
      ← List.zipIdx_map_snd 0 ids, List.map_map]
    rfl
  rw [deeds?_callRequest hread fun entry hentry =>
    hdeed entry.2 entry.1 (List.mem_zipIdx_iff_getElem?.mp hentry)]
  have hfst := congrArg (List.map deed) (List.zipIdx_map_fst 0 ids)
  rw [List.map_map] at hfst
  exact congrArg some hfst

theorem stringVariables?_idBindings (c : Config) {ids : List String} {i : Nat} {id : String}
    (h : ids[i]? = some id) :
    stringVariable? (Command.idBindings c ids) "tb" = some c.table ∧
      stringVariable? (Command.idBindings c ids) (idVariable i) = some id :=
  ⟨stringVariable?_of_get? (Command.get?_idBindings_table c ids),
    stringVariable?_of_get? (Command.get?_idBindings c h)⟩

theorem deeds?_delete (c : Config) (ids : List String) (id : Nat) :
    (callRequest c id (.delete c ids)).deeds? = some (ids.map (.delete c.table)) := by
  refine deeds?_numbered c ids (fun _ => rfl) (fun i key h => ?_) id
  obtain ⟨htable, hkey⟩ := stringVariables?_idBindings c h
  simp only [Query.deed?, htable, hkey, Option.bind_eq_bind, Option.bind_some]

theorem deeds?_fetch (c : Config) (ids : List String) (id : Nat) :
    (callRequest c id (.fetch c ids)).deeds? = some (ids.map (.fetch c.table)) := by
  refine deeds?_numbered c ids (fun _ => rfl) (fun i key h => ?_) id
  obtain ⟨htable, hkey⟩ := stringVariables?_idBindings c h
  simp only [Query.deed?, htable, hkey, Option.bind_eq_bind, Option.bind_some]

end Surreal

end RetrievalKit
