import RetrievalKit.Chat.Model
import RetrievalKit.Embedding.Basic
import RetrievalKit.Json.Printer
import RetrievalKit.Surreal.Command

/-!
# Calls of the database

Each command is one call of the database's query method.  The calls of a session carry the
numbers 1, 2, 3, …; a call that fails has used its number.

* `Session` — the world together with the number of the next call;
* `statementResults` — the results of all statements, or the error a reply stands for;
* `query` — one call.
-/

namespace RetrievalKit.Surreal

/-- The world `σ` and the number of the next call. -/
structure Session (σ : Type) where
  world : σ
  /-- The number of the next call.  A counter of 64 bits is back at zero after `2 ^ 64 - 1` calls;
  this one has no bound, so statements are about sessions with fewer than `2 ^ 64` calls. -/
  nextId : Nat

namespace Session

/-- The session before its first call. -/
def start {σ : Type} (world : σ) : Session σ := ⟨world, 1⟩

/-- Applies an effect on the world. -/
def onWorld {σ α : Type} (f : StateM σ α) : StateM (Session σ) α := fun s =>
  let r := f.run s.world
  (r.1, { s with world := r.2 })

/-- An action on the world, inside a session. -/
def lift {σ α : Type} (a : Action σ α) : Action (Session σ) α := ExceptT.mk (onWorld a.run)

end Session

end Surreal

open Surreal (Session)

/-- A backend of the world, inside a session. -/
def Backend.inSession {σ : Type} (b : Backend σ) : Backend (Session σ) where
  send request := Session.lift (b.send request)
  sendStream request := Session.lift (b.sendStream request)

/-- An embedder of the world, inside a session. -/
def Embedder.inSession {σ : Type} (e : Embedder σ) : Embedder (Session σ) where
  embedDocuments texts := Session.lift (e.embedDocuments texts)
  embedQuery text := Session.lift (e.embedQuery text)

/-- A chat model of the world, inside a session. -/
def ChatModel.inSession {σ : Type} (m : ChatModel σ) : ChatModel (Session σ) where
  chat request := Session.lift (m.chat request)
  streamChat request := Session.onWorld (m.streamChat request)

namespace Surreal

/-! ## Replies -/

/-- What a reply says about a failure: its text, the database's explanation, or all of it. -/
def explanation (body : Json) : String :=
  match body with
  | .str s => s
  | v =>
    let note := (v.get? "information").or (v.get? "details")
    (note.bind Json.asString?).getD v.render

/-- The result of statement `i`; a missing status counts as success. -/
def statementResult (statement : Json) (i : Nat) : Except Error Json :=
  let status := ((statement.get? "status").bind Json.asString?).getD "OK"
  let result := statement.field "result"
  if status = "OK" then .ok result
  else
    let message := match result with
      | .str s => s
      | v => v.render
    .error ⟨.vectorStore, "SurrealDB statement " ++ toString i ++ " failed: " ++ message⟩

/-- The error a reply as a whole stands for, if any. -/
def replyError? (reply : Reply) : Option Error :=
  let status := toString reply.status
  if reply.status = Reply.tooManyRequests then some ⟨.rateLimit, explanation reply.body⟩
  else if reply.status = 401 ∨ reply.status = 403 then
    some ⟨.vectorStore, "SurrealDB authentication failed (HTTP " ++ status ++ "): " ++
      explanation reply.body⟩
  else match reply.body.get? "error" with
    | some e =>
      let message := ((e.get? "message").bind Json.asString?).getD "unknown RPC error"
      some ⟨.vectorStore, "SurrealDB RPC error: " ++ message⟩
    | none =>
      if reply.isFailure then
        some ⟨.vectorStore, "SurrealDB error (HTTP " ++ status ++ "): " ++ explanation reply.body⟩
      else none

/-- The results of all statements in order; the first failed one decides. -/
def statementResults (reply : Reply) : Except Error (List Json) :=
  match replyError? reply with
  | some e => .error e
  | none =>
    match (reply.body.get? "result").bind Json.asArray? with
    | some statements => statements.zipIdx.mapM fun (s, i) => statementResult s i
    | none => .error ⟨.parsing, "SurrealDB response missing result array"⟩

/-! ## Calls -/

/-- The request of call `id`. -/
def callRequest (c : Config) (id : Nat) (command : Command) : Request :=
  { url := c.rpcUrl
    headers := c.headers
    body := Json.ofEntries
      [("id", .int id), ("method", .str "query"),
       ("params", .arr [.str command.text, .obj command.bindings])] }

/-- Takes the number of the next call. -/
def takeId {σ : Type} : Action (Session σ) Nat := ExceptT.mk fun s =>
  (.ok s.nextId, { s with nextId := s.nextId + 1 })

/-- Sends a command and answers the results of its statements. -/
def query {σ : Type} (c : Config) (backend : Backend σ) (command : Command) :
    Action (Session σ) (List Json) := do
  let id ← takeId
  let reply ← Session.lift (backend.send (callRequest c id command))
  liftExcept (statementResults reply)

end Surreal

end RetrievalKit
