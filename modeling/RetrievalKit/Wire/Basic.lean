import RetrievalKit.Error
import RetrievalKit.Json.Basic

/-!
# Requests, replies and backends

A client speaks to a provider through a `Backend`: a JSON request goes out and one reply, or a
stream of byte chunks, comes back.  The world a backend acts on is a state `σ`; what a client
does is an `Action`, which may fail and keeps its effects when it does.

A stream is the list of all that it yields (`Drain`): a reader that takes nothing from it never
opens it.
-/

namespace RetrievalKit

/-- An effect on the world `σ` that yields a value or an error. -/
abbrev Action (σ : Type) (α : Type) := ExceptT Error (StateM σ) α

/-- An effect on the world `σ` that yields all items of a stream. -/
abbrev Drain (σ : Type) (α : Type) := StateM σ (List (Except Error α))

/-- Ends an action with an error. -/
def fail {σ α : Type} (kind : ErrorKind) (text : String) : Action σ α := throw ⟨kind, text⟩

/-- An outcome without an effect. -/
def liftExcept {σ α : Type} (r : Except Error α) : Action σ α := ExceptT.mk (pure r)

/-- A stream with these items. -/
def Drain.ofItems {σ α : Type} (items : List (Except Error α)) : Drain σ α := fun s => (items, s)

/-- Takes at most `n` items of a stream. -/
def Drain.take {σ α : Type} (n : Nat) (items : Drain σ α) : Drain σ α := fun s =>
  match n with
  | 0 => ([], s)
  | n + 1 =>
    let r := items s
    (r.1.take (n + 1), r.2)

/-- The stream of the one item that an action yields. -/
def Drain.ofAction {σ α : Type} (a : Action σ α) : Drain σ α := fun s =>
  let r := a.run s
  ([r.1], r.2)

/-- Changes the values of a stream, not its errors. -/
def Drain.map {σ α β : Type} (f : α → β) (items : Drain σ α) : Drain σ β := fun s =>
  let r := items s
  (r.1.map (Except.map f), r.2)

/-! ## Requests and replies -/

/-- An outgoing request with a JSON body. -/
structure Request where
  url : String
  headers : List (String × String)
  body : Json

/-- Equality of names up to the case of ASCII letters. -/
def sameName (a b : String) : Bool := a.toList.map Char.toLower == b.toList.map Char.toLower

/-- The first header with this name, in any letter case. -/
def Request.header? (name : String) (r : Request) : Option String :=
  (r.headers.find? fun h => sameName h.1 name).map (·.2)

/-- A provider's reply. -/
structure Reply where
  status : Nat
  body : Json

/-- The status of a reply that asks the client to slow down. -/
def Reply.tooManyRequests : Nat := 429

/-- Whether the status reports an error. -/
def Reply.isFailure (r : Reply) : Bool := decide (400 ≤ r.status)

/-- A piece of a stream: some bytes, or an error in their place. -/
abbrev Piece := Except Error (List UInt8)

/-- The items read from a stream that an action opens; an error in opening is the only item. -/
def Action.readPieces {σ α : Type} (opening : Action σ (List Piece))
    (read : List Piece → List (Except Error α)) : Drain σ α := fun s =>
  match opening.run s with
  | (.ok pieces, s) => (read pieces, s)
  | (.error e, s) => ([.error e], s)

/-- The way to a provider. -/
structure Backend (σ : Type) where
  /-- Sends a request and waits for the reply. -/
  send : Request → Action σ Reply
  /-- Sends a request and opens the stream that answers it. -/
  sendStream : Request → Action σ (List Piece)

/-! ## Addresses -/

/-- An address without the slashes at its end. -/
def trimSlashes (url : String) : String :=
  String.ofList (url.toList.reverse.dropWhile (· == '/')).reverse

/-- An address below a base address. -/
def joinPath (base path : String) : String := trimSlashes base ++ "/" ++ path

end RetrievalKit
