import RetrievalKit.Chat.Model

/-!
# Scripted providers

A `Bench` is a world without a network: providers that answer from scripts, a log of all that was
sent, and a clock that only waiting moves.

* `Bench.backend` — the scripted provider in a slot of the bench;
* `Bench.chatModel` — the scripted chat model in a slot;
* `Bench.sleep` — waiting, for thirty years at most.
-/

namespace RetrievalKit

/-- What a scripted provider has yet to say. -/
structure Script where
  /-- Outcomes of requests. -/
  replies : List (Except Error Reply)
  /-- Outcomes of opening a stream. -/
  streams : List (Except Error (List Piece))
  /-- Answers of a scripted chat model. -/
  answers : List ChatResponse

def Script.empty : Script := ⟨[], [], []⟩

/-- A request in the log. -/
structure Sent where
  /-- The slot of the provider it went to. -/
  slot : Nat
  /-- The time it was sent at, in milliseconds. -/
  time : Nat
  request : Request
  /-- Whether it asked for a stream. -/
  streamed : Bool

/-- Scripted providers with a common log and clock. -/
structure Bench where
  scripts : List Script
  /-- What was sent, oldest first. -/
  log : List Sent
  /-- Milliseconds since the beginning. -/
  clock : Nat

namespace Bench

/-- The script in a slot; slots beyond the last have nothing to say. -/
def script (b : Bench) (slot : Nat) : Script := b.scripts.getD slot Script.empty

def setScript (b : Bench) (slot : Nat) (s : Script) : Bench :=
  { b with scripts := b.scripts.set slot s }

/-- Notes a request in the log. -/
def record (b : Bench) (slot : Nat) (request : Request) (streamed : Bool) : Bench :=
  { b with log := b.log ++ [⟨slot, b.clock, request, streamed⟩] }

/-- The longest a single wait lasts: thirty years of 365 days, in milliseconds. -/
def longestWait : Nat := 30 * 365 * 86400 * 1000

/-- Lets time pass; a wait beyond the longest one is cut to it. -/
def sleep (milliseconds : Nat) (b : Bench) : Bench :=
  { b with clock := b.clock + min milliseconds longestWait }

/-- Up to the longest wait, the clock moves by exactly the time asked for. -/
theorem clock_sleep_of_le {milliseconds : Nat} (h : milliseconds ≤ longestWait) (b : Bench) :
    (b.sleep milliseconds).clock = b.clock + milliseconds := by
  simp [sleep, Nat.min_eq_left h]

/-- The outcome of a request that the script does not foresee. -/
def exhausted : Error := ⟨.model, "FakeBackend exhausted"⟩

/-- Answers a request with the next scripted outcome. -/
def send (slot : Nat) (request : Request) : Action Bench Reply := ExceptT.mk fun b =>
  let b := b.record slot request false
  let s := b.script slot
  match s.replies with
  | [] => (.error exhausted, b)
  | r :: rest => (r, b.setScript slot { s with replies := rest })

/-- Opens the next scripted stream; after the last one streams are empty. -/
def sendStream (slot : Nat) (request : Request) : Action Bench (List Piece) := ExceptT.mk fun b =>
  let b := b.record slot request true
  let s := b.script slot
  match s.streams with
  | [] => (.ok [], b)
  | r :: rest => (r, b.setScript slot { s with streams := rest })

/-- The scripted provider in a slot. -/
def backend (slot : Nat) : Backend Bench := ⟨send slot, sendStream slot⟩

/-- Answers a chat request with the next scripted answer, whatever the request. -/
def answer (slot : Nat) : Action Bench ChatResponse := ExceptT.mk fun b =>
  let s := b.script slot
  match s.answers with
  | [] => (.error ⟨.model, "scripted model exhausted responses"⟩, b)
  | r :: rest => (.ok r, b.setScript slot { s with answers := rest })

/-- The scripted chat model in a slot. -/
def chatModel (slot : Nat) : ChatModel Bench := .ofChat fun _ => answer slot

end Bench

end RetrievalKit
