/-!
# Incremental UTF-8

Bytes arrive one at a time; a character is known once its last byte has arrived.  From the first
byte that continues no character on nothing more is decoded.

* `Utf8.State` — what is known after some bytes;
* `Utf8.State.step` — one more byte, and the character it completes;
* `Utf8.State.complaint?` — what is wrong when no more bytes come.
-/

namespace RetrievalKit.Utf8

/-- What is known after some bytes. -/
inductive State where
  /-- All bytes so far form characters. -/
  | ready
  /-- `seen` bytes of a character have arrived and `left` are missing; the next one lies between
  `low` and `high`.  `value` is the part of the code point known so far. -/
  | inside (seen value low high left : Nat)
  /-- The `length` bytes after the last character begin no character. -/
  | broken (length : Nat)
  deriving DecidableEq, Repr

namespace State

/-- The state after the first byte of a character of several bytes. -/
def lead (b : Nat) : State :=
  if 0xC2 ≤ b ∧ b ≤ 0xDF then .inside 1 (b - 0xC0) 0x80 0xBF 1
  else if b = 0xE0 then .inside 1 0 0xA0 0xBF 2
  else if b = 0xED then .inside 1 0xD 0x80 0x9F 2
  else if 0xE1 ≤ b ∧ b ≤ 0xEF then .inside 1 (b - 0xE0) 0x80 0xBF 2
  else if b = 0xF0 then .inside 1 0 0x90 0xBF 3
  else if 0xF1 ≤ b ∧ b ≤ 0xF3 then .inside 1 (b - 0xF0) 0x80 0xBF 3
  else if b = 0xF4 then .inside 1 4 0x80 0x8F 3
  else .broken 1

/-- Takes one byte; answers the character that it completes. -/
def step (s : State) (byte : UInt8) : State × Option Char :=
  let b := byte.toNat
  match s with
  | .ready => if b < 0x80 then (.ready, some (Char.ofNat b)) else (lead b, none)
  | .inside seen value low high left =>
    if low ≤ b ∧ b ≤ high then
      let value := value * 64 + (b - 0x80)
      if left ≤ 1 then (.ready, some (Char.ofNat value))
      else (.inside (seen + 1) value 0x80 0xBF (left - 1), none)
    else (.broken seen, none)
  | .broken n => (.broken n, none)

/-- What is wrong with the bytes after the last character when no more come. -/
def complaint? : State → Option String
  | .ready => none
  | .inside .. => some "incomplete utf-8 byte sequence from index 0"
  | .broken n => some ("invalid utf-8 sequence of " ++ toString n ++ " bytes from index 0")

end State

end RetrievalKit.Utf8
