import RetrievalKit.Wire.Basic

/-!
# Retrying

A retrying backend repeats a request whose outcome is transient: a reply with status 429, or a
rate-limit or timeout error.  Between two attempts it waits, twice as long each time.  When the
attempts are used up the last outcome is the result, unchanged.  Of a stream only the opening is
repeated; what an open stream yields passes through.

* `RetryPolicy.delay` — the waiting time after an attempt;
* `retryFrom` — the loop, for any action and any notion of a transient outcome;
* `Backend.retrying` — the backend that retries.
-/

namespace RetrievalKit

/-- How often and how patiently a request is repeated.  Times are whole milliseconds, and no delay
of a policy is meant to leave the range of a duration, which is below `2 ^ 64` seconds. -/
structure RetryPolicy where
  /-- Attempts in all; none counts as one. -/
  maxAttempts : Nat
  /-- The waiting time after the first attempt, in milliseconds. -/
  baseDelay : Nat
  deriving DecidableEq, Repr

namespace RetryPolicy

/-- Three attempts, with half a second after the first. -/
def standard : RetryPolicy := ⟨3, 500⟩

/-- The factor of the waiting time after attempt `n`, counted from zero: it doubles up to the
greatest 32-bit word. -/
def factor (n : Nat) : Nat := if n < 32 then Nat.pow 2 n else Nat.pow 2 32 - 1

/-- The waiting time after attempt `n`, counted from zero, in milliseconds.  The product is a number
without bound; statements about waiting are about delays within the range of a duration, since a
longer one cannot be waited for at all. -/
def delay (p : RetryPolicy) (n : Nat) : Nat := p.baseDelay * factor n

end RetryPolicy

/-- Repeats an action while its outcome is transient and attempts are `left`; `n` attempts were
made before.  `sleep` lets time pass. -/
def retryFrom {σ α : Type} (policy : RetryPolicy) (sleep : Nat → σ → σ)
    (isTransient : Except Error α → Bool) (act : Action σ α) (n : Nat) : Nat → Action σ α
  | 0 => act
  | left + 1 => ExceptT.mk fun s =>
    let r := act.run s
    if isTransient r.1 then
      (retryFrom policy sleep isTransient act (n + 1) left).run (sleep (policy.delay n) r.2)
    else r

/-- Makes an action with as many attempts as the policy allows. -/
def retry {σ α : Type} (policy : RetryPolicy) (sleep : Nat → σ → σ)
    (isTransient : Except Error α → Bool) (act : Action σ α) : Action σ α :=
  retryFrom policy sleep isTransient act 0 (policy.maxAttempts - 1)

/-- Whether a reply or an error may be followed by another attempt. -/
def isTransientReply : Except Error Reply → Bool
  | .ok reply => reply.status == Reply.tooManyRequests
  | .error e => e.isTransient

/-- Whether a failed opening may be followed by another attempt. -/
def isTransientOpening {α : Type} : Except Error α → Bool
  | .ok _ => false
  | .error e => e.isTransient

/-- The backend that repeats transient requests over another one. -/
def Backend.retrying {σ : Type} (policy : RetryPolicy) (sleep : Nat → σ → σ)
    (inner : Backend σ) : Backend σ where
  send request := retry policy sleep isTransientReply (inner.send request)
  sendStream request := retry policy sleep isTransientOpening (inner.sendStream request)

end RetrievalKit
