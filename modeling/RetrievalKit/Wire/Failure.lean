import RetrievalKit.Json.Printer
import RetrievalKit.Wire.Basic

/-!
# Failed replies

A reply with a status of 400 or more is an error: a rate limit for 429, otherwise an error of the
subsystem that asked.  Its text ends with what the provider says about it.
-/

namespace RetrievalKit

/-- What a body says: its text, the text of one field, or all of it as JSON. -/
def Json.explanation (key : String) : Json → String
  | .str s => s
  | v => ((v.field key).asString?).getD v.render

/-- Refuses a failed reply of a service, with an error of this kind. -/
def Reply.check (service : String) (kind : ErrorKind) (explain : Json → String) (r : Reply) :
    Except Error Unit :=
  if !r.isFailure then .ok ()
  else if r.status = Reply.tooManyRequests then .error ⟨.rateLimit, explain r.body⟩
  else .error ⟨kind, service ++ " API error (" ++ toString r.status ++ "): " ++ explain r.body⟩

/-- A reply with any other status is let pass. -/
theorem Reply.check_of_status {r : Reply} (h : r.status < 400) (service : String)
    (kind : ErrorKind) (explain : Json → String) : r.check service kind explain = .ok () := by
  have hpasses : (!r.isFailure) = true := by
    rw [Reply.isFailure, decide_eq_false (Nat.not_le.mpr h)]
    rfl
  rw [Reply.check, if_pos hpasses]

end RetrievalKit
