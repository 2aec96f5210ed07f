import RetrievalKit.Cohere.Chat
import RetrievalKit.Proofs.Sse.Reading

/-!
# The stream of a Cohere chat

* `Chat.chunkStep` — what one event of a stream yields, and whether the stream ends there;
  `chunks_eq_readUntil` proves that a stream is read event by event;
* `Chat.IsEnding` — the events at which a stream ends, said without the reader;
* `Chat.streamChat_endsCleanly` — chunks with text, and after them at most one error or usage.
-/

namespace RetrievalKit.Cohere.Chat

/-- What an event yields, and whether the stream ends with it. -/
def chunkStep : Except Error String → List (Except Error Chunk) × Bool
  | .error e => ([.error e], true)
  | .ok data =>
    match streamEvent data with
    | .error e => ([.error e], true)
    | .ok (.text content) => (if content = "" then [] else [.ok (.ofContent content)], false)
    | .ok (.ending usage) => ((usage.map fun u => .ok ⟨"", some u⟩).toList, true)
    | .ok .other => ([], false)

theorem chunks_eq_readUntil (events : List (Except Error String)) :
    chunks events = Sse.readUntil chunkStep events := by
  induction events with
  | nil => rfl
  | cons event rest ih =>
    cases event with
    | error e => rfl
    | ok data =>
      rw [chunks, Sse.readUntil, chunkStep]
      cases streamEvent data with
      | error e => rfl
      | ok meaning =>
        cases meaning with
        | text content =>
          dsimp only
          rw [ih, if_neg Bool.false_ne_true]
          split
          · rfl
          · rfl
        | ending usage =>
          cases usage with
          | none => rfl
          | some usage => rfl
        | other => exact ih

/-! ## Meanings of events -/

section Meanings

variable {data : String} {v : Json}

theorem streamEvent_of_none (h : Json.parse? data = none) :
    streamEvent data = .error ⟨.parsing, "Cohere stream event: no JSON text"⟩ := by
  rw [streamEvent, h]

theorem streamEvent_of_delta (h : Json.parse? data = some v)
    (htype : v.field "type" = .str "content-delta") :
    streamEvent data = .ok (.text
      (((((v.field "delta").field "message").field "content").field "text").asString?.getD "")) := by
  simp [streamEvent, h, htype, Json.asString?]

theorem streamEvent_of_messageEnd (h : Json.parse? data = some v)
    (htype : v.field "type" = .str "message-end") :
    streamEvent data = .ok (.ending (usage? ((v.field "delta").field "usage"))) := by
  simp [streamEvent, h, htype, Json.asString?]

theorem streamEvent_of_other (h : Json.parse? data = some v)
    (hdelta : v.field "type" ≠ .str "content-delta")
    (hend : v.field "type" ≠ .str "message-end") : streamEvent data = .ok .other := by
  rw [streamEvent, h]
  dsimp only
  split
  · rename_i htype
    exact absurd (Json.asString?_eq_some_iff.mp htype) hdelta
  · rename_i htype
    exact absurd (Json.asString?_eq_some_iff.mp htype) hend
  · rfl

end Meanings

/-! ## Endings -/

/-- The events at which a stream ends: one that cannot be read, one that is no JSON text, and the
end of the message. -/
inductive IsEnding : Except Error String → Prop
  | unreadable (e : Error) : IsEnding (.error e)
  | noJson {data : String} (h : Json.parse? data = none) : IsEnding (.ok data)
  | messageEnd {data : String} {v : Json} (h : Json.parse? data = some v)
    (htype : v.field "type" = .str "message-end") : IsEnding (.ok data)

/-- A stream ends exactly at its endings. -/
theorem chunkStep_snd_iff (event : Except Error String) :
    (chunkStep event).2 = true ↔ IsEnding event := by
  constructor
  · intro hends
    cases event with
    | error e => exact .unreadable e
    | ok data =>
      cases h : Json.parse? data with
      | none => exact .noJson h
      | some v =>
        by_cases hend : v.field "type" = .str "message-end"
        · exact .messageEnd h hend
        · by_cases hdelta : v.field "type" = .str "content-delta"
          · rw [chunkStep, streamEvent_of_delta h hdelta] at hends
            cases hends
          · rw [chunkStep, streamEvent_of_other h hdelta hend] at hends
            cases hends
  · intro h
    cases h with
    | unreadable e => rfl
    | noJson h => rw [chunkStep, streamEvent_of_none h]
    | messageEnd h htype => rw [chunkStep, streamEvent_of_messageEnd h htype]

/-- A piece of text. -/
def IsText (c : Chunk) : Prop := c.content ≠ "" ∧ c.usage = none

/-- The usage of the message, at its end. -/
def IsUsage (c : Chunk) : Prop := c.content = "" ∧ c.usage ≠ none

theorem chunkStep_goesOn (event : Except Error String) (h : (chunkStep event).2 = false) :
    ∃ parts : List Chunk, (chunkStep event).1 = parts.map .ok ∧ ∀ part ∈ parts, IsText part := by
  unfold chunkStep at h ⊢
  split at h
  · cases h
  · split at h
    · cases h
    · rename_i content _
      by_cases hempty : content = ""
      · exact ⟨[], by rw [if_pos hempty]; rfl, fun _ h => (List.not_mem_nil h).elim⟩
      · refine ⟨[.ofContent content], by rw [if_neg hempty]; rfl, fun part hpart => ?_⟩
        rw [List.mem_singleton.mp hpart]
        exact ⟨hempty, rfl⟩
    · cases h
    · exact ⟨[], rfl, fun _ h => (List.not_mem_nil h).elim⟩

theorem chunkStep_ends (event : Except Error String) (h : (chunkStep event).2 = true) :
    ClosesOnce IsText IsUsage (chunkStep event).1 := by
  unfold chunkStep at h ⊢
  split at h
  · exact closesOnce_error _
  · split at h
    · exact closesOnce_error _
    · cases h
    · rename_i usage _
      cases usage with
      | none => exact closesOnce_nil
      | some usage => exact closesOnce_closing ⟨rfl, Option.some_ne_none usage⟩
    · cases h

/-- **The stream of a chat yields chunks with text, and after them at most one error or usage.** -/
theorem streamChat_endsCleanly {σ : Type} (c : ChatConfig) (backend : Backend σ) (r : ChatRequest) :
    Drain.EndsCleanly (backend.sendStream (chatRequest c r true)) IsText IsUsage IsEnding
      (streamChat c backend r) := by
  have hread : (fun pieces => chunks (Sse.events pieces)) =
      fun pieces => Sse.readUntil chunkStep (Sse.events pieces) :=
    funext fun pieces => chunks_eq_readUntil (Sse.events pieces)
  unfold streamChat
  rw [hread]
  exact Drain.endsCleanly_readPieces chunkStep_goesOn chunkStep_ends chunkStep_snd_iff

end RetrievalKit.Cohere.Chat
