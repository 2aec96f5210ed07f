import RetrievalKit.Proofs.HuggingFace.Cut
import RetrievalKit.Proofs.Sse.Reading

/-!
# The end of a stream of tokens

* `textStep` — what one event of a stream yields, and whether the stream ends there;
  `texts_eq_readUntil` proves that a stream is read event by event;
* `IsEnding` — the events at which a stream ends, said without the reader;
* `Endpoint.stream_endsCleanly`, `Endpoint.streamChat_endsCleanly` — texts, and after them at most
  one error.
-/

namespace RetrievalKit.HuggingFace

variable {stops : List (List Char)}

/-- What an event yields, and whether the stream ends with it. -/
def textStep (stops : List (List Char)) :
    Except Error String → List (Except Error String) × Bool
  | .error e => ([.error e], true)
  | .ok data =>
    match tokenEvent data with
    | .error e => ([.error e], true)
    | .ok .other => ([], false)
    | .ok (.token text) =>
      (textItem (cutAtStop stops text.toList).1, (cutAtStop stops text.toList).2)

theorem texts_eq_readUntil (stops : List (List Char)) (events : List (Except Error String)) :
    texts stops events = Sse.readUntil (textStep stops) events := by
  induction events with
  | nil => rfl
  | cons event rest ih =>
    cases event with
    | error e => rfl
    | ok data =>
      rw [texts, Sse.readUntil, textStep]
      cases tokenEvent data with
      | error e => rfl
      | ok meaning =>
        cases meaning with
        | other => exact ih
        | token text =>
          dsimp only
          rw [ih]
          split
          · rename_i hcut
            simp only [hcut, if_true]
          · rename_i hcut
            simp only [hcut, Bool.false_eq_true, if_false]

/-! ## Endings -/

/-- The events at which a stream ends: one that cannot be read, one that is no JSON text, one that
reports an error, and a token in which a stop sequence begins.  Data of blanks only are no text to
be read. -/
inductive IsEnding (stops : List (List Char)) : Except Error String → Prop
  | unreadable (e : Error) : IsEnding stops (.error e)
  | noJson {data : String} (hdata : Text.isBlank data = false) (h : Json.parse? data = none) :
    IsEnding stops (.ok data)
  | failure {data message : String} {v : Json} (hdata : Text.isBlank data = false)
    (h : Json.parse? data = some v) (herror : v.get? "error" = some (.str message)) :
    IsEnding stops (.ok data)
  | stop {data text : String} {v : Json} {i : Nat} (hdata : Text.isBlank data = false)
    (h : Json.parse? data = some v) (herror : ∀ message, v.get? "error" ≠ some (.str message))
    (hspecial : (v.field "token").field "special" ≠ .bool true)
    (htext : (v.field "token").field "text" = .str text) (hi : i < text.length)
    (hstop : StopsAt stops text.toList i) : IsEnding stops (.ok data)

section Meanings

variable {data : String} {v : Json}

/-- An event without an error text is a token, or a special one. -/
theorem tokenEvent_of_no_error (hdata : Text.isBlank data = false)
    (h : Json.parse? data = some v) (herror : ∀ message, v.get? "error" ≠ some (.str message)) :
    tokenEvent data =
      if ((v.field "token").field "special").asBool? = some true then .ok .other
      else .ok (.token ((((v.field "token").field "text").asString?).getD "")) := by
  have hno : (v.get? "error").bind Json.asString? = none := by
    rw [Option.bind_eq_none_iff]
    intro e he
    cases hm : e.asString? with
    | none => rfl
    | some message =>
      rw [Json.asString?_eq_some_iff] at hm
      exact absurd (hm ▸ he) (herror message)
  rw [tokenEvent, hdata, if_neg Bool.false_ne_true, h]
  dsimp only
  rw [hno]

theorem tokenEvent_of_special (hdata : Text.isBlank data = false)
    (h : Json.parse? data = some v) (herror : ∀ message, v.get? "error" ≠ some (.str message))
    (hspecial : (v.field "token").field "special" = .bool true) :
    tokenEvent data = .ok .other := by
  rw [tokenEvent_of_no_error hdata h herror, if_pos (Json.asBool?_eq_some_iff.mpr hspecial)]

theorem tokenEvent_of_token (hdata : Text.isBlank data = false)
    (h : Json.parse? data = some v) (herror : ∀ message, v.get? "error" ≠ some (.str message))
    (hspecial : (v.field "token").field "special" ≠ .bool true) :
    tokenEvent data = .ok (.token ((((v.field "token").field "text").asString?).getD "")) := by
  rw [tokenEvent_of_no_error hdata h herror, if_neg (mt Json.asBool?_eq_some_iff.mp hspecial)]

end Meanings

/-- A stream ends exactly at its endings. -/
theorem textStep_snd_iff (event : Except Error String) :
    (textStep stops event).2 = true ↔ IsEnding stops event := by
  constructor
  · intro hends
    cases event with
    | error e => exact .unreadable e
    | ok data =>
      cases hdata : Text.isBlank data with
      | true => simp [textStep, tokenEvent, hdata] at hends
      | false =>
        cases h : Json.parse? data with
        | none => exact .noJson hdata h
        | some v =>
          by_cases herror : ∃ message, v.get? "error" = some (.str message)
          · obtain ⟨message, herror⟩ := herror
            exact .failure hdata h herror
          · rw [not_exists] at herror
            by_cases hspecial : (v.field "token").field "special" = .bool true
            · rw [textStep, tokenEvent_of_special hdata h herror hspecial] at hends
              cases hends
            · rw [textStep, tokenEvent_of_token hdata h herror hspecial] at hends
              obtain ⟨i, hi, hstop⟩ := (cutAtStop_snd stops _).mp hends
              cases htext : ((v.field "token").field "text").asString? with
              | none =>
                rw [htext] at hi
                exact absurd hi (Nat.not_lt_zero i)
              | some text =>
                rw [htext] at hi hstop
                exact .stop hdata h herror hspecial (Json.asString?_eq_some_iff.mp htext)
                  (by rwa [String.length_toList] at hi) hstop
  · intro h
    cases h with
    | unreadable e => rfl
    | noJson hdata h => simp [textStep, tokenEvent, hdata, h]
    | failure hdata h herror => simp [textStep, tokenEvent, hdata, h, herror, Json.asString?]
    | stop hdata h herror hspecial htext hi hstop =>
      rw [textStep, tokenEvent_of_token hdata h herror hspecial, htext]
      exact (cutAtStop_snd stops _).mpr ⟨_, by rwa [String.length_toList], hstop⟩

/-- A token yields its text, unless it is empty. -/
theorem textItem_eq (text : List Char) :
    textItem text = ([String.ofList text].filter (· != "")).map .ok := by
  unfold textItem
  split
  · rename_i h
    rw [List.isEmpty_iff.mp h]
    rfl
  · rename_i h
    have hne : String.ofList text ≠ "" := fun hempty =>
      h (List.isEmpty_iff.mpr (String.ofList_eq_empty_iff.mp hempty))
    have hfilter : [String.ofList text].filter (· != "") = [String.ofList text] :=
      List.filter_cons_of_pos (bne_iff_ne.mpr hne)
    rw [hfilter]
    rfl

theorem textItem_eq_map (text : List Char) :
    ∃ parts : List String, textItem text = parts.map .ok ∧ ∀ part ∈ parts, part ≠ "" :=
  ⟨[String.ofList text].filter (· != ""), textItem_eq text, fun _ hpart =>
    bne_iff_ne.mp (List.mem_filter.mp hpart).2⟩

theorem textStep_goesOn (event : Except Error String) (h : (textStep stops event).2 = false) :
    ∃ parts : List String, (textStep stops event).1 = parts.map .ok ∧ ∀ part ∈ parts, part ≠ "" := by
  unfold textStep at h ⊢
  split at h
  · cases h
  · split at h
    · cases h
    · exact ⟨[], rfl, fun _ h => (List.not_mem_nil h).elim⟩
    · exact textItem_eq_map _

theorem textStep_ends (event : Except Error String) (h : (textStep stops event).2 = true) :
    ClosesOnce (· ≠ "") (fun _ => False) (textStep stops event).1 := by
  unfold textStep at h ⊢
  split at h
  · exact closesOnce_error _
  · split at h
    · exact closesOnce_error _
    · cases h
    · obtain ⟨parts, hparts, hne⟩ := textItem_eq_map (cutAtStop stops _).1
      rw [hparts]
      exact closesOnce_parts hne

/-! ## Streams of an endpoint -/

namespace Endpoint

variable {σ : Type}

theorem streamWith_endsCleanly (e : Endpoint σ) (prompt : String) (params : Dict) :
    Drain.EndsCleanly (e.backend.sendStream (e.request prompt params true)) (· ≠ "")
      (fun _ => False) (IsEnding (stopList params)) (e.streamWith prompt params) := by
  have hread : (fun pieces => texts (stopList params) (Sse.events pieces)) =
      fun pieces => Sse.readUntil (textStep (stopList params)) (Sse.events pieces) :=
    funext fun pieces => texts_eq_readUntil (stopList params) (Sse.events pieces)
  unfold streamWith
  rw [hread]
  exact Drain.endsCleanly_readPieces textStep_goesOn textStep_ends textStep_snd_iff

/-- **A stream of an endpoint yields texts, and after them at most one error.** -/
theorem stream_endsCleanly (e : Endpoint σ) (prompt : String) (stop : List String) :
    Drain.EndsCleanly (e.backend.sendStream (e.request prompt (e.invocationParams stop) true))
      (· ≠ "") (fun _ => False) (IsEnding (stopList (e.invocationParams stop)))
      (e.stream prompt stop) :=
  e.streamWith_endsCleanly prompt (e.invocationParams stop)

/-- The same holds for the chunks of a chat. -/
theorem streamChat_endsCleanly (e : Endpoint σ) (r : ChatRequest) :
    Drain.EndsCleanly
      (e.backend.sendStream (e.request (promptOf r.messages) (e.chatParams r) true))
      (fun c => c.content ≠ "" ∧ c.usage = none) (fun _ => False)
      (IsEnding (stopList (e.chatParams r))) (e.streamChat r) :=
  (e.streamWith_endsCleanly (promptOf r.messages) (e.chatParams r)).map Chunk.ofContent
    (fun _ h => ⟨h, rfl⟩) fun _ h => h

end Endpoint

end RetrievalKit.HuggingFace
