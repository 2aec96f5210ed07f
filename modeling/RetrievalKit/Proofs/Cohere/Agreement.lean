import RetrievalKit.Proofs.Chat.Grouping
import RetrievalKit.Proofs.Cohere.Stream
import RetrievalKit.Proofs.Json.Dict
import RetrievalKit.Proofs.Sse.Events
import RetrievalKit.Proofs.Wire.Action
import RetrievalKit.Wire.Bench

/-!
# A stream says what an answer at once says

* `Chat.Says` — events that say a text, in any division, among events of other types;
* `Chat.chunks_of_says` — the chunks of such events add up to the text;
* `Chat.body_eq` — the two requests differ in one flag;
* `Chat.streamChat_agrees_chat` — the chunks of a stream, added up in any way, have the text and the
  usage of the answer.
-/

namespace RetrievalKit.Cohere.Chat

/-! ## Events that say a text -/

/-- The text of a piece; a piece without one has the empty text. -/
def deltaText (v : Json) : String :=
  (((((v.field "delta").field "message").field "content").field "text").asString?).getD ""

/-- Events say a text: their pieces make it up in order, and the other events are of other
types. -/
inductive Says : List String → String → Prop
  | nil : Says [] ""
  | delta {data text : String} {rest : List String} {v : Json} (h : Json.parse? data = some v)
    (htype : v.field "type" = .str "content-delta") (hrest : Says rest text) :
    Says (data :: rest) (deltaText v ++ text)
  | other {data text : String} {rest : List String} {v : Json} (h : Json.parse? data = some v)
    (hdelta : v.field "type" ≠ .str "content-delta")
    (hend : v.field "type" ≠ .str "message-end") (hrest : Says rest text) :
    Says (data :: rest) text

/-- An event ends the message with a usage. -/
def EndsWith (data : String) (usage : Json) : Prop :=
  ∃ v, Json.parse? data = some v ∧ v.field "type" = .str "message-end" ∧
    (v.field "delta").field "usage" = usage

theorem chunks_delta {data : String} {content : String}
    (h : streamEvent data = .ok (.text content)) (rest : List (Except Error String)) :
    chunks (.ok data :: rest) =
      if content = "" then chunks rest else .ok (.ofContent content) :: chunks rest := by
  rw [chunks, h]

theorem chunks_other {data : String} (h : streamEvent data = .ok .other)
    (rest : List (Except Error String)) : chunks (.ok data :: rest) = chunks rest := by
  rw [chunks, h]

theorem chunks_ending {data : String} {usage : Option TokenUsage}
    (h : streamEvent data = .ok (.ending usage)) (rest : List (Except Error String)) :
    chunks (.ok data :: rest) = (usage.map fun u => Chunk.mk "" (some u)).toList.map .ok := by
  rw [chunks, h]
  cases usage with
  | none => rfl
  | some usage => rfl

theorem ofContent_append (a b : String) :
    Chunk.ofContent a ++ Chunk.ofContent b = Chunk.ofContent (a ++ b) := rfl

/-- **The chunks of events that say a text add up to it.** -/
theorem chunks_of_says {data : List String} {text : String} (h : Says data text)
    (rest : List (Except Error String)) :
    ∃ parts : List Chunk, chunks (data.map .ok ++ rest) = parts.map .ok ++ chunks rest ∧
      Chunk.sum parts = .ofContent text := by
  induction h with
  | nil => exact ⟨[], rfl, rfl⟩
  | @delta data text later v h htype hrest ih =>
    obtain ⟨parts, hchunks, hsum⟩ := ih
    have hevent : streamEvent data = .ok (.text (deltaText v)) := streamEvent_of_delta h htype
    rw [List.map_cons, List.cons_append, chunks_delta hevent]
    by_cases hempty : deltaText v = ""
    · rw [if_pos hempty, hempty, String.empty_append]
      exact ⟨parts, hchunks, hsum⟩
    · rw [if_neg hempty, hchunks]
      exact ⟨.ofContent (deltaText v) :: parts, rfl, by
        rw [Chunk.sum_cons, hsum, ofContent_append]⟩
  | other h hdelta hend hrest ih =>
    obtain ⟨parts, hchunks, hsum⟩ := ih
    rw [List.map_cons, List.cons_append, chunks_other (streamEvent_of_other h hdelta hend)]
    exact ⟨parts, hchunks, hsum⟩

/-- The chunks of a whole message add up to its text and its usage. -/
theorem chunks_of_message {data : List String} {ending text : String} {usage : Json}
    (h : Says data text) (hending : EndsWith ending usage) (rest : List (Except Error String)) :
    ∃ parts : List Chunk, chunks (data.map .ok ++ .ok ending :: rest) = parts.map .ok ∧
      Chunk.sum parts = ⟨text, usage? usage⟩ := by
  obtain ⟨parts, hchunks, hsum⟩ := chunks_of_says h (.ok ending :: rest)
  obtain ⟨v, hparse, htype, husage⟩ := hending
  have hevent : streamEvent ending = .ok (.ending (usage? usage)) := by
    rw [streamEvent_of_messageEnd hparse htype, husage]
  refine ⟨parts ++ ((usage? usage).map fun u => Chunk.mk "" (some u)).toList, ?_, ?_⟩
  · rw [hchunks, chunks_ending hevent, List.map_append]
  · rw [Chunk.sum_append, hsum]
    cases usage? usage with
    | none => exact Chunk.append_empty _
    | some u =>
      show Chunk.ofContent text ++ (Chunk.empty ++ Chunk.mk "" (some u)) = _
      rw [Chunk.empty_append, Chunk.append_def, Chunk.ofContent, String.append_empty]
      rfl

/-! ## Requests -/

/-- What a body holds beside the model, the messages and the flag for a stream. -/
def optionalSettings (c : ChatConfig) (r : ChatRequest) : List (String × Json) :=
  Json.entryIfSome "temperature" .float (r.temperature.or c.temperature) ++
    Json.entryIfSome "max_tokens" Json.ofWord32 (r.maxTokens.or c.maxTokens) ++
    if r.stop.isEmpty then [] else [("stop_sequences", Json.ofStrings r.stop)]

/-- What a body holds beside the flag for a stream. -/
def settings (c : ChatConfig) (r : ChatRequest) : Dict :=
  (Dict.ofList [("model", .str c.model), ("messages", .arr (r.messages.map messageJson))]).insertAll
    (optionalSettings c r)

theorem stream_not_mem_optionalSettings (c : ChatConfig) (r : ChatRequest) :
    "stream" ∉ (optionalSettings c r).map (·.1) := by
  unfold optionalSettings
  cases r.temperature.or c.temperature <;> cases r.maxTokens.or c.maxTokens <;>
    cases r.stop <;> simp [Json.entryIfSome]

theorem stream_not_mem_settings (c : ChatConfig) (r : ChatRequest) :
    "stream" ∉ (settings c r).keys := by
  rw [settings, Dict.mem_keys_insertAll, Dict.mem_keys_ofList, not_or]
  exact ⟨stream_not_mem_optionalSettings c r, by simp⟩

/-- **Whether a stream is wanted is all in which two bodies differ.** -/
theorem body_eq (c : ChatConfig) (r : ChatRequest) (flag : Bool) :
    body c r flag = .obj ((settings c r).insert "stream" (.bool flag)) := by
  rw [settings, ← Dict.insertAll_insert (Dict.ascending_ofList _)
    (stream_not_mem_optionalSettings c r), body, Json.ofEntries, Dict.ofList, optionalSettings,
    List.append_assoc, List.append_assoc, ← List.append_assoc (Json.entryIfSome _ _ _),
    Dict.insertAll_append]
  rfl

/-! ## The model -/

theorem chat_of_reply {σ : Type} {b : Backend σ} {c : ChatConfig} {r : ChatRequest}
    {s s' : σ} {reply : Reply} (hreply : (b.send (chatRequest c r false)).run s = (.ok reply, s'))
    (hsuccess : reply.isFailure = false) :
    (chat c b r).run s =
      (.ok ⟨message reply.body, usage? (reply.body.field "usage")⟩, s') := by
  have hcheck : checkReply "chat" .model reply = .ok () := by
    rw [checkReply, Reply.check, hsuccess]
    rfl
  unfold chat
  rw [Action.run_bind_of_ok hreply, Action.run_liftExcept, response, hcheck]
  rfl

/-- **A stream says what an answer at once says.**  If the events of a stream say the text of the
answer in any division, and end with its usage, then the chunks of the stream, added to the empty
chunk with any brackets, have the content and the usage of the answer.  The two requests differ in
the flag for a stream and in nothing else. -/
theorem streamChat_agrees_chat {σ τ : Type} {b : Backend σ} {b' : Backend τ} {c : ChatConfig}
    {r : ChatRequest} {s s' : σ} {t : τ} {reply : Reply} {pieces : List Piece}
    {deltas : List String} {ending text : String} {usage : Json}
    {later : List (Except Error String)}
    (hreply : (b.send (chatRequest c r false)).run s = (.ok reply, s'))
    (hsuccess : reply.isFailure = false)
    (hcontent : contentText ((reply.body.field "message").field "content") = text)
    (husage : reply.body.field "usage" = usage)
    (hopen : ((b'.sendStream (chatRequest c r true)).run t).1 = .ok pieces)
    (hevents : Sse.events pieces = deltas.map .ok ++ .ok ending :: later)
    (hdeltas : Says deltas text) (hending : EndsWith ending usage) :
    (∃ (response : ChatResponse) (parts : List Chunk),
      (chat c b r).run s = (.ok response, s') ∧
      (streamChat c b' r t).1 = parts.map .ok ∧
      (response.message.content = text ∧ response.usage = usage? usage) ∧
      ∀ g : Chunk.Grouping, g.chunks = .empty :: parts →
        g.value.content = response.message.content ∧ g.value.usage = response.usage) ∧
    ∃ (url : String) (headers : List (String × String)) (fields : Dict),
      "stream" ∉ fields.keys ∧ ∀ flag, chatRequest c r flag =
        ⟨url, headers, .obj (fields.insert "stream" (.bool flag))⟩ := by
  obtain ⟨parts, hchunks, hsum⟩ := chunks_of_message hdeltas hending later
  refine ⟨⟨⟨message reply.body, usage? usage⟩, parts, ?_, ?_, ⟨hcontent, rfl⟩, ?_⟩, ?_⟩
  · rw [chat_of_reply hreply hsuccess, husage]
  · unfold streamChat
    rw [Action.readPieces_of_ok hopen, hevents, hchunks]
  · intro g hg
    have hvalue : g.value = ⟨text, usage? usage⟩ := by
      rw [g.value_eq, hg, Chunk.sum_cons, Chunk.empty_append, hsum]
    rw [hvalue]
    exact ⟨hcontent.symm, rfl⟩
  · refine ⟨(chatRequest c r true).url, (chatRequest c r true).headers, settings c r,
      stream_not_mem_settings c r, fun flag => ?_⟩
    rw [← body_eq]
    rfl

/-! ## A greeting -/

/-- What an event says: its type, and its text if it is a piece of text. -/
def eventFacts (data : String) : Option (Option String × String) :=
  (Json.parse? data).map fun v => ((v.field "type").asString?, deltaText v)

theorem eventFacts_eq_some {data type text : String}
    (h : eventFacts data = some (some type, text)) :
    ∃ v, Json.parse? data = some v ∧ v.field "type" = .str type ∧ deltaText v = text := by
  obtain ⟨v, hv, hfacts⟩ := Option.map_eq_some_iff.mp h
  rw [Prod.mk.injEq, Json.asString?_eq_some_iff] at hfacts
  exact ⟨v, hv, hfacts⟩

theorem Says.cons_delta {data piece text : String} {rest : List String}
    (h : eventFacts data = some (some "content-delta", piece)) (hrest : Says rest text) :
    Says (data :: rest) (piece ++ text) := by
  obtain ⟨v, hv, htype, rfl⟩ := eventFacts_eq_some h
  exact .delta hv htype hrest

/-- The data of an event with a piece of text. -/
def deltaData (text : String) : String :=
  "\x7b\"type\":\"content-delta\",\"delta\":\x7b\"message\":\x7b\"content\":\x7b\"text\":\"" ++
    text ++ "\"\x7d\x7d\x7d\x7d"

/-- The data of an event of another type. -/
def startData : String := "\x7b\"type\":\"message-start\"\x7d"

def endData : String :=
  "\x7b\"type\":\"message-end\",\"delta\":\x7b\"usage\":\x7b\"billed_units\":" ++
    "\x7b\"input_tokens\":3\x7d\x7d\x7d\x7d"

/-- The usage at the end of the message. -/
def endUsage : Json := (((Json.parse? endData).getD .null).field "delta").field "usage"

/-- A greeting in two parts, with the same usage. -/
def greetingReply : Reply :=
  ⟨200, .obj [("message", .obj [("content", .arr [.obj [("text", .str "Hél")],
    .obj [("text", .str "lo")]])]), ("usage", endUsage)]⟩

/-- The same greeting in other parts. -/
def greetingDeltas : List String := [startData, deltaData "Hé", deltaData "", deltaData "llo"]

/-- The stream of the greeting; more text and an error come after the end of the message. -/
def greetingPieces : List Piece :=
  (greetingDeltas ++ [endData, deltaData "!"]).map (fun data => .ok (Sse.eventBytes data)) ++
    [.error Bench.exhausted]

/-- A bench with the greeting in one slot and its stream in the next. -/
def greetingBench : Bench :=
  ⟨[⟨[.ok greetingReply], [], []⟩, ⟨[], [.ok greetingPieces], []⟩], [], 0⟩

theorem says_greeting : Says greetingDeltas "Héllo" := by
  obtain ⟨v, hv, htype, -⟩ := eventFacts_eq_some
    (by decide +kernel : eventFacts startData = some (some "message-start", ""))
  have hpieces : Says [deltaData "Hé", deltaData "", deltaData "llo"]
      ("Hé" ++ ("" ++ ("llo" ++ ""))) :=
    .cons_delta (by decide +kernel) (.cons_delta (by decide +kernel)
      (.cons_delta (by decide +kernel) .nil))
  exact .other hv (by simp [htype]) (by simp [htype]) hpieces

/-- The greeting is the same at once and as a stream. -/
theorem streamChat_agrees_chat_greeting :
    let c := ChatConfig.new "key"
    let r := ChatRequest.ofMessages []
    ∃ (response : ChatResponse) (parts : List Chunk),
      ((chat c (Bench.backend 0) r).run greetingBench).1 = .ok response ∧
      (streamChat c (Bench.backend 1) r greetingBench).1 = parts.map .ok ∧
      (response.message.content = "Héllo" ∧ response.usage = some (.ofCounts 3 0)) ∧
      ∀ g : Chunk.Grouping, g.chunks = .empty :: parts →
        g.value.content = "Héllo" ∧ g.value.usage = some (.ofCounts 3 0) := by
  intro c r
  have hending : EndsWith endData endUsage := by
    obtain ⟨v, hv, htype, -⟩ := eventFacts_eq_some
      (by decide +kernel : eventFacts endData = some (some "message-end", ""))
    exact ⟨v, hv, htype, by rw [endUsage, hv, Option.getD_some]⟩
  have hevents : Sse.events greetingPieces = greetingDeltas.map .ok ++ .ok endData ::
      [.ok (deltaData "!"),
        .error (Sse.readError ("Transport error: " ++ Bench.exhausted.message))] := by
    decide +kernel
  have hreply : ((Bench.backend 0).send (chatRequest c r false)).run greetingBench =
      (.ok greetingReply, _) := rfl
  have husage : greetingReply.body.field "usage" = endUsage := by
    simp [greetingReply, Json.field, Json.get?, Dict.get?]
  have hopen : (((Bench.backend 1).sendStream (chatRequest c r true)).run greetingBench).1 =
      .ok greetingPieces := rfl
  obtain ⟨⟨response, parts, hchat, hstream, ⟨hcontent, hcounts⟩, hsum⟩, -⟩ :=
    streamChat_agrees_chat hreply rfl (by decide +kernel) husage hopen hevents says_greeting hending
  have hthree : usage? endUsage = some (.ofCounts 3 0) := by decide +kernel
  rw [hthree] at hcounts
  rw [hcontent, hcounts] at hsum
  exact ⟨response, parts, congrArg Prod.fst hchat, hstream, ⟨hcontent, hcounts⟩, hsum⟩

end RetrievalKit.Cohere.Chat
