import RetrievalKit.Proofs.Chat.Grouping
import RetrievalKit.Proofs.HuggingFace.Requests
import RetrievalKit.Proofs.HuggingFace.StreamCut
import RetrievalKit.Proofs.Streams.Division
import RetrievalKit.Proofs.Streams.Ending
import RetrievalKit.Proofs.Wire.Outcomes

/-!
# Streams that are drained

An endpoint may generate through its stream where no stream is asked for.

* `Drains` — an action does at once what a stream does item by item, and yields what the items
  make together, or the error among them;
* `Drains.map` — both may be changed in the same way;
* `HuggingFace.Endpoint.drains_streaming` — **a call that goes through the stream is that stream,
  drained**: the same request, the same texts, the same error.
-/

namespace RetrievalKit

/-! ## Drained streams -/

section Drained

variable {σ α β γ δ : Type}

/-- An action does at once what a stream does item by item.  It leaves the same world.  If the
stream has an error the action fails with it, and otherwise it yields what all the items make. -/
structure Drains (a : Action σ β) (items : Drain σ α) (make : List α → β) : Prop where
  world : ∀ s, (a.run s).2 = (items s).2
  error_iff : ∀ s err, (a.run s).1 = .error err ↔ .error err ∈ (items s).1
  ok_iff : ∀ s value, (a.run s).1 = .ok value ↔
    ∃ parts, (items s).1 = parts.map .ok ∧ value = make parts

theorem error_mem_map_iff {items : List (Except Error α)} {err : Error} (f : α → β) :
    .error err ∈ items.map (Except.map f) ↔ .error err ∈ items := by
  rw [List.mem_map]
  constructor
  · rintro ⟨item, hitem, herror⟩
    rwa [map_eq_error_iff.mp herror] at hitem
  · exact fun h => ⟨_, h, rfl⟩

theorem map_eq_parts_iff {items : List (Except Error α)} {f : α → β} {parts : List β} :
    items.map (Except.map f) = parts.map .ok ↔
      ∃ earlier : List α, items = earlier.map .ok ∧ parts = earlier.map f := by
  constructor
  · intro h
    induction items generalizing parts with
    | nil => exact ⟨[], rfl, List.map_eq_nil_iff.mp h.symm⟩
    | cons item items ih =>
      cases parts with
      | nil => cases h
      | cons part parts =>
        obtain ⟨hitem, hitems⟩ := List.cons.inj h
        obtain ⟨value, rfl, rfl⟩ := map_eq_ok hitem
        obtain ⟨earlier, rfl, rfl⟩ := ih hitems
        exact ⟨value :: earlier, rfl, rfl⟩
  · rintro ⟨earlier, rfl, rfl⟩
    rw [List.map_map, List.map_map]
    rfl

/-- What an action yields and the items of a stream may be changed in the same way. -/
theorem Drains.map {a : Action σ β} {items : Drain σ α} {make : List α → β}
    (h : Drains a items make) {f : β → δ} {g : α → γ} {make' : List γ → δ}
    (hmake : ∀ parts, make' (parts.map g) = f (make parts)) :
    Drains (a >>= fun x => pure (f x)) (items.map g) make' where
  world s := by
    rw [Action.run_bind_pure]
    exact h.world s
  error_iff s err := by
    rw [Action.run_bind_pure, map_eq_error_iff, h.error_iff]
    exact (error_mem_map_iff g).symm
  ok_iff s value := by
    rw [Action.run_bind_pure]
    show _ ↔ ∃ parts, (items s).1.map (Except.map g) = parts.map .ok ∧ value = make' parts
    constructor
    · intro hok
      obtain ⟨found, hfound, rfl⟩ := map_eq_ok hok
      obtain ⟨parts, hparts, rfl⟩ := (h.ok_iff s found).mp hfound
      exact ⟨parts.map g, map_eq_parts_iff.mpr ⟨parts, hparts, rfl⟩, (hmake parts).symm⟩
    · rintro ⟨_, hmapped, rfl⟩
      obtain ⟨parts, hparts, rfl⟩ := map_eq_parts_iff.mp hmapped
      rw [(h.ok_iff s _).mpr ⟨parts, hparts, rfl⟩, hmake]
      rfl

end Drained

/-! ## Texts of an endpoint -/

namespace HuggingFace

theorem joined_parts (parts : List String) :
    joined (parts.map .ok) = .ok (String.join parts) := by
  induction parts with
  | nil => rfl
  | cons part parts ih =>
    rw [List.map_cons, joined, ih, String.join_cons]
    rfl

/-- Texts before an error are lost with it. -/
theorem joined_parts_error (parts : List String) (err : Error)
    (rest : List (Except Error String)) :
    joined (parts.map .ok ++ .error err :: rest) = .error err := by
  induction parts with
  | nil => rfl
  | cons part parts ih =>
    rw [List.map_cons, List.cons_append, joined, ih]
    rfl

/-- The chunks of texts add up to the chunk of the whole text. -/
theorem sum_map_ofContent (parts : List String) :
    Chunk.sum (parts.map Chunk.ofContent) = .ofContent (String.join parts) := by
  induction parts with
  | nil => rfl
  | cons part parts ih =>
    rw [List.map_cons, Chunk.sum_cons, ih, String.join_cons]
    rfl

namespace Endpoint

variable {σ : Type}

/-- With the stream of an endpoint that generates through it, a text is that stream, drained. -/
theorem drains_generateWith {e : Endpoint σ} (hstreaming : e.config.streaming = true)
    (prompt : String) (params : Dict) :
    Drains (e.generateWith prompt params) (e.streamWith prompt params) String.join := by
  have hrun := run_generateWith_of_streaming hstreaming prompt params
  have hcases : ∀ s, (∃ parts : List String, (e.streamWith prompt params s).1 = parts.map .ok) ∨
      ∃ (parts : List String) (err : Error),
        (e.streamWith prompt params s).1 = parts.map .ok ++ [.error err] := by
    intro s
    obtain ⟨parts, last, hitems, -, hlast⟩ := (e.streamWith_endsCleanly prompt params).closesOnce s
    rcases hlast with rfl | ⟨err, rfl⟩ | ⟨_, hclosing, -⟩
    · exact .inl ⟨parts, by rw [hitems, List.append_nil]⟩
    · exact .inr ⟨parts, err, hitems⟩
    · exact hclosing.elim
  refine ⟨fun s => by rw [hrun], fun s err => ?_, fun s text => ?_⟩
  · rw [hrun]
    rcases hcases s with ⟨parts, hitems⟩ | ⟨parts, err', hitems⟩
    · rw [hitems, joined_parts]
      simp
    · rw [hitems, joined_parts_error]
      simp [eq_comm]
  · rw [hrun]
    constructor
    · intro hok
      rcases hcases s with ⟨parts, hitems⟩ | ⟨parts, err, hitems⟩
      · rw [hitems, joined_parts] at hok
        exact ⟨parts, hitems, (Except.ok.inj hok).symm⟩
      · rw [hitems, joined_parts_error] at hok
        cases hok
    · rintro ⟨parts, hitems, rfl⟩
      rw [hitems, joined_parts]

/-- Two calls send the same request, each once and nothing else. -/
def SendSame (e : Endpoint σ) (call other : Call) : Prop :=
  ∃ request, e.Sends call request ∧ e.Sends other request

theorem sendSame_of_eq {e : Endpoint σ} {call other : Call}
    (h : e.requestOf call = e.requestOf other) : e.SendSame call other :=
  ⟨_, e.sends_requestOf call, h ▸ e.sends_requestOf other⟩

/-- **A call that goes through the stream is that stream, drained.**  With settings that say so,
`generate` sends the request of `stream`, fails with the error of the stream, if there is one, and
otherwise yields its texts in one; `chat` sends the request of `streamChat`, fails with the same
error, and otherwise answers with the content of the sum of the chunks.  No usage is reported. -/
theorem drains_streaming (e : Endpoint σ) (hstreaming : e.config.streaming = true) :
    (∀ prompt stop,
      Drains (e.generate prompt stop) (e.stream prompt stop) String.join ∧
        e.SendSame (.generate prompt stop) (.stream prompt stop)) ∧
    ∀ r,
      Drains (e.chat r) (e.streamChat r)
        (fun chunks => ⟨.ofAssistant (Chunk.sum chunks).content, none⟩) ∧
      e.SendSame (.chat r) (.streamChat r) ∧
      ∀ s chunk, .ok chunk ∈ (e.streamChat r s).1 → chunk.usage = none := by
  refine ⟨fun prompt stop => ⟨drains_generateWith hstreaming prompt _, sendSame_of_eq ?_⟩,
    fun r => ⟨?_, sendSame_of_eq ?_, ?_⟩⟩
  · exact congrArg (e.request prompt _) hstreaming
  · refine (drains_generateWith hstreaming _ _).map fun parts => ?_
    rw [sum_map_ofContent]
    rfl
  · exact congrArg (e.request _ _) hstreaming
  · intro s chunk hchunk
    obtain ⟨item, -, hitem⟩ := List.mem_map.mp hchunk
    obtain ⟨text, -, rfl⟩ := map_eq_ok hitem
    rfl

/-- Two tokens make one text, and one chat message.  After an error nothing is left of a token. -/
theorem drains_streaming_tokens :
    let e : Endpoint Bench :=
      ⟨{ EndpointConfig.standard with streaming := true }, "http://x", none, [], Bench.backend 0⟩
    let whole := eventBench [tokenData "a", tokenData "b"]
    let broken := eventBench [tokenData "a", "\x7b\"error\":\"busy\"\x7d"]
    let busy : Error := ⟨.model, "Hugging Face stream error: busy"⟩
    e.config.streaming = true ∧ ((e.generate "x" []).run whole).1 = .ok "ab" ∧
      ((e.generate "x" []).run broken).1 = .error busy ∧
      ((e.chat (.ofMessages [])).run whole).1 = .ok ⟨.ofAssistant "ab", none⟩ := by
  intro e whole broken busy
  have hwhole : (e.stream "x" [] whole).1 = ["a", "b"].map .ok := by decide +kernel
  have hbroken : (e.stream "x" [] broken).1 = [.ok "a", .error busy] := by decide +kernel
  have hchunks : (e.streamChat (.ofMessages []) whole).1 =
      [Chunk.ofContent "a", .ofContent "b"].map .ok := by decide +kernel
  obtain ⟨hgenerate, hchat⟩ := drains_streaming e rfl
  obtain ⟨hdrains, -⟩ := hgenerate "x" []
  refine ⟨rfl, (hdrains.ok_iff _ _).mpr ⟨_, hwhole, rfl⟩, (hdrains.error_iff _ _).mpr ?_,
    ((hchat _).1.ok_iff _ _).mpr ⟨_, hchunks, rfl⟩⟩
  rw [hbroken]
  exact .tail _ (.head _)

end Endpoint

end HuggingFace

end RetrievalKit
