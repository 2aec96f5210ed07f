import Mathlib.Data.List.Forall2
import RetrievalKit.Proofs.HuggingFace.StreamCut
import RetrievalKit.Proofs.HuggingFace.StreamEnd
import RetrievalKit.Proofs.Sse.Boundaries
import RetrievalKit.Proofs.Sse.Events

/-!
# The texts in a stream of tokens

* `Carries` — the text that an event without an error carries, if any; `carries_iff` proves that it
  is what `tokenEvent` reads;
* `IsByteCut` — a text ends before the first byte at which the bytes of a stop sequence occur;
* `Keeps` — the texts of the tokens that are kept: all of them, or those before the first one with
  a stop sequence, and that one cut;
* `Endpoint.streamWith_of_tokens` — **what a stream yields**: the texts that are kept, without
  the empty ones.
-/

namespace RetrievalKit.HuggingFace

variable {stops : List (List Char)} {data : String}

/-! ## Events without an error -/

/-- The text that an event without an error carries.  One without data and a special token carry
none; a token without a text carries the empty one. -/
inductive Carries : String → Option String → Prop
  | blank {data : String} (hdata : Text.isBlank data = true) : Carries data none
  | special {data : String} {v : Json} (hdata : Text.isBlank data = false)
    (h : Json.parse? data = some v) (herror : ∀ message, v.get? "error" ≠ some (.str message))
    (hspecial : (v.field "token").field "special" = .bool true) : Carries data none
  | token {data : String} {v : Json} (hdata : Text.isBlank data = false)
    (h : Json.parse? data = some v) (herror : ∀ message, v.get? "error" ≠ some (.str message))
    (hspecial : (v.field "token").field "special" ≠ .bool true) :
    Carries data (some ((((v.field "token").field "text").asString?).getD ""))

/-- The event that carries a text or none. -/
def carrier : Option String → TokenEvent
  | none => .other
  | some text => .token text

theorem Carries.tokenEvent_eq {token : Option String} (h : Carries data token) :
    tokenEvent data = .ok (carrier token) := by
  cases h with
  | blank hdata => rw [tokenEvent, if_pos hdata]; rfl
  | special hdata h herror hspecial => exact tokenEvent_of_special hdata h herror hspecial
  | token hdata h herror hspecial => exact tokenEvent_of_token hdata h herror hspecial

theorem carrier_inj {token other : Option String} (h : carrier token = carrier other) :
    token = other := by
  cases token with
  | none => cases other with
    | none => rfl
    | some _ => cases h
  | some _ => cases other with
    | none => cases h
    | some _ => cases h; rfl

/-- Every event without an error carries a text or none. -/
theorem exists_carries {meaning : TokenEvent} (h : tokenEvent data = .ok meaning) :
    ∃ token, Carries data token := by
  cases hdata : Text.isBlank data with
  | true => exact ⟨none, .blank hdata⟩
  | false =>
    cases hv : Json.parse? data with
    | none => simp [tokenEvent, hdata, hv] at h
    | some v =>
      by_cases herror : ∃ message, v.get? "error" = some (.str message)
      · obtain ⟨message, herror⟩ := herror
        simp [tokenEvent, hdata, hv, herror, Json.asString?] at h
      · rw [not_exists] at herror
        by_cases hspecial : (v.field "token").field "special" = .bool true
        · exact ⟨none, .special hdata hv herror hspecial⟩
        · exact ⟨some _, .token hdata hv herror hspecial⟩

/-- What an event carries is what `tokenEvent` reads. -/
theorem carries_iff {token : Option String} :
    Carries data token ↔ tokenEvent data = .ok (carrier token) := by
  refine ⟨Carries.tokenEvent_eq, fun hread => ?_⟩
  obtain ⟨other, hother⟩ := exists_carries hread
  have hsame := carrier_inj (Except.ok.inj (hread.symm.trans hother.tokenEvent_eq))
  exact hsame ▸ hother

/-! ## Cuts by bytes -/

/-- The bytes of a stop sequence occur at byte `i` of a text. -/
def StopsAtByte (stops : List (List Char)) (text : List Char) (i : Nat) : Prop :=
  ∃ stop ∈ stops, Utf8.encode stop <+: (Utf8.encode text).drop i

/-- The characters of a text before the first byte at which a stop sequence occurs. -/
structure IsByteCut (stops : List (List Char)) (text cut : List Char) : Prop where
  beginning : cut <+: text
  none_before : ∀ i < (Utf8.encode cut).length, ¬ StopsAtByte stops text i
  stop : StopsAtByte stops text (Utf8.encode cut).length

theorem stopsAtByte_iff (hne : ∀ stop ∈ stops, stop ≠ []) {text : List Char} {i : Nat} :
    StopsAtByte stops text i ↔
      ∃ k, StopsAt stops text k ∧ i = (Utf8.encode (text.take k)).length := by
  constructor
  · rintro ⟨stop, hmem, hstop⟩
    obtain ⟨k, hk, hi⟩ := (Utf8.encode_prefix_drop_iff (hne stop hmem) i).mp hstop
    exact ⟨k, ⟨stop, hmem, hk⟩, hi⟩
  · rintro ⟨k, ⟨stop, hmem, hk⟩, hi⟩
    exact ⟨stop, hmem, (Utf8.encode_prefix_drop_iff (hne stop hmem) i).mpr ⟨k, hk, hi⟩⟩

/-- **The first byte at which a stop sequence occurs begins a character**: the cut before the first
stop sequence ends there. -/
theorem IsCut.isByteCut (hne : ∀ stop ∈ stops, stop ≠ []) {text cut : List Char}
    (h : IsCut stops text cut) (hstop : Occurs stops text) : IsByteCut stops text cut := by
  have hcut : StopsAt stops text cut.length := by
    rcases h.whole_or_stop with rfl | hcut
    · obtain ⟨i, hi⟩ := occurs_iff.mp hstop
      exact absurd hi (h.not_stopsAt hne i)
    · exact hcut
  have htake : text.take cut.length = cut := (List.prefix_iff_eq_take.mp h.beginning).symm
  refine ⟨h.beginning, ?_, (stopsAtByte_iff hne).mpr ⟨cut.length, hcut, by rw [htake]⟩⟩
  intro i hi hbyte
  obtain ⟨k, hk, rfl⟩ := (stopsAtByte_iff hne).mp hbyte
  have hle : cut.length ≤ k := Nat.le_of_not_lt fun hlt => h.none_before k hlt hk
  have hlen := Utf8.length_encode_le (List.take_prefix_take_left hle (l := text))
  rw [htake] at hlen
  omega

/-! ## The texts that are kept -/

/-- The texts that a stream keeps: all if no stop sequence occurs in any, otherwise those before
the first one in which any occurs, and that one up to the first byte at which any does. -/
inductive Keeps (stops : List (List Char)) : List String → List String → Prop
  | all {texts : List String} (h : ∀ text ∈ texts, ¬ Occurs stops text.toList) :
    Keeps stops texts texts
  | cut {before after : List String} {text cut : String}
    (hbefore : ∀ text ∈ before, ¬ Occurs stops text.toList)
    (hcut : IsByteCut stops text.toList cut.toList) :
    Keeps stops (before ++ text :: after) (before ++ [cut])

/-- Each text up to its first stop sequence, and nothing after one that has any. -/
def kept (stops : List (List Char)) : List String → List String
  | [] => []
  | text :: rest =>
    if (cutAtStop stops text.toList).2 then [String.ofList (cutAtStop stops text.toList).1]
    else text :: kept stops rest

theorem Keeps.cons {text : String} {texts rest : List String}
    (hno : ¬ Occurs stops text.toList) (h : Keeps stops texts rest) :
    Keeps stops (text :: texts) (text :: rest) := by
  cases h with
  | all h => exact .all (List.forall_mem_cons.mpr ⟨hno, h⟩)
  | @cut before after _ _ hbefore hcut =>
    exact @Keeps.cut stops (text :: before) after _ _ (List.forall_mem_cons.mpr ⟨hno, hbefore⟩)
      hcut

theorem keeps_kept (hne : ∀ stop ∈ stops, stop ≠ []) (texts : List String) :
    Keeps stops texts (kept stops texts) := by
  induction texts with
  | nil => exact .all fun _ h => (List.not_mem_nil h).elim
  | cons text texts ih =>
    rw [kept]
    split
    · rename_i hstop
      have hcut := (cutAtStop_isCut stops text.toList).isByteCut hne
        ((cutAtStop_snd_iff_occurs hne).mp hstop)
      exact @Keeps.cut stops [] texts text _ (fun _ h => (List.not_mem_nil h).elim)
        (by rwa [String.toList_ofList])
    · rename_i hgoes
      exact ih.cons (mt (cutAtStop_snd_iff_occurs hne).mpr hgoes)

/-- No stop sequence is left in a text that is cut. -/
theorem IsByteCut.not_occurs (hne : ∀ stop ∈ stops, stop ≠ []) {text cut : List Char}
    (h : IsByteCut stops text cut) : ¬ Occurs stops cut := by
  rintro ⟨stop, hmem, front, back, rfl⟩
  obtain ⟨rest, rfl⟩ := h.beginning
  refine h.none_before (Utf8.encode front).length ?_ ⟨stop, hmem, ?_⟩
  · have := List.length_pos_iff.mpr (Utf8.encode_ne_nil (hne stop hmem))
    rw [Utf8.encode_append, Utf8.encode_append, List.length_append, List.length_append]
    omega
  · rw [List.append_assoc, List.append_assoc, Utf8.encode_append front, List.drop_left,
      Utf8.encode_append]
    exact List.prefix_append _ _

theorem Keeps.not_occurs (hne : ∀ stop ∈ stops, stop ≠ []) {texts rest : List String}
    (h : Keeps stops texts rest) : ∀ text ∈ rest, ¬ Occurs stops text.toList := by
  cases h with
  | all h => exact h
  | cut hbefore hcut =>
    intro text hmem
    rcases List.mem_append.mp hmem with hmem | hmem
    · exact hbefore text hmem
    · rw [List.mem_singleton.mp hmem]
      exact hcut.not_occurs hne

/-- What is kept depends on which stop sequences there are and on nothing else of their list. -/
theorem kept_congr {others : List (List Char)} (h : ∀ stop, stop ∈ stops ↔ stop ∈ others)
    (texts : List String) : kept stops texts = kept others texts := by
  induction texts with
  | nil => rfl
  | cons text texts ih => rw [kept, kept, cutAtStop_congr h, ih]

/-! ## Streams -/

/-- A stream without errors yields the texts that are kept, without the empty ones. -/
theorem texts_of_carries {data : List String} {tokens : List (Option String)}
    (h : List.Forall₂ Carries data tokens) :
    texts stops (data.map .ok) =
      ((kept stops (tokens.filterMap id)).filter (· != "")).map .ok := by
  rw [texts_eq_readUntil]
  induction h with
  | nil => rfl
  | @cons d token data tokens hd _ ih =>
    rw [List.map_cons]
    cases token with
    | none =>
      have hstep : textStep stops (.ok d) = ([], false) := by
        rw [textStep, hd.tokenEvent_eq]
        rfl
      rw [Sse.readUntil_cons_of_goes_on (by rw [hstep]), hstep, ih]
      rfl
    | some text =>
      have hstep : textStep stops (.ok d) =
          (textItem (cutAtStop stops text.toList).1, (cutAtStop stops text.toList).2) := by
        rw [textStep, hd.tokenEvent_eq]
        rfl
      have hkept : (some text :: tokens).filterMap id = text :: tokens.filterMap id := rfl
      rw [hkept, kept]
      cases hs : (cutAtStop stops text.toList).2 with
      | true =>
        rw [Sse.readUntil_cons_of_ends (by rw [hstep, hs]), hstep, textItem_eq]
        rfl
      | false =>
        rw [Sse.readUntil_cons_of_goes_on (by rw [hstep, hs]), hstep, ih,
          cutAtStop_of_snd_false hs, textItem_eq, String.ofList_toList, ← List.map_append,
          ← List.filter_append]
        rfl

section Streams

variable {σ : Type}

/-- **What a stream of tokens yields.**  Of any events without an error the stream keeps the texts
that they carry: all of them, or those before the first one in which a stop sequence occurs, and
that one up to the first byte at which any does, where a character begins.  Its items are these
texts without the empty ones, and no stop sequence is left in them.  They stay the same in any
other call with the same texts in its list of stop sequences, in any order, however often, and
beside any empty texts and entries that are no text. -/
theorem Endpoint.streamWith_of_tokens (e : Endpoint σ) (prompt : String) (params : Dict) {s : σ}
    {pieces : List Piece} {data : List String} {tokens : List (Option String)}
    (hopen : ((e.backend.sendStream (e.request prompt params true)).run s).1 = .ok pieces)
    (hevents : Sse.events pieces = data.map .ok) (htokens : List.Forall₂ Carries data tokens) :
    let stops := stopsAmong (stopEntries params)
    ∃ texts, Keeps stops (tokens.filterMap id) texts ∧
      (e.streamWith prompt params s).1 = (texts.filter (· != "")).map .ok ∧
      (∀ text ∈ texts, ¬ Occurs stops text.toList) ∧
      ∀ {τ : Type} (e' : Endpoint τ) (prompt' : String) (params' : Dict) (t : τ),
        ((e'.backend.sendStream (e'.request prompt' params' true)).run t).1 = .ok pieces →
        (∀ text, text ≠ "" →
          (.str text ∈ stopEntries params' ↔ .str text ∈ stopEntries params)) →
        (e'.streamWith prompt' params' t).1 = (e.streamWith prompt params s).1 := by
  intro stops
  have hne : ∀ stop ∈ stops, stop ≠ [] := fun _ => ne_nil_of_mem_stopList
  have hkeeps := keeps_kept hne (tokens.filterMap id)
  -- what any endpoint makes of these pieces
  have hitems : ∀ {τ : Type} (e' : Endpoint τ) (prompt' : String) (params' : Dict) (t : τ),
      ((e'.backend.sendStream (e'.request prompt' params' true)).run t).1 = .ok pieces →
      (e'.streamWith prompt' params' t).1 =
        ((kept (stopList params') (tokens.filterMap id)).filter (· != "")).map .ok := by
    intro τ e' prompt' params' t hopen'
    unfold streamWith
    rw [Action.readPieces_of_ok hopen', hevents, texts_of_carries htokens]
  refine ⟨_, hkeeps, hitems e prompt params s hopen, hkeeps.not_occurs hne, ?_⟩
  intro τ e' prompt' params' t hopen' hsame
  have hstops : ∀ stop, stop ∈ stopList params' ↔ stop ∈ stopList params := by
    intro stop
    rw [stopList_eq, stopList_eq, mem_stopsAmong_iff, mem_stopsAmong_iff]
    exact and_congr_right fun hstop => hsame _ (mt String.ofList_eq_empty_iff.mp hstop)
  rw [hitems e' prompt' params' t hopen', hitems e prompt params s hopen, kept_congr hstops]

end Streams

/-! ## A stream that is cut -/

/-- The data of an event with a special token. -/
def specialData : String := "\x7b\"token\":\x7b\"text\":\"<s>\",\"special\":true\x7d\x7d"

/-- The data of five events; the characters of the fourth take three bytes each. -/
def mixedData : List String :=
  [tokenData "Hé", specialData, tokenData "", tokenData "l日本", tokenData "no"]

/-- A bench with these events as one stream. -/
def mixedBench : Bench :=
  ⟨[⟨[], [.ok (mixedData.map fun data => .ok (Sse.eventBytes data))], []⟩], [], 0⟩

/-- Two lists of the same stop sequences, one of which is the end of the other, cut a stream
alike. -/
theorem streamWith_of_tokens_mixed :
    let params : Dict := [("stop", .arr [.str "本", .str "日本"])]
    let others : Dict := [("stop", .arr [.str "日本", .null, .str "", .str "本", .str "本"])]
    (benchEndpoint.streamWith "x" params mixedBench).1 = [.ok "Hé", .ok "l"] ∧
      (benchEndpoint.streamWith "x" others mixedBench).1 = [.ok "Hé", .ok "l"] := by
  intro params others
  have hevents : Sse.events (mixedData.map fun data => .ok (Sse.eventBytes data)) =
      mixedData.map .ok := by decide +kernel
  have htokens : List.Forall₂ Carries mixedData
      [some "Hé", none, some "", some "l日本", some "no"] :=
    .cons (carries_iff.mpr (by decide +kernel)) (.cons (carries_iff.mpr (by decide +kernel))
      (.cons (carries_iff.mpr (by decide +kernel)) (.cons (carries_iff.mpr (by decide +kernel))
        (.cons (carries_iff.mpr (by decide +kernel)) .nil))))
  have hitems : (benchEndpoint.streamWith "x" params mixedBench).1 = [.ok "Hé", .ok "l"] := by
    decide +kernel
  obtain ⟨-, -, -, -, hsame⟩ :=
    benchEndpoint.streamWith_of_tokens "x" params (s := mixedBench) rfl hevents htokens
  refine ⟨hitems, (hsame benchEndpoint "x" others mixedBench rfl fun text htext => ?_).trans hitems⟩
  simp [stopEntries, params, others, Dict.get?, Json.asArray?, htext, or_comm]

end RetrievalKit.HuggingFace
