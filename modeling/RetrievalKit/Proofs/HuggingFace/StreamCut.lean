import RetrievalKit.Proofs.HuggingFace.Cut
import RetrievalKit.Proofs.Wire.Action
import RetrievalKit.Wire.Bench

/-!
# Stop sequences in a stream of tokens

A stream looks for stop sequences in one token at a time, so it can miss one that two tokens
share.  This module says exactly when it does.

* `StopsWithin` — a stop sequence begins at a place of the whole text and ends in the token in
  which it begins;
* `streamedText` — what a stream yields of a list of tokens, as one text; `joined_texts` proves it
  equal to the items of `texts`, one after the other;
* `stream_isCut_iff` — **exact condition**: the stream is the whole text cut before its first stop
  sequence if and only if a stop sequence that begins at the first place where any begins ends in
  its token;
* `stream_passes_shared_stop` — a stream that goes on past a stop sequence.
-/

namespace RetrievalKit.HuggingFace

deriving instance DecidableEq for TokenEvent

variable {stops : List (List Char)} {tokens : List (List Char)}

/-- A stop sequence begins at place `i` of the text that the tokens make, and it ends in the
token in which it begins. -/
inductive StopsWithin (stops : List (List Char)) : List (List Char) → Nat → Prop
  | here {token : List Char} {rest : List (List Char)} {i : Nat} :
      StopsAt stops token i → StopsWithin stops (token :: rest) i
  | there {token : List Char} {rest : List (List Char)} {i : Nat} :
      StopsWithin stops rest i → StopsWithin stops (token :: rest) (token.length + i)

/-- What a stream yields of these tokens: each up to its own first stop sequence, and nothing
after a token that has one. -/
def streamedText (stops : List (List Char)) : List (List Char) → List Char
  | [] => []
  | token :: rest =>
    let (before, stopped) := cutAtStop stops token
    if stopped then before else before ++ streamedText stops rest

theorem StopsWithin.stopsAt {i : Nat} (h : StopsWithin stops tokens i) :
    StopsAt stops tokens.flatten i := by
  induction h with
  | here h => exact h.append_right _
  | there _ ih => exact (stopsAt_append_left _ _).mpr ih

/-! ## The text of a stream -/

theorem streamedText_of_stop {token : List Char} (rest : List (List Char))
    (h : (cutAtStop stops token).2 = true) :
    streamedText stops (token :: rest) = (cutAtStop stops token).1 := by
  simp only [streamedText, h, if_true]

theorem streamedText_of_no_stop {token : List Char} (rest : List (List Char))
    (h : (cutAtStop stops token).2 = false) :
    streamedText stops (token :: rest) = token ++ streamedText stops rest := by
  simp only [streamedText, h, Bool.false_eq_true, if_false, cutAtStop_of_snd_false h]

theorem streamedText_beginning (stops tokens : List (List Char)) :
    streamedText stops tokens <+: tokens.flatten := by
  induction tokens with
  | nil => exact List.prefix_rfl
  | cons token rest ih =>
    rw [List.flatten_cons]
    cases h : (cutAtStop stops token).2 with
    | true =>
      rw [streamedText_of_stop rest h]
      exact (cutAtStop_isCut stops token).beginning.trans (List.prefix_append _ _)
    | false =>
      rw [streamedText_of_no_stop rest h]
      exact (List.prefix_append_right_inj token).mpr ih

/-- A stream yields nothing from the first stop sequence on that ends in its token. -/
theorem not_stopsWithin_of_lt (hne : ∀ stop ∈ stops, stop ≠ []) {i : Nat}
    (hi : i < (streamedText stops tokens).length) : ¬ StopsWithin stops tokens i := by
  intro h
  induction h with
  | @here token rest i h =>
    have hlt : i < token.length := h.lt_length hne
    have hstop : (cutAtStop stops token).2 = true :=
      (cutAtStop_snd stops token).mpr ⟨i, hlt, h⟩
    rw [streamedText_of_stop rest hstop] at hi
    exact (cutAtStop_isCut stops token).none_before i hi h
  | @there token rest i h ih =>
    cases hs : (cutAtStop stops token).2 with
    | true =>
      rw [streamedText_of_stop rest hs] at hi
      have := (cutAtStop_isCut stops token).beginning.length_le
      omega
    | false =>
      rw [streamedText_of_no_stop rest hs, List.length_append] at hi
      exact ih (by omega)

/-- A stream that ends early ends before such a stop sequence. -/
theorem streamedText_whole_or_stop (stops tokens : List (List Char)) :
    streamedText stops tokens = tokens.flatten ∨
      StopsWithin stops tokens (streamedText stops tokens).length := by
  induction tokens with
  | nil => exact Or.inl rfl
  | cons token rest ih =>
    cases hs : (cutAtStop stops token).2 with
    | true =>
      rw [streamedText_of_stop rest hs]
      obtain ⟨i, hi, hstop⟩ := (cutAtStop_snd stops token).mp hs
      have hcut := cutAtStop_isCut stops token
      rcases hcut.whole_or_stop with heq | h
      · rw [← heq] at hi
        exact absurd hstop (hcut.none_before i hi)
      · exact Or.inr (.here h)
    | false =>
      rw [streamedText_of_no_stop rest hs, List.flatten_cons, List.length_append]
      rcases ih with heq | h
      · exact Or.inl (by rw [heq])
      · exact Or.inr (.there h)

/-! ## When a stream is the cut -/

/-- The first place at which a stop sequence begins has one that ends in its token. -/
def FirstStopWithin (stops tokens : List (List Char)) : Prop :=
  ∀ i, StopsAt stops tokens.flatten i → (∀ j < i, ¬ StopsAt stops tokens.flatten j) →
    StopsWithin stops tokens i

/-- If a stop sequence begins at some place, there is a first such place. -/
theorem StopsAt.exists_first {text : List Char} {i : Nat} (h : StopsAt stops text i) :
    ∃ k ≤ i, StopsAt stops text k ∧ ∀ j < k, ¬ StopsAt stops text j := by
  induction i using Nat.strongRecOn with
  | _ i ih =>
    by_cases hex : ∃ j < i, StopsAt stops text j
    · obtain ⟨j, hj, hstop⟩ := hex
      obtain ⟨k, hk, hfirst⟩ := ih j hj hstop
      exact ⟨k, by omega, hfirst⟩
    · exact ⟨i, Nat.le_refl i, h, fun j hj hstop => hex ⟨j, hj, hstop⟩⟩

theorem streamedText_isCut_iff (hne : ∀ stop ∈ stops, stop ≠ []) :
    IsCut stops tokens.flatten (streamedText stops tokens) ↔ FirstStopWithin stops tokens := by
  constructor
  · intro hcut i hstop hfirst
    have hle : (streamedText stops tokens).length ≤ i :=
      Nat.le_of_not_lt fun hlt => hcut.none_before i hlt hstop
    rcases streamedText_whole_or_stop stops tokens with heq | hwithin
    · rw [heq] at hle
      exact absurd (hstop.lt_length hne) (by omega)
    · have hge : i ≤ (streamedText stops tokens).length :=
        Nat.le_of_not_lt fun hlt => hfirst _ hlt hwithin.stopsAt
      rw [Nat.le_antisymm hge hle]
      exact hwithin
  · intro hwithin
    refine ⟨streamedText_beginning stops tokens, ?_, ?_⟩
    · intro i hi hstop
      obtain ⟨k, hk, hstop, hfirst⟩ := hstop.exists_first
      exact not_stopsWithin_of_lt hne (by omega) (hwithin k hstop hfirst)
    · exact (streamedText_whole_or_stop stops tokens).imp_right StopsWithin.stopsAt

/-- A stream never ends before the first stop sequence. -/
theorem cut_beginning_streamedText {cut : List Char}
    (h : IsCut stops tokens.flatten cut) : cut <+: streamedText stops tokens := by
  refine List.prefix_of_prefix_length_le h.beginning (streamedText_beginning stops tokens) ?_
  rcases streamedText_whole_or_stop stops tokens with heq | hwithin
  · rw [heq]
    exact h.beginning.length_le
  · exact Nat.le_of_not_lt fun hlt => h.none_before _ hlt hwithin.stopsAt

/-! ## Streams of an endpoint -/

theorem joined_textItem (text : List Char) (items : List (Except Error String)) :
    joined (textItem text ++ items) = (joined items).map (String.ofList text ++ ·) := by
  unfold textItem
  split
  · rename_i h
    rw [List.isEmpty_iff.mp h]
    cases hj : joined items <;> simp [Except.map, hj]
  · rfl

/-- The items of a stream of tokens make up `streamedText`. -/
theorem joined_texts {data texts' : List String}
    (h : data.map tokenEvent = texts'.map fun t => .ok (.token t)) :
    joined (texts stops (data.map .ok)) =
      .ok (String.ofList (streamedText stops (texts'.map String.toList))) := by
  induction data generalizing texts' with
  | nil =>
    have : texts' = [] := by simpa using h.symm
    subst this
    rfl
  | cons d data ih =>
    cases texts' with
    | nil => simp at h
    | cons t ts =>
      simp only [List.map_cons, List.cons.injEq] at h
      obtain ⟨hd, htail⟩ := h
      have htok := ih htail
      simp only [List.map_cons, texts, hd]
      cases hs : (cutAtStop stops t.toList).2 with
      | true =>
        rw [show cutAtStop stops t.toList = ((cutAtStop stops t.toList).1, true) from
          Prod.ext rfl hs, streamedText_of_stop _ hs]
        have := joined_textItem (cutAtStop stops t.toList).1 []
        simpa [joined, Except.map] using this
      | false =>
        rw [show cutAtStop stops t.toList = ((cutAtStop stops t.toList).1, false) from
          Prod.ext rfl hs, streamedText_of_no_stop _ hs, cutAtStop_of_snd_false hs]
        simp only [joined_textItem, htok, Except.map, String.ofList_append]

/-- **Exactly when a stream ends before the first stop sequence.**  For any division of the
generated text into tokens, the stream is that text cut before its first stop sequence if and only
if a stop sequence that begins at the first place where any begins ends in its token; then no stop
sequence is left in the stream.  The stream never ends any earlier. -/
theorem stream_isCut_iff {σ : Type} (e : Endpoint σ) (prompt : String) (stop : List String)
    {s s' : σ} {pieces : List Piece} {data texts' : List String}
    (hopen : (e.backend.sendStream
      (e.request prompt (e.invocationParams stop) true)).run s = (.ok pieces, s'))
    (hevents : Sse.events pieces = data.map .ok)
    (htokens : data.map tokenEvent = texts'.map fun t => .ok (.token t)) :
    let stops := stopList (e.invocationParams stop)
    let tokens := texts'.map String.toList
    ∃ text, joined (e.stream prompt stop s).1 = .ok text ∧
      (IsCut stops tokens.flatten text.toList ↔ FirstStopWithin stops tokens) ∧
      (FirstStopWithin stops tokens → ∀ i, ¬ StopsAt stops text.toList i) ∧
      ∀ cut, IsCut stops tokens.flatten cut → cut <+: text.toList := by
  intro stops tokens
  have hne : ∀ stop ∈ stops, stop ≠ [] := fun _ => ne_nil_of_mem_stopList
  have hitems : (e.stream prompt stop s).1 = texts stops (data.map .ok) := by
    unfold Endpoint.stream Endpoint.streamWith Action.readPieces
    rw [hopen]
    exact congrArg (texts stops) hevents
  refine ⟨String.ofList (streamedText stops tokens), ?_, ?_, ?_, ?_⟩
  · rw [hitems, joined_texts htokens]
  · rw [String.toList_ofList]
    exact streamedText_isCut_iff hne
  · intro hwithin i
    rw [String.toList_ofList]
    exact ((streamedText_isCut_iff hne).mpr hwithin).not_stopsAt hne i
  · intro cut hcut
    rw [String.toList_ofList]
    exact cut_beginning_streamedText hcut

/-! ## Two streams -/

/-- The data of an event with one token. -/
def tokenData (text : String) : String :=
  "\x7b\"token\":\x7b\"text\":\"" ++ text ++ "\"\x7d\x7d"

/-- The bytes of an event with one token of ASCII characters. -/
def tokenBytes (text : String) : List UInt8 :=
  ("data:" ++ tokenData text ++ "\n\n").toList.map fun c => UInt8.ofNat c.toNat

/-- A bench with one scripted stream, a token in each piece. -/
def tokenBench (tokens : List String) : Bench :=
  ⟨[⟨[], [.ok (tokens.map fun t => .ok (tokenBytes t))], []⟩], [], 0⟩

/-- An endpoint on the bench. -/
def benchEndpoint : Endpoint Bench := ⟨.standard, "http://x", none, [], Bench.backend 0⟩

/-- A stop sequence inside a token ends the stream. -/
theorem stream_isCut_iff_mark :
    let stops := stopList (benchEndpoint.invocationParams ["#"])
    let tokens := ["Hi", "!#", "no"].map String.toList
    ∃ text, joined (benchEndpoint.stream "x" ["#"] (tokenBench ["Hi", "!#", "no"])).1 = .ok text ∧
      (IsCut stops tokens.flatten text.toList ↔ FirstStopWithin stops tokens) ∧
      (FirstStopWithin stops tokens → ∀ i, ¬ StopsAt stops text.toList i) ∧
      ∀ cut, IsCut stops tokens.flatten cut → cut <+: text.toList := by
  have hevents : Sse.events (["Hi", "!#", "no"].map fun t => .ok (tokenBytes t)) =
      (["Hi", "!#", "no"].map tokenData).map .ok := by decide +kernel
  exact stream_isCut_iff benchEndpoint "x" ["#"] rfl hevents (by decide +kernel)

/-- A stream goes on past a stop sequence that two tokens share: cut before it, the text would be
empty. -/
theorem stream_passes_shared_stop :
    joined (benchEndpoint.stream "x" ["END"] (tokenBench ["E", "ND"])).1 = .ok "END" ∧
      IsCut (stopList (benchEndpoint.invocationParams ["END"])) "END".toList [] ∧
      ¬ IsCut (stopList (benchEndpoint.invocationParams ["END"])) "END".toList "END".toList := by
  have hstops : stopList (benchEndpoint.invocationParams ["END"]) = ["END".toList] := by
    decide +kernel
  have hstop : StopsAt ["END".toList] "END".toList 0 :=
    ⟨"END".toList, List.mem_singleton.mpr rfl, List.prefix_rfl⟩
  rw [hstops]
  refine ⟨by decide +kernel, ?_, ?_⟩
  · exact ⟨List.nil_prefix, fun _ h => absurd h (Nat.not_lt_zero _), Or.inr hstop⟩
  · intro h
    exact h.none_before 0 (by decide) hstop

end RetrievalKit.HuggingFace
