import RetrievalKit.HuggingFace.Endpoint

/-!
# Cutting a text at its first stop sequence

* `StopsAt` — a stop sequence begins at a place of a text;
* `IsCut` — what a text cut before its first stop sequence is, said without the function that
  cuts: a beginning of the text, before the end of which no stop sequence begins, and which is
  the whole text or has a stop sequence right after it;
* `cutAtStop_isCut`, `IsCut.unique` — `cutAtStop` computes the one cut there is;
* `IsCut.not_stopsAt` — no stop sequence is left in a cut;
* `cutAtStop_congr` — the order of the stop sequences does not matter;
* `stopsAmong`, `stopList_invocationParams` — the stop sequences of a call.
-/

namespace RetrievalKit.HuggingFace

variable {stops : List (List Char)} {text cut : List Char}

/-- A stop sequence begins at place `i` of a text. -/
def StopsAt (stops : List (List Char)) (text : List Char) (i : Nat) : Prop :=
  ∃ stop ∈ stops, stop <+: text.drop i

/-- The text before the earliest place at which a stop sequence begins. -/
structure IsCut (stops : List (List Char)) (text cut : List Char) : Prop where
  beginning : cut <+: text
  none_before : ∀ i < cut.length, ¬ StopsAt stops text i
  whole_or_stop : cut = text ∨ StopsAt stops text cut.length

theorem stopsAt_zero : StopsAt stops text 0 ↔ stops.any (·.isPrefixOf text) = true := by
  simp only [StopsAt, List.drop_zero, List.any_eq_true, List.isPrefixOf_iff_prefix]

theorem stopsAt_cons_succ (c : Char) (i : Nat) :
    StopsAt stops (c :: text) (i + 1) ↔ StopsAt stops text i := by
  simp only [StopsAt, List.drop_succ_cons]

/-- A stop sequence that begins in a text also begins in a longer one. -/
theorem StopsAt.append_right {i : Nat} (h : StopsAt stops text i) (rest : List Char) :
    StopsAt stops (text ++ rest) i := by
  obtain ⟨stop, hmem, hstop⟩ := h
  refine ⟨stop, hmem, hstop.trans ?_⟩
  rw [List.drop_append]
  exact List.prefix_append _ _

/-- Text in front moves the places. -/
theorem stopsAt_append_left (front : List Char) (i : Nat) :
    StopsAt stops (front ++ text) (front.length + i) ↔ StopsAt stops text i := by
  simp only [StopsAt, List.drop_append, List.drop_eq_nil_of_le (Nat.le_add_right front.length i),
    Nat.add_sub_cancel_left, List.nil_append]

/-- Where nothing but sequences with characters stop, none begins beyond the text. -/
theorem StopsAt.lt_length (hne : ∀ stop ∈ stops, stop ≠ []) {i : Nat}
    (h : StopsAt stops text i) : i < text.length := by
  obtain ⟨stop, hmem, hstop⟩ := h
  refine Nat.lt_of_not_le fun hle => hne stop hmem ?_
  rw [List.drop_eq_nil_of_le hle] at hstop
  exact List.prefix_nil.mp hstop

namespace IsCut

/-- A text has at most one cut. -/
theorem unique {other : List Char} (h : IsCut stops text cut) (h' : IsCut stops text other) :
    cut = other := by
  have le : ∀ {a b : List Char}, IsCut stops text a → IsCut stops text b →
      a.length ≤ b.length := by
    intro a b ha hb
    refine Nat.le_of_not_lt fun hlt => ?_
    rcases hb.whole_or_stop with rfl | hstop
    · exact absurd ha.beginning.length_le (by omega)
    · exact ha.none_before _ hlt hstop
  have hlen : cut.length = other.length := Nat.le_antisymm (le h h') (le h' h)
  exact (List.prefix_of_prefix_length_le h.beginning h'.beginning (Nat.le_of_eq hlen)).eq_of_length
    hlen

/-- No stop sequence is left in a cut. -/
theorem not_stopsAt (h : IsCut stops text cut) (hne : ∀ stop ∈ stops, stop ≠ []) (i : Nat) :
    ¬ StopsAt stops cut i := by
  intro hstop
  obtain ⟨rest, hrest⟩ := h.beginning
  have hi : i < cut.length := hstop.lt_length hne
  refine h.none_before i hi ?_
  rw [← hrest]
  exact hstop.append_right rest

end IsCut

/-- **`cutAtStop` cuts a text before its first stop sequence.** -/
theorem cutAtStop_isCut (stops : List (List Char)) (text : List Char) :
    IsCut stops text (cutAtStop stops text).1 := by
  induction text with
  | nil => exact ⟨List.prefix_rfl, fun _ h => absurd h (Nat.not_lt_zero _), Or.inl rfl⟩
  | cons c cs ih =>
    unfold cutAtStop
    split
    · rename_i h
      exact ⟨List.nil_prefix, fun _ h => absurd h (Nat.not_lt_zero _), Or.inr (stopsAt_zero.mpr h)⟩
    · rename_i h
      refine ⟨List.cons_prefix_cons.mpr ⟨rfl, ih.beginning⟩, ?_, ?_⟩
      · intro i hi
        cases i with
        | zero => exact fun h0 => h (stopsAt_zero.mp h0)
        | succ i =>
          rw [stopsAt_cons_succ]
          exact ih.none_before i (Nat.lt_of_succ_lt_succ hi)
      · rcases ih.whole_or_stop with heq | hstop
        · exact Or.inl (congrArg (c :: ·) heq)
        · exact Or.inr ((stopsAt_cons_succ c _).mpr hstop)

/-- Whether the cut is shorter than the text is what the flag of `cutAtStop` tells. -/
theorem cutAtStop_snd (stops : List (List Char)) (text : List Char) :
    (cutAtStop stops text).2 = true ↔ ∃ i < text.length, StopsAt stops text i := by
  induction text with
  | nil => simp [cutAtStop]
  | cons c cs ih =>
    unfold cutAtStop
    split
    · rename_i h
      exact iff_of_true rfl ⟨0, Nat.zero_lt_succ _, stopsAt_zero.mpr h⟩
    · rename_i h
      refine ih.trans ⟨?_, ?_⟩
      · rintro ⟨i, hi, hstop⟩
        exact ⟨i + 1, Nat.succ_lt_succ hi, (stopsAt_cons_succ c i).mpr hstop⟩
      · rintro ⟨i, hi, hstop⟩
        cases i with
        | zero => exact absurd (stopsAt_zero.mp hstop) h
        | succ i => exact ⟨i, Nat.lt_of_succ_lt_succ hi, (stopsAt_cons_succ c i).mp hstop⟩

/-- Without a stop sequence the text stays whole. -/
theorem cutAtStop_of_snd_false (h : (cutAtStop stops text).2 = false) :
    (cutAtStop stops text).1 = text := by
  refine (cutAtStop_isCut stops text).unique ⟨List.prefix_rfl, fun i hi hstop => ?_, Or.inl rfl⟩
  have hsnd := (cutAtStop_snd stops text).mpr ⟨i, hi, hstop⟩
  rw [h] at hsnd
  cases hsnd

/-- A stop sequence occurs in a text. -/
def Occurs (stops : List (List Char)) (text : List Char) : Prop :=
  ∃ stop ∈ stops, stop <:+: text

/-- A stop sequence that occurs begins somewhere. -/
theorem occurs_iff : Occurs stops text ↔ ∃ i, StopsAt stops text i := by
  constructor
  · rintro ⟨stop, hmem, front, back, rfl⟩
    refine ⟨front.length, stop, hmem, ?_⟩
    rw [List.append_assoc, List.drop_left]
    exact List.prefix_append stop back
  · rintro ⟨i, stop, hmem, hstop⟩
    exact ⟨stop, hmem, hstop.isInfix.trans (List.drop_suffix i text).isInfix⟩

theorem cutAtStop_snd_iff_occurs (hne : ∀ stop ∈ stops, stop ≠ []) :
    (cutAtStop stops text).2 = true ↔ Occurs stops text := by
  rw [cutAtStop_snd, occurs_iff]
  constructor
  · rintro ⟨i, -, hstop⟩
    exact ⟨i, hstop⟩
  · rintro ⟨i, hstop⟩
    exact ⟨i, hstop.lt_length hne, hstop⟩

/-- Neither the order of the stop sequences matters nor how often they are listed. -/
theorem cutAtStop_congr {others : List (List Char)} (h : ∀ stop, stop ∈ stops ↔ stop ∈ others)
    (text : List Char) : cutAtStop stops text = cutAtStop others text := by
  induction text with
  | nil => rfl
  | cons c cs ih =>
    have hany : (stops.any fun stop => stop.isPrefixOf (c :: cs)) =
        others.any fun stop => stop.isPrefixOf (c :: cs) := by
      rw [Bool.eq_iff_iff, List.any_eq_true, List.any_eq_true]
      exact exists_congr fun stop => and_congr_left fun _ => h stop
    rw [cutAtStop, cutAtStop, hany, ih]

/-! ## The stop sequences of a call -/

/-- The texts among some entries, without the empty ones. -/
def stopsAmong (entries : List Json) : List (List Char) :=
  ((entries.filterMap Json.asString?).filter (· != "")).map String.toList

theorem mem_stopsAmong_iff {entries : List Json} {stop : List Char} :
    stop ∈ stopsAmong entries ↔ stop ≠ [] ∧ .str (String.ofList stop) ∈ entries := by
  simp only [stopsAmong, List.mem_map, List.mem_filter, List.mem_filterMap, bne_iff_ne,
    Json.asString?_eq_some_iff]
  constructor
  · rintro ⟨s, ⟨⟨_, hmem, rfl⟩, hs⟩, rfl⟩
    rw [String.ofList_toList]
    exact ⟨fun hnil => hs (String.toList_eq_nil_iff.mp hnil), hmem⟩
  · rintro ⟨hne, hmem⟩
    exact ⟨String.ofList stop, ⟨⟨_, hmem, rfl⟩, mt String.ofList_eq_empty_iff.mp hne⟩,
      String.toList_ofList⟩

/-- The entries of the list `stop` among the parameters of a call. -/
def stopEntries (params : Dict) : List Json :=
  ((Dict.get? "stop" params).bind Json.asArray?).getD []

theorem stopList_eq (params : Dict) : stopList params = stopsAmong (stopEntries params) := rfl

/-- The stop sequences of a call have characters. -/
theorem ne_nil_of_mem_stopList {params : Dict} {stop : List Char}
    (h : stop ∈ stopList params) : stop ≠ [] :=
  (mem_stopsAmong_iff.mp h).1

/-- A call has the stop sequences of the settings, then its own. -/
theorem stopList_invocationParams {σ : Type} (e : Endpoint σ) (stop : List String) :
    stopList (e.invocationParams stop) =
      stopsAmong (Endpoint.baseStops e.config ++ stop.map .str) := by
  rw [stopList_eq, stopEntries, Endpoint.invocationParams, Dict.get?_insert_self]
  rfl

end RetrievalKit.HuggingFace
