import RetrievalKit.Proofs.HuggingFace.StreamCut
import RetrievalKit.Proofs.Wire.Action

/-!
# Stop sequences at the end of a reply

A text that is not streamed loses the stop sequences at its end: each sequence of the list is
tried once, in the order of the list.  So one that is uncovered after its turn stays, and so does
the rest of one whose end is another.

* `EndsIn` — a text ends in a stop sequence; `Apart` — no stop sequence is the end of another;
* `exists_removed` — a text is what is left of it and, from its end, some of the sequences in the
  order of the list;
* `not_endsIn_stripStops_iff` — none of sequences that are apart stays if and only if the list has
  those at the end of the text in their order;
* `strips_every_order_iff` — **exact condition**: this holds in every order of the list, with the
  same text left, if and only if the end of the text is one sequence, repeated at most as often as
  the list has it;
* `Endpoint.generate_of_text` — what `generate` returns;
* `generate_leaves_stop` — a stop sequence that stays.
-/

namespace RetrievalKit.HuggingFace

variable {stops : List (List Char)} {text rest base : List Char}

/-- A text ends in a stop sequence. -/
def EndsIn (stops : List (List Char)) (text : List Char) : Prop :=
  ∃ stop ∈ stops, stop <:+ text

instance (stops : List (List Char)) (text : List Char) : Decidable (EndsIn stops text) :=
  inferInstanceAs (Decidable (∃ stop ∈ stops, stop <:+ text))

/-- No stop sequence is the end of another one. -/
def Apart (stops : List (List Char)) : Prop :=
  ∀ stop ∈ stops, ∀ other ∈ stops, stop <:+ other → stop = other

instance (stops : List (List Char)) : Decidable (Apart stops) :=
  inferInstanceAs (Decidable (∀ stop ∈ stops, ∀ other ∈ stops, stop <:+ other → stop = other))

/-- The list has the stop sequences at the end of the text, from its end, in this order. -/
def IsListed (stops : List (List Char)) (text : List Char) : Prop :=
  ∃ (base : List Char) (removed : List (List Char)), ¬ EndsIn stops base ∧
    removed.Sublist stops ∧ text = base ++ removed.reverse.flatten

/-- After `rest`, which ends in no stop sequence, the text has one stop sequence, repeated at most
as often as the list has it. -/
def IsRepetition (stops : List (List Char)) (text rest : List Char) : Prop :=
  ¬ EndsIn stops rest ∧
    ∃ stop n, n ≤ stops.count stop ∧ text = rest ++ (List.replicate n stop).flatten

/-- A text ends in at most one of the sequences that are apart. -/
theorem Apart.eq_of_suffix (h : Apart stops) {stop other : List Char} (hstop : stop ∈ stops)
    (hother : other ∈ stops) (hends : stop <:+ text) (hends' : other <:+ text) : stop = other := by
  rcases List.suffix_or_suffix_of_suffix hends hends' with hsuffix | hsuffix
  · exact h stop hstop other hother hsuffix
  · exact (h other hother stop hstop hsuffix).symm

theorem EndsIn.mono {others : List (List Char)} (hsub : others ⊆ stops)
    (h : EndsIn others text) : EndsIn stops text := by
  obtain ⟨stop, hmem, hends⟩ := h
  exact ⟨stop, hsub hmem, hends⟩

/-! ## One pass over the list -/

theorem stripStop_append (text stop : List Char) : stripStop (text ++ stop) stop = text := by
  unfold stripStop
  rw [if_pos (List.isSuffixOf_iff_suffix.mpr (List.suffix_append text stop)), List.length_append,
    Nat.add_sub_cancel, List.take_left]

theorem stripStop_of_not_suffix {stop : List Char} (h : ¬ stop <:+ text) :
    stripStop text stop = text := by
  unfold stripStop
  rw [if_neg fun hends => h (List.isSuffixOf_iff_suffix.mp hends)]

theorem stripStops_cons (stop : List Char) (stops : List (List Char)) (text : List Char) :
    stripStops (stop :: stops) text = stripStops stops (stripStop text stop) := rfl

theorem stripStops_append (front back : List (List Char)) (text : List Char) :
    stripStops (front ++ back) text = stripStops back (stripStops front text) :=
  List.foldl_append

/-- What a pass removes are sequences of the list, each as often as it is there, in its order from
the end of the text on. -/
theorem exists_removed (stops : List (List Char)) (text : List Char) :
    ∃ removed : List (List Char), removed.Sublist stops ∧
      text = stripStops stops text ++ removed.reverse.flatten := by
  induction stops generalizing text with
  | nil => exact ⟨[], List.Sublist.refl [], (List.append_nil text).symm⟩
  | cons stop stops ih =>
    rw [stripStops_cons]
    by_cases hends : stop <:+ text
    · obtain ⟨before, rfl⟩ := hends
      rw [stripStop_append]
      obtain ⟨removed, hsub, hbefore⟩ := ih before
      refine ⟨stop :: removed, List.cons_sublist_cons.mpr hsub, ?_⟩
      rw [List.reverse_cons, List.flatten_append, List.flatten_singleton, ← List.append_assoc,
        ← hbefore]
    · rw [stripStop_of_not_suffix hends]
      obtain ⟨removed, hsub, htext⟩ := ih text
      exact ⟨removed, hsub.cons stop, htext⟩

theorem stripStops_beginning (stops : List (List Char)) (text : List Char) :
    stripStops stops text <+: text := by
  obtain ⟨removed, -, htext⟩ := exists_removed stops text
  exact ⟨removed.reverse.flatten, htext.symm⟩

/-- A text stays whole if and only if it ends in no stop sequence. -/
theorem stripStops_eq_self_iff (hne : ∀ stop ∈ stops, stop ≠ []) :
    stripStops stops text = text ↔ ¬ EndsIn stops text := by
  induction stops with
  | nil => exact iff_of_true rfl fun ⟨_, hmem, _⟩ => List.not_mem_nil hmem
  | cons stop stops ih =>
    rw [stripStops_cons]
    by_cases hends : stop <:+ text
    · refine iff_of_false (fun heq => ?_) fun h => h ⟨stop, List.mem_cons_self, hends⟩
      obtain ⟨before, rfl⟩ := hends
      rw [stripStop_append] at heq
      -- what is left is at most `before`, and the sequence has characters
      have hshorter := (stripStops_beginning stops before).length_le
      have hchars := List.length_pos_iff.mpr (hne stop List.mem_cons_self)
      rw [heq, List.length_append] at hshorter
      omega
    · rw [stripStop_of_not_suffix hends, ih fun s hs => hne s (List.mem_cons_of_mem stop hs)]
      refine not_congr ⟨EndsIn.mono (List.subset_cons_self stop stops), ?_⟩
      rintro ⟨other, hmem, hother⟩
      rcases List.mem_cons.mp hmem with rfl | hmem
      · exact absurd hother hends
      · exact ⟨other, hmem, hother⟩

/-- **A pass finds the sequences at the end of a text if the list has them in that order.** -/
theorem stripStops_of_sublist (hapart : Apart stops) (hbase : ¬ EndsIn stops base)
    {removed : List (List Char)} (hsub : removed.Sublist stops) :
    stripStops stops (base ++ removed.reverse.flatten) = base := by
  induction stops generalizing removed with
  | nil =>
    rw [List.sublist_nil.mp hsub]
    exact List.append_nil base
  | cons stop stops ih =>
    have htail : Apart stops := fun s hs o ho =>
      hapart s (List.mem_cons_of_mem stop hs) o (List.mem_cons_of_mem stop ho)
    have hrest : ¬ EndsIn stops base := mt (EndsIn.mono (List.subset_cons_self stop stops)) hbase
    rw [stripStops_cons]
    cases removed with
    | nil =>
      have hno : ¬ stop <:+ base ++ ([] : List (List Char)).reverse.flatten := by
        rw [List.reverse_nil, List.flatten_nil, List.append_nil]
        exact fun h => hbase ⟨stop, List.mem_cons_self, h⟩
      rw [stripStop_of_not_suffix hno]
      exact ih htail hrest (List.nil_sublist stops)
    | cons last removed =>
      have hlast : last <:+ base ++ (last :: removed).reverse.flatten := by
        rw [List.reverse_cons, List.flatten_append, List.flatten_singleton, ← List.append_assoc]
        exact List.suffix_append _ last
      by_cases heq : stop = last
      · subst heq
        rw [List.reverse_cons, List.flatten_append, List.flatten_singleton, ← List.append_assoc,
          stripStop_append]
        exact ih htail hrest (List.cons_sublist_cons.mp hsub)
      · have hno : ¬ stop <:+ base ++ (last :: removed).reverse.flatten := fun hends =>
          heq (hapart.eq_of_suffix List.mem_cons_self (hsub.subset List.mem_cons_self) hends hlast)
        rw [stripStop_of_not_suffix hno]
        refine ih htail hrest ?_
        rcases List.sublist_cons_iff.mp hsub with hsub | ⟨_, hcons, _⟩
        · exact hsub
        · exact absurd (List.cons.inj hcons).1.symm heq

/-- Where no stop sequence is the end of another one, nothing stays if and only if the list has
the sequences at the end of the text in their order. -/
theorem not_endsIn_stripStops_iff (hapart : Apart stops) :
    ¬ EndsIn stops (stripStops stops text) ↔ IsListed stops text := by
  constructor
  · intro hrest
    obtain ⟨removed, hsub, htext⟩ := exists_removed stops text
    exact ⟨stripStops stops text, removed, hrest, hsub, htext⟩
  · rintro ⟨base, removed, hbase, hsub, rfl⟩
    rwa [stripStops_of_sublist hapart hbase hsub]

/-! ## Every order of the list -/

theorem Apart.perm {order : List (List Char)} (h : Apart stops) (hperm : order.Perm stops) :
    Apart order := fun stop hstop other hother =>
  h stop (hperm.subset hstop) other (hperm.subset hother)

/-- **Exactly when the order of the list does not matter and nothing stays.**  Where no stop
sequence is the end of another one, every order leaves `rest`, and `rest` ends in no stop sequence,
if and only if the text has after it one stop sequence, repeated at most as often as the list has
it. -/
theorem strips_every_order_iff (hapart : Apart stops) :
    (∀ order : List (List Char), order.Perm stops → stripStops order text = rest) ∧
        ¬ EndsIn stops rest ↔
      IsRepetition stops text rest := by
  constructor
  · rintro ⟨hall, hrest⟩
    refine ⟨hrest, ?_⟩
    by_cases hends : EndsIn stops text
    · obtain ⟨stop, hmem, hstop⟩ := hends
      -- in the order that has `stop` last, the pass begins with the copies of it
      let others := stops.filter fun s => !(s == stop)
      have hothers : stripStops others text = text := by
        have hno : ¬ EndsIn others text := by
          rintro ⟨other, hother, hend⟩
          obtain ⟨hother, hneq⟩ := List.mem_filter.mp hother
          rw [hapart.eq_of_suffix hother hmem hend hstop, beq_self_eq_true] at hneq
          cases hneq
        have hapart' : Apart others := fun s hs o ho =>
          hapart s (List.mem_filter.mp hs).1 o (List.mem_filter.mp ho).1
        have hpass := stripStops_of_sublist hapart' hno (List.nil_sublist others)
        rwa [List.reverse_nil, List.flatten_nil, List.append_nil] at hpass
      have hperm : (others ++ List.replicate (stops.count stop) stop).Perm stops := by
        rw [← List.filter_beq]
        exact List.perm_append_comm.trans (List.filter_append_perm (· == stop) stops)
      have hlast := hall _ hperm
      rw [stripStops_append, hothers] at hlast
      obtain ⟨removed, hsub, htext⟩ := exists_removed (List.replicate (stops.count stop) stop) text
      rw [hlast] at htext
      obtain ⟨n, hn, rfl⟩ := List.sublist_replicate_iff.mp hsub
      rw [List.reverse_replicate] at htext
      exact ⟨stop, n, hn, htext⟩
    · have hpass := stripStops_of_sublist hapart hends (List.nil_sublist stops)
      rw [List.reverse_nil, List.flatten_nil, List.append_nil, hall stops (List.Perm.refl stops)]
        at hpass
      exact ⟨[], 0, Nat.zero_le _, by rw [hpass]; exact (List.append_nil text).symm⟩
  · rintro ⟨hrest, stop, n, hn, rfl⟩
    refine ⟨fun order hperm => ?_, hrest⟩
    have hsub : (List.replicate n stop).Sublist order :=
      List.replicate_sublist_iff.mpr (by rwa [hperm.count_eq])
    have hpass := stripStops_of_sublist (hapart.perm hperm)
      (mt (EndsIn.mono hperm.subset) hrest) hsub
    rwa [List.reverse_replicate] at hpass

example : stripStops [['a'], ['b']] ['a', 'b'] = ['a'] ∧ stripStops [['b'], ['a']] ['a', 'b'] = [] :=
  by decide

/-- A whole list of sequences, from the last to the first, is removed from any text. -/
theorem stripStops_append_reverse (stops : List (List Char)) (base : List Char) :
    stripStops stops (base ++ stops.reverse.flatten) = base := by
  induction stops with
  | nil => exact List.append_nil base
  | cons stop stops ih =>
    rw [stripStops_cons, List.reverse_cons, List.flatten_append, List.flatten_singleton,
      ← List.append_assoc, stripStop_append, ih]

/-- Every list of stop sequences leaves one of them at the end of some text. -/
theorem exists_endsIn_stripStops (h : stops ≠ []) :
    ∃ text, EndsIn stops (stripStops stops text) := by
  obtain ⟨stop, hmem⟩ := List.exists_mem_of_ne_nil stops h
  exact ⟨stop ++ stops.reverse.flatten, stop, hmem, [], (stripStops_append_reverse stops stop).symm⟩

/-! ## Replies -/

/-- The body of a reply has this generated text: its first item has, or it has itself. -/
inductive HasText : Json → String → Prop
  | first {item : Json} {items : List Json} {text : String}
    (h : item.get? "generated_text" = some (.str text)) : HasText (.arr (item :: items)) text
  | itself {fields : Dict} {text : String}
    (h : (Json.obj fields).get? "generated_text" = some (.str text)) : HasText (.obj fields) text

theorem generatedText_eq_ok_iff {body : Json} {text : String} :
    generatedText body = .ok text ↔ HasText body text := by
  constructor
  · intro h
    unfold generatedText at h
    dsimp only at h
    split at h
    · rename_i found hfield
      cases h
      have hitem := Json.asString?_field_eq_some_iff.mp hfield
      cases body with
      | arr items =>
        cases items with
        | nil => cases hitem
        | cons item items => exact .first hitem
      | obj fields => exact .itself hitem
      | _ => cases hitem
    · cases h
  · intro h
    unfold generatedText
    cases h with
    | first h =>
      dsimp only [List.headD]
      rw [Json.asString?_field_eq_some_iff.mpr h]
    | itself h =>
      dsimp only
      rw [Json.asString?_field_eq_some_iff.mpr h]

/-- A reply that is no failure is read for the text in its body. -/
theorem textOfReply_eq_ok_iff {reply : Reply} {text : String} (hstatus : reply.status < 400) :
    textOfReply reply = .ok text ↔ HasText reply.body text := by
  unfold textOfReply
  rw [Reply.check_of_status hstatus]
  exact generatedText_eq_ok_iff

section Replies

variable {σ : Type}

/-- **What is left of a generated text.**  For every list of stop sequences, those of the settings
and of the call without the empty ones, the text that a call without a stream returns is a beginning
of the generated text, the whole of it if and only if that ends in no stop sequence, and otherwise
all but some sequences of the list, in its order from the end of the text on.  Where no stop
sequence is the end of another one, it ends in none of them if and only if the list has those at the
end of the text in that order; and this in every order of the list, with the same text left, if and
only if the end of the text is one sequence, repeated at most as often as the list has it.  Every
list that is not empty leaves a stop sequence at the end of some text. -/
theorem Endpoint.generate_of_text (e : Endpoint σ) (prompt : String) (stop : List String)
    {w w' : σ} {reply : Reply} {text : String} (hstreaming : e.config.streaming = false)
    (hreply : (e.backend.send (e.request prompt (e.invocationParams stop) false)).run w =
      (.ok reply, w'))
    (hstatus : reply.status < 400) (htext : HasText reply.body text) :
    let stops := stopsAmong (baseStops e.config ++ stop.map .str)
    let rest := stripStops stops text.toList
    (e.generate prompt stop).run w = (.ok (String.ofList rest), w') ∧
      rest <+: text.toList ∧
      (rest = text.toList ↔ ¬ EndsIn stops text.toList) ∧
      (∃ removed : List (List Char), removed.Sublist stops ∧
        text.toList = rest ++ removed.reverse.flatten) ∧
      (Apart stops →
        (¬ EndsIn stops rest ↔ IsListed stops text.toList) ∧
        ((∀ order : List (List Char), order.Perm stops → stripStops order text.toList = rest) ∧
            ¬ EndsIn stops rest ↔
          IsRepetition stops text.toList rest)) ∧
      (stops ≠ [] → ∃ other, EndsIn stops (stripStops stops other)) := by
  intro stops rest
  have hne : ∀ stop ∈ stops, stop ≠ [] := fun _ hmem => (mem_stopsAmong_iff.mp hmem).1
  refine ⟨?_, stripStops_beginning stops _, stripStops_eq_self_iff hne, exists_removed stops _,
    fun hapart => ⟨not_endsIn_stripStops_iff hapart, strips_every_order_iff hapart⟩,
    exists_endsIn_stripStops⟩
  unfold generate generateWith
  have hread := (textOfReply_eq_ok_iff hstatus).mpr htext
  rw [hstreaming, if_neg Bool.false_ne_true, Action.run_bind_of_ok hreply,
    Action.run_bind_of_ok (by rw [Action.run_liftExcept, hread]), Action.run_pure,
    stopList_invocationParams]

end Replies

/-! ## Two replies -/

/-- A bench with one reply that has this generated text. -/
def textBench (text : String) : Bench :=
  ⟨[⟨[.ok ⟨200, .arr [.obj [("generated_text", .str text)]]⟩], [], []⟩], [], 0⟩

/-- A reply that ends in one of two stop sequences, and one in every order of them. -/
theorem generate_of_text_turn :
    ((benchEndpoint.generate "x" ["</s>", "\nHuman:"]).run (textBench "answer\nHuman:")).1 =
        .ok "answer" ∧
      ∀ order : List (List Char), order.Perm ["</s>".toList, "\nHuman:".toList] →
        stripStops order "answer\nHuman:".toList = "answer".toList := by
  have hstops : stopsAmong (Endpoint.baseStops benchEndpoint.config ++
      ["</s>", "\nHuman:"].map .str) = ["</s>".toList, "\nHuman:".toList] := by decide +kernel
  have hrest : stripStops ["</s>".toList, "\nHuman:".toList] "answer\nHuman:".toList =
      "answer".toList := by decide
  obtain ⟨hrun, -, -, -, hexact, -⟩ := Endpoint.generate_of_text benchEndpoint "x"
    ["</s>", "\nHuman:"] (w := textBench "answer\nHuman:") rfl rfl (by decide) (.first rfl)
  rw [hstops, hrest] at hrun hexact
  refine ⟨by rw [hrun]; rfl, ((hexact (by decide)).2.mpr ?_).1⟩
  exact ⟨by decide, "\nHuman:".toList, 1, by decide, rfl⟩

/-- A stop sequence that is the end of another one, and comes before it, takes away the end of it
only, so that a stop sequence stays.  In the other order none does. -/
theorem generate_leaves_stop :
    ((benchEndpoint.generate "x" ["\n", "\n\n"]).run (textBench "answer\n\n")).1 =
        .ok "answer\n" ∧
      ((benchEndpoint.generate "x" ["\n\n", "\n"]).run (textBench "answer\n\n")).1 =
        .ok "answer" ∧
      EndsIn (stopList (benchEndpoint.invocationParams ["\n", "\n\n"])) "answer\n".toList :=
  ⟨by decide +kernel, by decide +kernel, by decide +kernel⟩

end RetrievalKit.HuggingFace
