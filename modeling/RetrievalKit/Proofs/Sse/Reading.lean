import RetrievalKit.Sse.Decoder

/-!
# Reading events up to an ending

A reader takes the events of a stream one after the other.  Each event yields some items, and some
events end the reading: nothing after them is looked at.

* `readUntil` — what a reader yields, given what it makes of one event;
* `readUntil_of_ends` — what comes after an ending does not matter;
* `ClosesOnce` — parts, and after them at most one item of another kind, which is the last;
* `readUntil_closesOnce` — a reader yields parts until an ending, and closes once.
-/

namespace RetrievalKit

/-! ## Items that close once -/

section Items

variable {α β : Type} {IsPart IsClosing : α → Prop}

/-- Values that are parts, and after them nothing, one error, or one value that closes. -/
def ClosesOnce (IsPart IsClosing : α → Prop) (items : List (Except Error α)) : Prop :=
  ∃ (parts : List α) (last : List (Except Error α)), items = parts.map .ok ++ last ∧
    (∀ part ∈ parts, IsPart part) ∧ (last = [] ∨ (∃ e, last = [.error e]) ∨
      ∃ closing, IsClosing closing ∧ last = [.ok closing])

theorem closesOnce_nil : ClosesOnce IsPart IsClosing [] :=
  ⟨[], [], rfl, fun _ h => (List.not_mem_nil h).elim, Or.inl rfl⟩

theorem closesOnce_error (e : Error) : ClosesOnce IsPart IsClosing [.error e] :=
  ⟨[], [.error e], rfl, fun _ h => (List.not_mem_nil h).elim, Or.inr (Or.inl ⟨e, rfl⟩)⟩

theorem closesOnce_closing {closing : α} (h : IsClosing closing) :
    ClosesOnce IsPart IsClosing [.ok closing] :=
  ⟨[], [.ok closing], rfl, fun _ h => (List.not_mem_nil h).elim, Or.inr (Or.inr ⟨closing, h, rfl⟩)⟩

/-- More parts may come first. -/
theorem ClosesOnce.parts_append {items : List (Except Error α)}
    (h : ClosesOnce IsPart IsClosing items) {parts : List α} (hparts : ∀ part ∈ parts, IsPart part) :
    ClosesOnce IsPart IsClosing (parts.map .ok ++ items) := by
  obtain ⟨later, last, rfl, hlater, hlast⟩ := h
  refine ⟨parts ++ later, last, by simp, ?_, hlast⟩
  intro part hpart
  rcases List.mem_append.mp hpart with hpart | hpart
  · exact hparts part hpart
  · exact hlater part hpart

theorem closesOnce_parts {parts : List α} (hparts : ∀ part ∈ parts, IsPart part) :
    ClosesOnce IsPart IsClosing (parts.map .ok) := by
  have h : ClosesOnce IsPart IsClosing [] := closesOnce_nil
  simpa using h.parts_append hparts

/-- A change of the values keeps their kinds, if it takes parts to parts. -/
theorem ClosesOnce.map {items : List (Except Error α)} (h : ClosesOnce IsPart IsClosing items)
    {IsPart' IsClosing' : β → Prop} (f : α → β) (hpart : ∀ a, IsPart a → IsPart' (f a))
    (hclosing : ∀ a, IsClosing a → IsClosing' (f a)) :
    ClosesOnce IsPart' IsClosing' (items.map (Except.map f)) := by
  obtain ⟨parts, last, rfl, hparts, hlast⟩ := h
  refine ⟨parts.map f, last.map (Except.map f), by simp [Except.map], ?_, ?_⟩
  · intro part hmem
    obtain ⟨a, ha, rfl⟩ := List.mem_map.mp hmem
    exact hpart a (hparts a ha)
  · rcases hlast with rfl | ⟨e, rfl⟩ | ⟨closing, hc, rfl⟩
    · exact Or.inl rfl
    · exact Or.inr (Or.inl ⟨e, rfl⟩)
    · exact Or.inr (Or.inr ⟨f closing, hclosing closing hc, rfl⟩)

end Items

namespace Sse

/-! ## Readers -/

section Readers

variable {ε ι α : Type} {take : ε → List ι × Bool}

/-- What a reader yields.  Of one event it makes some items, and tells whether it ends there. -/
def readUntil (take : ε → List ι × Bool) : List ε → List ι
  | [] => []
  | e :: rest => if (take e).2 then (take e).1 else (take e).1 ++ readUntil take rest

theorem readUntil_cons_of_ends {e : ε} (h : (take e).2 = true) (rest : List ε) :
    readUntil take (e :: rest) = (take e).1 := by
  rw [readUntil, if_pos h]

theorem readUntil_cons_of_goes_on {e : ε} (h : (take e).2 = false) (rest : List ε) :
    readUntil take (e :: rest) = (take e).1 ++ readUntil take rest := by
  rw [readUntil, if_neg (by simp [h])]

/-- What comes after an ending does not matter. -/
theorem readUntil_of_ends {e : ε} (h : (take e).2 = true) (before after after' : List ε) :
    readUntil take (before ++ e :: after) = readUntil take (before ++ e :: after') := by
  induction before with
  | nil =>
    rw [List.nil_append, List.nil_append, readUntil_cons_of_ends h, readUntil_cons_of_ends h]
  | cons first before ih =>
    rw [List.cons_append, List.cons_append, readUntil, readUntil, ih]

/-- Up to an ending a reader works piecemeal. -/
theorem readUntil_append {before : List ε} (h : ∀ e ∈ before, (take e).2 = false)
    (after : List ε) : readUntil take (before ++ after) =
      readUntil take before ++ readUntil take after := by
  induction before with
  | nil => rfl
  | cons e before ih =>
    have he : (take e).2 = false := h e List.mem_cons_self
    rw [List.cons_append, readUntil_cons_of_goes_on he, readUntil_cons_of_goes_on he,
      ih fun e' h' => h e' (List.mem_cons_of_mem e h'), List.append_assoc]

/-- A reader that makes parts of the events that do not end it, and closes once at those that do,
closes once on every stream. -/
theorem readUntil_closesOnce {IsPart IsClosing : α → Prop} {take : ε → List (Except Error α) × Bool}
    (hgoesOn : ∀ e, (take e).2 = false →
      ∃ parts : List α, (take e).1 = parts.map .ok ∧ ∀ part ∈ parts, IsPart part)
    (hends : ∀ e, (take e).2 = true → ClosesOnce IsPart IsClosing (take e).1) (events : List ε) :
    ClosesOnce IsPart IsClosing (readUntil take events) := by
  induction events with
  | nil => exact closesOnce_nil
  | cons e rest ih =>
    cases h : (take e).2 with
    | true =>
      rw [readUntil_cons_of_ends h]
      exact hends e h
    | false =>
      obtain ⟨parts, hitems, hparts⟩ := hgoesOn e h
      rw [readUntil_cons_of_goes_on h, hitems]
      exact ih.parts_append hparts

end Readers

end Sse

/-! ## Streams -/

section Streams

variable {σ α β : Type}

theorem Action.readPieces_of_ok {opening : Action σ (List Piece)} {s : σ} {pieces : List Piece}
    (h : (opening.run s).1 = .ok pieces) (read : List Piece → List (Except Error α)) :
    (opening.readPieces read s).1 = read pieces := by
  unfold Action.readPieces
  split
  · rename_i hrun
    rw [hrun, Except.ok.injEq] at h
    rw [h]
  · rename_i hrun
    rw [hrun] at h
    cases h

theorem Action.readPieces_of_error {opening : Action σ (List Piece)} {s : σ} {e : Error}
    (h : (opening.run s).1 = .error e) (read : List Piece → List (Except Error α)) :
    (opening.readPieces read s).1 = [.error e] := by
  unfold Action.readPieces
  split
  · rename_i hrun
    rw [hrun] at h
    cases h
  · rename_i hrun
    rw [hrun, Except.error.injEq] at h
    rw [h]

/-- The items of a stream that `opening` opens close once, whatever its pieces, and an error in
opening is the only item.  The stream ends at the first ending event: what comes after one does not
matter, and as long as there is none the stream goes on with the next event. -/
structure Drain.EndsCleanly (opening : Action σ (List Piece)) (IsPart IsClosing : α → Prop)
    (IsEnding : Except Error String → Prop) (items : Drain σ α) : Prop where
  closesOnce : ∀ s, ClosesOnce IsPart IsClosing (items s).1
  opening_failed : ∀ s e, (opening.run s).1 = .error e → (items s).1 = [.error e]
  nothing_after : ∀ s t pieces pieces' before ending after after',
    (opening.run s).1 = .ok pieces → (opening.run t).1 = .ok pieces' →
    Sse.events pieces = before ++ ending :: after →
    Sse.events pieces' = before ++ ending :: after' → IsEnding ending → (items s).1 = (items t).1
  goes_on : ∀ s t u pieces pieces' pieces'' before after,
    (opening.run s).1 = .ok pieces → (opening.run t).1 = .ok pieces' →
    (opening.run u).1 = .ok pieces'' → Sse.events pieces = before ++ after →
    Sse.events pieces' = before → Sse.events pieces'' = after → (∀ e ∈ before, ¬ IsEnding e) →
    (items s).1 = (items t).1 ++ (items u).1

variable {opening : Action σ (List Piece)} {IsPart IsClosing : α → Prop}
  {IsEnding : Except Error String → Prop}

/-- A reader of events makes a stream that ends cleanly. -/
theorem Drain.endsCleanly_readPieces {take : Except Error String → List (Except Error α) × Bool}
    (hgoesOn : ∀ e, (take e).2 = false →
      ∃ parts : List α, (take e).1 = parts.map .ok ∧ ∀ part ∈ parts, IsPart part)
    (hends : ∀ e, (take e).2 = true → ClosesOnce IsPart IsClosing (take e).1)
    (hending : ∀ e, (take e).2 = true ↔ IsEnding e) :
    Drain.EndsCleanly opening IsPart IsClosing IsEnding
      (opening.readPieces fun pieces => Sse.readUntil take (Sse.events pieces)) where
  closesOnce s := by
    cases h : (opening.run s).1 with
    | ok pieces =>
      rw [Action.readPieces_of_ok h]
      exact Sse.readUntil_closesOnce hgoesOn hends _
    | error e =>
      rw [Action.readPieces_of_error h]
      exact closesOnce_error e
  opening_failed s e h := Action.readPieces_of_error h _
  nothing_after s t pieces pieces' before ending after after' hs ht hevents hevents' h := by
    rw [Action.readPieces_of_ok hs, Action.readPieces_of_ok ht, hevents, hevents']
    exact Sse.readUntil_of_ends ((hending ending).mpr h) before after after'
  goes_on s t u pieces pieces' pieces'' before after hs ht hu hevents hevents' hevents'' h := by
    rw [Action.readPieces_of_ok hs, Action.readPieces_of_ok ht, Action.readPieces_of_ok hu,
      hevents, hevents', hevents'']
    refine Sse.readUntil_append (fun e he => ?_) after
    rw [← Bool.not_eq_true, hending]
    exact h e he

theorem Drain.EndsCleanly.map {items : Drain σ α}
    (h : Drain.EndsCleanly opening IsPart IsClosing IsEnding items) {IsPart' IsClosing' : β → Prop}
    (f : α → β) (hpart : ∀ a, IsPart a → IsPart' (f a))
    (hclosing : ∀ a, IsClosing a → IsClosing' (f a)) :
    Drain.EndsCleanly opening IsPart' IsClosing' IsEnding (items.map f) where
  closesOnce s := (h.closesOnce s).map f hpart hclosing
  opening_failed s e he := by
    show (items s).1.map (Except.map f) = [.error e]
    rw [h.opening_failed s e he]
    rfl
  nothing_after s t pieces pieces' before ending after after' hs ht hevents hevents' hending :=
    congrArg (List.map (Except.map f))
      (h.nothing_after s t pieces pieces' before ending after after' hs ht hevents hevents' hending)
  goes_on s t u pieces pieces' pieces'' before after hs ht hu hevents hevents' hevents'' hno := by
    show (items s).1.map (Except.map f) = (items t).1.map (Except.map f) ++
      (items u).1.map (Except.map f)
    rw [← List.map_append]
    exact congrArg (List.map (Except.map f)) (h.goes_on s t u pieces pieces' pieces'' before after
      hs ht hu hevents hevents' hevents'' hno)

end Streams

end RetrievalKit
