import Mathlib.Data.List.Forall2

/-!
# Outcomes

Outcomes and traversals read backwards: what succeeded for the whole to succeed, and what failed for
it to fail.

* `bind_eq_ok`, `map_eq_ok` — a sequence that succeeds;
* `mapM_eq_ok`, `forall₂_of_mapM`, `exists_mapM_eq_ok_iff` — a traversal succeeds if and only if all
  its items do, and then makes an item of each;
* `mapM_eq_error` — it fails with the error of one of its items.
-/

namespace RetrievalKit

variable {ε α β : Type} {f : α → Except ε β}

theorem bind_eq_ok {r : Except ε α} {y : β} (h : r >>= f = .ok y) :
    ∃ x, r = .ok x ∧ f x = .ok y := by
  cases r with
  | error e => cases h
  | ok x => exact ⟨x, rfl, h⟩

theorem map_eq_ok {r : Except ε α} {g : α → β} {y : β} (h : r.map g = .ok y) :
    ∃ x, r = .ok x ∧ g x = y := by
  cases r with
  | error e => cases h
  | ok x => exact ⟨x, rfl, Except.ok.inj h⟩

theorem map_eq_error_iff {r : Except ε α} {g : α → β} {e : ε} :
    r.map g = .error e ↔ r = .error e := by
  cases r <;> simp [Except.map]

theorem mapM_eq_ok_map {g : α → β} {xs : List α} (h : ∀ x ∈ xs, f x = .ok (g x)) :
    xs.mapM f = .ok (xs.map g) := by
  induction xs with
  | nil => rfl
  | cons x xs ih =>
    rw [List.mapM_cons, h x List.mem_cons_self, ih fun y hy => h y (List.mem_cons_of_mem x hy)]
    rfl

theorem mapM_cons_eq_ok {x : α} {xs : List α} {ys : List β} (h : (x :: xs).mapM f = .ok ys) :
    ∃ y rest, f x = .ok y ∧ xs.mapM f = .ok rest ∧ ys = y :: rest := by
  rw [List.mapM_cons] at h
  obtain ⟨y, hx, h⟩ := bind_eq_ok h
  obtain ⟨rest, hxs, h⟩ := bind_eq_ok h
  exact ⟨y, rest, hx, hxs, (Except.ok.inj h).symm⟩

/-- A traversal fails with the error of one of its items. -/
theorem mapM_eq_error {xs : List α} {e : ε} (h : xs.mapM f = .error e) :
    ∃ x ∈ xs, f x = .error e := by
  induction xs with
  | nil => cases h
  | cons x xs ih =>
    rw [List.mapM_cons] at h
    cases hx : f x with
    | error e' => exact ⟨x, List.mem_cons_self, by simpa [hx, bind, Except.bind] using h⟩
    | ok y =>
      cases hxs : xs.mapM f with
      | error e' =>
        obtain rfl : e' = e := by simpa [hx, hxs, bind, Except.bind] using h
        obtain ⟨z, hz, herror⟩ := ih hxs
        exact ⟨z, List.mem_cons_of_mem x hz, herror⟩
      | ok ys => simp [hx, hxs, bind, Except.bind, pure, Except.pure] at h

/-- A traversal that succeeds makes an item of each item. -/
theorem mapM_eq_ok {xs : List α} {ys : List β} (h : xs.mapM f = .ok ys) :
    ys.length = xs.length ∧
      ∀ (i : Nat) (x : α) (y : β), xs[i]? = some x → ys[i]? = some y → f x = .ok y := by
  induction xs generalizing ys with
  | nil =>
    cases h
    exact ⟨rfl, nofun⟩
  | cons x xs ih =>
    obtain ⟨y, rest, hx, hxs, rfl⟩ := mapM_cons_eq_ok h
    obtain ⟨hlength, hitems⟩ := ih hxs
    refine ⟨congrArg (· + 1) hlength, fun i z z' hz hz' => ?_⟩
    cases i with
    | zero =>
      cases hz
      cases hz'
      exact hx
    | succ i => exact hitems i z z' hz hz'

theorem forall₂_of_mapM {R : α → β → Prop} (hR : ∀ x y, f x = .ok y → R x y) {xs : List α}
    {ys : List β} (h : xs.mapM f = .ok ys) : List.Forall₂ R xs ys := by
  induction xs generalizing ys with
  | nil =>
    cases h
    exact .nil
  | cons x xs ih =>
    obtain ⟨y, rest, hx, hxs, rfl⟩ := mapM_cons_eq_ok h
    exact .cons (hR x y hx) (ih hxs)

theorem exists_mapM_eq_ok {xs : List α} (h : ∀ x ∈ xs, ∃ y, f x = .ok y) :
    ∃ ys, xs.mapM f = .ok ys := by
  cases hxs : xs.mapM f with
  | error e =>
    obtain ⟨x, hx, herror⟩ := mapM_eq_error hxs
    obtain ⟨y, hy⟩ := h x hx
    rw [hy] at herror
    cases herror
  | ok ys => exact ⟨ys, rfl⟩

/-- Every item of the result was made of an item. -/
theorem exists_of_mem_mapM {xs : List α} {ys : List β} (h : xs.mapM f = .ok ys) {y : β}
    (hy : y ∈ ys) : ∃ x ∈ xs, f x = .ok y := by
  obtain ⟨hlength, hitems⟩ := mapM_eq_ok h
  obtain ⟨i, hlt, rfl⟩ := List.mem_iff_getElem.mp hy
  have hlt' : i < xs.length := hlength ▸ hlt
  exact ⟨xs[i], List.getElem_mem hlt',
    hitems i _ _ (List.getElem?_eq_getElem hlt') (List.getElem?_eq_getElem hlt)⟩

/-- The items of the result are those that the traversal makes. -/
theorem mem_mapM_iff {xs : List α} {ys : List β} (h : xs.mapM f = .ok ys) {y : β} :
    y ∈ ys ↔ ∃ x ∈ xs, f x = .ok y := by
  refine ⟨exists_of_mem_mapM h, fun ⟨x, hx, hy⟩ => ?_⟩
  obtain ⟨hlength, hitems⟩ := mapM_eq_ok h
  obtain ⟨i, hlt, rfl⟩ := List.mem_iff_getElem.mp hx
  have hlt' : i < ys.length := hlength ▸ hlt
  have hmade := hitems i _ _ (List.getElem?_eq_getElem hlt) (List.getElem?_eq_getElem hlt')
  obtain rfl : y = ys[i] := Except.ok.inj (hy.symm.trans hmade)
  exact List.getElem_mem hlt'

/-- A traversal succeeds if and only if all its items do. -/
theorem exists_mapM_eq_ok_iff {xs : List α} :
    (∃ ys, xs.mapM f = .ok ys) ↔ ∀ x ∈ xs, ∃ y, f x = .ok y := by
  refine ⟨fun ⟨ys, hys⟩ x hx => ?_, exists_mapM_eq_ok⟩
  obtain ⟨hlength, hitems⟩ := mapM_eq_ok hys
  obtain ⟨i, hlt, rfl⟩ := List.mem_iff_getElem.mp hx
  have hlt' : i < ys.length := hlength ▸ hlt
  exact ⟨ys[i], hitems i _ _ (List.getElem?_eq_getElem hlt) (List.getElem?_eq_getElem hlt')⟩

end RetrievalKit
