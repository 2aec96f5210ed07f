import RetrievalKit.Proofs.Surreal.Operation
import RetrievalKit.Proofs.Surreal.Parameters

/-!
# What a store refuses

An operation that has something to do may still be refused before its call.  The checks refuse for
five reasons; a vector of another dimension or a key that is no path is one wherever it stands.

* `Operation.check_eq_ok_iff` — what passes all checks;
* `Operation.Refused` — the reasons;
* `Operation.checked_eq_error_iff` — the checks refuse for these reasons and no others.
-/

namespace RetrievalKit.Surreal

@[simp] theorem Store.checkDimension_eq_ok_iff {c : Config} {vector : Vector32} :
    checkDimension c vector = .ok () ↔ ∀ n, c.dimension = some n → vector.length = n := by
  unfold checkDimension
  cases c.dimension with
  | none => simp
  | some n => simp [eq_comm]

@[simp] theorem check_bind_eq_ok_iff {r r' : Except Error Unit} :
    (r >>= fun _ => r') = .ok () ↔ r = .ok () ∧ r' = .ok () := by
  cases r with
  | error err => simp [bind, Except.bind]
  | ok u => simp [bind, Except.bind]

@[simp] theorem forM_eq_ok_iff {α : Type} {f : α → Except Error Unit} {xs : List α} :
    forM xs f = .ok () ↔ ∀ x ∈ xs, f x = .ok () := by
  induction xs with
  | nil => simp [pure, Except.pure]
  | cons x xs ih => rw [List.forM_cons, check_bind_eq_ok_iff, ih, List.forall_mem_cons]

namespace Operation

variable {c : Config} {op : Operation} {vectors : List Vector32}

@[simp] theorem checkIndex_eq_ok_iff :
    op.checkIndex c = .ok () ↔ (op = .ensureIndex → c.dimension ≠ none) := by
  cases op with
  | ensureIndex =>
    unfold checkIndex
    cases c.dimension with
    | none => simp
    | some n => simp
  | _ => simp [checkIndex]

@[simp] theorem checkCount_eq_ok_iff :
    op.checkCount vectors = .ok () ↔
      ∀ documents, op = .addDocuments documents → vectors.length = documents.length := by
  cases op with
  | addDocuments documents => simp [checkCount]
  | _ => simp [checkCount]

/-- An operation passes if nothing is wrong with its settings, its vectors and its filter. -/
theorem check_eq_ok_iff :
    op.check c vectors = .ok () ↔
      (op = .ensureIndex → c.dimension ≠ none) ∧
      (∀ documents, op = .addDocuments documents → vectors.length = documents.length) ∧
      (∀ vector ∈ vectors, ∀ n, c.dimension = some n → vector.length = n) ∧
      ∀ key ∈ op.filter.keys, isPath key.toList = true := by
  simp [check]

/-- Why an operation is refused, given what its texts were embedded as. -/
inductive Refused (c : Config) : Operation → Except Error (List Vector32) → Prop where
  /-- An index needs a dimension. -/
  | noDimension {embedded : Except Error (List Vector32)} (h : c.dimension = none) :
      Refused c .ensureIndex embedded
  /-- The texts could not be embedded. -/
  | embedding {op : Operation} (err : Error) : Refused c op (.error err)
  /-- There is not one vector for each document. -/
  | count {documents : List Document} {vectors : List Vector32}
      (h : vectors.length ≠ documents.length) : Refused c (.addDocuments documents) (.ok vectors)
  /-- A vector has another dimension than the settings say. -/
  | dimension {op : Operation} {vectors : List Vector32} {vector : Vector32} {n : Nat}
      (hn : c.dimension = some n) (hmem : vector ∈ vectors) (h : vector.length ≠ n) :
      Refused c op (.ok vectors)
  /-- A key of the filter is no path. -/
  | filterKey {op : Operation} {vectors : List Vector32} {key : String}
      (hmem : key ∈ op.filter.keys) (h : isPath key.toList = false) : Refused c op (.ok vectors)

/-- What is refused does not pass the checks. -/
theorem Refused.check_ne_ok (h : op.Refused c (.ok vectors)) : op.check c vectors ≠ .ok () := by
  rw [Ne, check_eq_ok_iff]
  rintro ⟨hindex, hcount, hdimension, hkeys⟩
  cases h with
  | noDimension hnone => exact hindex rfl hnone
  | count hlength => exact hlength (hcount _ rfl)
  | dimension hn hmem hlength => exact hlength (hdimension _ hmem _ hn)
  | filterKey hmem hpath => simp [hkeys _ hmem] at hpath

/-- What does not pass the checks is refused. -/
theorem refused_of_check_ne_ok (h : op.check c vectors ≠ .ok ()) : op.Refused c (.ok vectors) := by
  refine Classical.byContradiction fun hrefused =>
    h (check_eq_ok_iff.mpr ⟨?_, ?_, ?_, ?_⟩)
  · rintro rfl hnone
    exact hrefused (.noDimension hnone)
  · rintro documents rfl
    exact Decidable.byContradiction fun hlength => hrefused (.count hlength)
  · intro vector hmem n hn
    exact Decidable.byContradiction fun hlength => hrefused (.dimension hn hmem hlength)
  · intro key hmem
    exact Decidable.byContradiction fun hpath =>
      hrefused (.filterKey hmem (Bool.eq_false_iff.mpr hpath))

/-- **The checks refuse an operation for one of these reasons, and for no other.** -/
theorem checked_eq_error_iff {embedded : Except Error (List Vector32)} :
    (∃ err, op.checked c embedded = .error err) ↔ op.Refused c embedded := by
  cases embedded with
  | error err => exact ⟨fun _ => .embedding err, fun _ => ⟨err, rfl⟩⟩
  | ok vectors =>
    rw [checked_ok]
    constructor
    · rintro ⟨err, herr⟩
      refine refused_of_check_ne_ok fun hok => ?_
      rw [hok] at herr
      cases herr
    · intro hrefused
      cases hcheck : op.check c vectors with
      | error err => exact ⟨err, rfl⟩
      | ok u => exact absurd hcheck hrefused.check_ne_ok

end Operation

end RetrievalKit.Surreal
