import RetrievalKit.Numeric.Double

/-!
# JSON values

`Json` keeps integers and floating-point numbers apart: `1` and `1.0` are different values, and
only the second is a `float`.  The fields of an object form a dictionary (`Dict`): a list of
pairs in ascending order of the keys, each key once.  `Dict.insert` keeps that order, and
`Dict.ofList` establishes it, the last of several entries with one key winning.
-/

namespace RetrievalKit

/-- A JSON value. -/
inductive Json where
  | null
  | bool (value : Bool)
  | int (value : Int)
  | float (value : Double)
  | str (value : String)
  | arr (items : List Json)
  | obj (fields : List (String × Json))
  deriving Inhabited

/-- The fields of an object, ascending by key and without repeated keys. -/
abbrev Dict := List (String × Json)

namespace Dict

/-- The value stored under a key. -/
def get? (key : String) : Dict → Option Json
  | [] => none
  | (k, v) :: rest => if k = key then some v else get? key rest

/-- Stores a value under a key, in place of an earlier one. -/
def insert (key : String) (value : Json) : Dict → Dict
  | [] => [(key, value)]
  | (k, v) :: rest =>
    if key < k then (key, value) :: (k, v) :: rest
    else if k = key then (key, value) :: rest
    else (k, v) :: insert key value rest

/-- Removes a key. -/
def erase (key : String) (fields : Dict) : Dict := fields.filter fun f => f.1 != key

def keys (fields : Dict) : List String := fields.map (·.1)

/-- Adds entries from left to right, later ones replacing earlier ones. -/
def insertAll (fields : Dict) (entries : List (String × Json)) : Dict :=
  entries.foldl (fun d e => d.insert e.1 e.2) fields

/-- The dictionary of a list of entries; of several with one key the last is kept. -/
def ofList (entries : List (String × Json)) : Dict := insertAll [] entries

/-- One dictionary laid over another: where both have a key, the upper one counts. -/
def overlay (lower upper : Dict) : Dict := upper.foldr (fun e d => d.insert e.1 e.2) lower

/-- The keys ascend, so that each occurs once. -/
def Ascending (fields : Dict) : Prop := fields.Pairwise fun a b => a.1 < b.1

theorem get?_insert_self (key : String) (value : Json) (fields : Dict) :
    get? key (insert key value fields) = some value := by
  induction fields with
  | nil => simp [insert, get?]
  | cons f rest ih =>
    obtain ⟨k, v⟩ := f
    simp only [insert]
    split
    · simp [get?]
    · split
      · simp [get?]
      · rename_i h; simp [get?, h, ih]

theorem get?_insert_of_ne {key other : String} (h : key ≠ other) (value : Json) (fields : Dict) :
    get? other (insert key value fields) = get? other fields := by
  induction fields with
  | nil => simp [insert, get?, h]
  | cons f rest ih =>
    obtain ⟨k, v⟩ := f
    simp only [insert]
    split
    · simp [get?, h]
    · split
      · rename_i hk; subst hk; simp [get?, h]
      · simp [get?, ih]

theorem get?_insert (key other : String) (value : Json) (fields : Dict) :
    get? other (insert key value fields) =
      if key = other then some value else get? other fields := by
  split
  · rename_i h
    rw [← h, get?_insert_self]
  · rename_i h
    exact get?_insert_of_ne h value fields

theorem get?_overlay (key : String) (lower upper : Dict) :
    get? key (overlay lower upper) = (get? key upper).or (get? key lower) := by
  induction upper with
  | nil => rfl
  | cons f rest ih =>
    obtain ⟨k, v⟩ := f
    simp only [overlay, List.foldr_cons, get?_insert, get?] at ih ⊢
    split
    · rfl
    · exact ih

/-! ## Order of the keys -/

theorem insert_keys (key : String) (value : Json) (fields : Dict) (e : String × Json)
    (h : e ∈ insert key value fields) : e.1 = key ∨ e ∈ fields := by
  induction fields with
  | nil =>
    simp only [insert, List.mem_singleton] at h
    exact Or.inl (by rw [h])
  | cons f rest ih =>
    obtain ⟨k, v⟩ := f
    simp only [insert] at h
    split at h
    · rcases List.mem_cons.1 h with rfl | h
      · exact Or.inl rfl
      · exact Or.inr h
    · split at h
      · rcases List.mem_cons.1 h with rfl | h
        · exact Or.inl rfl
        · exact Or.inr (List.mem_cons_of_mem _ h)
      · rcases List.mem_cons.1 h with rfl | h
        · exact Or.inr List.mem_cons_self
        · exact (ih h).imp id (List.mem_cons_of_mem _)

/-- Storing a value keeps the keys in order. -/
theorem ascending_insert (key : String) (value : Json) {fields : Dict} (h : Ascending fields) :
    Ascending (insert key value fields) := by
  induction fields with
  | nil => exact List.pairwise_singleton _ _
  | cons f rest ih =>
    obtain ⟨k, v⟩ := f
    obtain ⟨hk, hr⟩ := List.pairwise_cons.1 h
    simp only [insert]
    split
    · rename_i hlt
      refine List.pairwise_cons.2 ⟨fun e he => ?_, h⟩
      rcases List.mem_cons.1 he with rfl | he
      · exact hlt
      · exact String.lt_trans hlt (hk e he)
    · rename_i hlt
      split
      · rename_i heq
        subst heq
        exact List.pairwise_cons.2 ⟨hk, hr⟩
      · rename_i hne
        refine List.pairwise_cons.2 ⟨fun e he => ?_, ih hr⟩
        rcases insert_keys key value rest e he with h | h
        · rw [h]
          exact Decidable.byContradiction fun hge => hne
            (String.le_antisymm (String.not_lt.1 hlt) (String.not_lt.1 hge))
        · exact hk e h

theorem ascending_insertAll (entries : List (String × Json)) {fields : Dict}
    (h : Ascending fields) : Ascending (insertAll fields entries) := by
  induction entries generalizing fields with
  | nil => exact h
  | cons e rest ih => exact ih (ascending_insert e.1 e.2 h)

/-- A dictionary made from a list of entries has its keys in order. -/
theorem ascending_ofList (entries : List (String × Json)) : Ascending (ofList entries) :=
  ascending_insertAll entries List.Pairwise.nil

end Dict

namespace Json

/-- An object from entries in any order. -/
def ofEntries (entries : List (String × Json)) : Json := .obj (Dict.ofList entries)

/-- The value under a key of an object. -/
def get? (key : String) : Json → Option Json
  | .obj fields => Dict.get? key fields
  | _ => none

/-- The value under a key, or `null` when there is none. -/
def field (key : String) (v : Json) : Json := (v.get? key).getD .null

def asString? : Json → Option String
  | .str s => some s
  | _ => none

theorem asString?_eq_some_iff {v : Json} {s : String} : v.asString? = some s ↔ v = .str s := by
  cases v <;> simp [asString?]

def asBool? : Json → Option Bool
  | .bool b => some b
  | _ => none

theorem asBool?_eq_some_iff {v : Json} {b : Bool} : v.asBool? = some b ↔ v = .bool b := by
  cases v <;> simp [asBool?]

def asArray? : Json → Option (List Json)
  | .arr items => some items
  | _ => none

theorem asArray?_eq_some_iff {v : Json} {items : List Json} :
    v.asArray? = some items ↔ v = .arr items := by
  cases v <;> simp [asArray?]

def asObject? : Json → Option Dict
  | .obj fields => some fields
  | _ => none

theorem asObject?_eq_some_iff {v : Json} {fields : Dict} :
    v.asObject? = some fields ↔ v = .obj fields := by
  cases v <;> simp [asObject?]

/-- A natural number written as an integer; `1.0` is not one. -/
def asNat? : Json → Option Nat
  | .int n => if 0 ≤ n then some n.toNat else none
  | _ => none

theorem asNat?_eq_some_iff {v : Json} {n : Nat} : v.asNat? = some n ↔ v = .int n := by
  cases v with
  | int i =>
    simp only [asNat?, int.injEq]
    split
    · rw [Option.some.injEq]
      omega
    · exact ⟨nofun, fun h => absurd h (by omega)⟩
  | _ => simp [asNat?]

/-- Any number, rounded to double precision if it is an integer. -/
def asDouble? : Json → Option Double
  | .int n => some (Double.ofInt n)
  | .float d => some d
  | _ => none

/-- What is read from the value under a key, if `null` reads as nothing. -/
theorem read_field {α : Type} (read : Json → Option α) (hnull : read .null = none) (key : String)
    (v : Json) : read (v.field key) = (v.get? key).bind read := by
  unfold field
  cases v.get? key with
  | none => exact hnull
  | some _ => rfl

theorem asString?_field_eq_some_iff {key : String} {v : Json} {s : String} :
    (v.field key).asString? = some s ↔ v.get? key = some (.str s) := by
  rw [read_field asString? rfl, Option.bind_eq_some_iff]
  simp only [asString?_eq_some_iff, exists_eq_right]

theorem asArray?_field_eq_some_iff {key : String} {v : Json} {items : List Json} :
    (v.field key).asArray? = some items ↔ v.get? key = some (.arr items) := by
  rw [read_field asArray? rfl, Option.bind_eq_some_iff]
  simp only [asArray?_eq_some_iff, exists_eq_right]

theorem asNat?_field_eq_some_iff {key : String} {v : Json} {n : Nat} :
    (v.field key).asNat? = some n ↔ v.get? key = some (.int n) := by
  rw [read_field asNat? rfl, Option.bind_eq_some_iff]
  simp only [asNat?_eq_some_iff, exists_eq_right]

/-- An array of strings. -/
def ofStrings (items : List String) : Json := .arr (items.map .str)

/-! ## Equality of values

Two values are the same if they differ at most in the sign of zeros. -/

mutual

/-- Equality up to the sign of floating-point zeros. -/
def sameValue : Json → Json → Bool
  | .null, .null => true
  | .bool a, .bool b => a == b
  | .int a, .int b => a == b
  | .float a, .float b => a.sameValue b
  | .str a, .str b => a == b
  | .arr a, .arr b => sameItems a b
  | .obj a, .obj b => sameFields a b
  | _, _ => false

/-- Item by item. -/
def sameItems : List Json → List Json → Bool
  | [], [] => true
  | a :: as, b :: bs => sameValue a b && sameItems as bs
  | _, _ => false

/-- Field by field, in the order of the keys. -/
def sameFields : List (String × Json) → List (String × Json) → Bool
  | [], [] => true
  | (k, a) :: as, (l, b) :: bs => k == l && sameValue a b && sameFields as bs
  | _, _ => false

end

end Json

end RetrievalKit
