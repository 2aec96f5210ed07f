import RetrievalKit.Json.Basic

/-!
# Dictionaries as maps

What storing, removing and looking up say about each other.

* `mem_keys_iff`, `mem_keys_insert`, `length_insert_of_not_mem` — the keys of a dictionary;
* `get?_erase` — removing a key removes nothing else;
* `get?_ofList_of_mem`, `length_ofList` — a dictionary made of entries with different keys holds
  each of them, and nothing else;
* `ext_of_ascending` — two dictionaries in order that hold the same are the same.
-/

namespace RetrievalKit.Dict

/-- The keys are those under which there is a value. -/
theorem mem_keys_iff (key : String) (d : Dict) : key ∈ d.keys ↔ ∃ v, get? key d = some v := by
  induction d with
  | nil => simp [keys, get?]
  | cons f rest ih =>
    obtain ⟨k, v⟩ := f
    simp only [keys, get?, List.map_cons, List.mem_cons] at ih ⊢
    split
    · rename_i h
      exact iff_of_true (Or.inl h.symm) ⟨v, rfl⟩
    · rename_i h
      rw [← ih]
      exact or_iff_right (Ne.symm h)

theorem get?_eq_none_iff (key : String) (d : Dict) : get? key d = none ↔ key ∉ d.keys := by
  rw [mem_keys_iff, not_exists]
  constructor
  · intro h v hv
    rw [h] at hv
    cases hv
  · intro h
    cases hget : get? key d with
    | none => rfl
    | some v => exact absurd hget (h v)

theorem get?_append (key : String) (first second : Dict) :
    get? key (first ++ second) = (get? key first).or (get? key second) := by
  induction first with
  | nil => rfl
  | cons f first ih =>
    obtain ⟨k, v⟩ := f
    rw [List.cons_append, get?, get?, ih]
    split
    · rfl
    · rfl

theorem mem_keys_insert (key other : String) (value : Json) (d : Dict) :
    other ∈ (d.insert key value).keys ↔ other = key ∨ other ∈ d.keys := by
  rw [mem_keys_iff, mem_keys_iff, get?_insert]
  split
  · rename_i h
    exact iff_of_true ⟨value, rfl⟩ (Or.inl h.symm)
  · rename_i h
    exact (or_iff_right (Ne.symm h)).symm

theorem length_insert_of_not_mem {key : String} (value : Json) {d : Dict} (h : key ∉ d.keys) :
    (d.insert key value).length = d.length + 1 := by
  induction d with
  | nil => rfl
  | cons f rest ih =>
    obtain ⟨k, v⟩ := f
    simp only [keys, List.map_cons, List.mem_cons, not_or] at h
    unfold insert
    split
    · rfl
    · rw [if_neg (Ne.symm h.1), List.length_cons, ih h.2]
      rfl

/-- Removing a key removes nothing else. -/
theorem get?_erase (key other : String) (d : Dict) :
    get? other (d.erase key) = if key = other then none else get? other d := by
  induction d with
  | nil => simp [erase, get?]
  | cons f rest ih =>
    obtain ⟨k, v⟩ := f
    have hcons : erase key ((k, v) :: rest) =
        if k = key then erase key rest else (k, v) :: erase key rest := by
      by_cases hk : k = key
      · simp [erase, hk]
      · simp [erase, hk]
    rw [hcons]
    by_cases hk : k = key
    · rw [if_pos hk, ih, get?, hk]
      split
      · rfl
      · rfl
    · rw [if_neg hk, get?, get?, ih]
      split
      · rename_i heq
        rw [if_neg fun h => hk (heq.trans h.symm)]
      · rfl

/-! ## Equality -/

theorem get?_eq_none_of_lt {key : String} {d : Dict} (h : ∀ f ∈ d, key < f.1) :
    get? key d = none := by
  rw [get?_eq_none_iff]
  intro hmem
  obtain ⟨f, hf, rfl⟩ := List.mem_map.mp hmem
  exact String.lt_irrefl f.1 (h f hf)

theorem get?_eq_none_of_lt_head {key k : String} {v : Json} {d : Dict}
    (h : Ascending ((k, v) :: d)) (hlt : key < k) : get? key ((k, v) :: d) = none := by
  refine get?_eq_none_of_lt fun f hf => ?_
  rcases List.mem_cons.mp hf with rfl | hf
  · exact hlt
  · exact String.lt_trans hlt ((List.pairwise_cons.mp h).1 f hf)

/-- Dictionaries in order that hold the same under every key are the same. -/
theorem ext_of_ascending {d e : Dict} (hd : Ascending d) (he : Ascending e)
    (h : ∀ key, get? key d = get? key e) : d = e := by
  induction d generalizing e with
  | nil =>
    cases e with
    | nil => rfl
    | cons f e => simpa [get?] using h f.1
  | cons f d ih =>
    obtain ⟨k, v⟩ := f
    cases e with
    | nil => simpa [get?] using h k
    | cons g e =>
      obtain ⟨l, w⟩ := g
      have hk : get? k ((k, v) :: d) = some v := if_pos rfl
      have hl : get? l ((l, w) :: e) = some w := if_pos rfl
      have hnotlt : ¬ k < l := by
        intro hlt
        rw [h k, get?_eq_none_of_lt_head he hlt] at hk
        cases hk
      have hnotgt : ¬ l < k := by
        intro hlt
        rw [← h l, get?_eq_none_of_lt_head hd hlt] at hl
        cases hl
      obtain rfl : k = l := String.le_antisymm (String.not_lt.mp hnotgt) (String.not_lt.mp hnotlt)
      obtain rfl : v = w := Option.some.inj (hk.symm.trans ((h k).trans hl))
      obtain ⟨hkd, hd⟩ := List.pairwise_cons.mp hd
      obtain ⟨hke, he⟩ := List.pairwise_cons.mp he
      rw [ih hd he]
      intro key
      by_cases hkey : k = key
      · rw [← hkey, get?_eq_none_of_lt hkd, get?_eq_none_of_lt hke]
      · simpa [get?, hkey] using h key

theorem ascending_overlay {lower : Dict} (h : Ascending lower) (upper : Dict) :
    Ascending (overlay lower upper) := by
  induction upper with
  | nil => exact h
  | cons f upper ih => exact ascending_insert f.1 f.2 ih

/-! ## Dictionaries made of entries -/

theorem mem_keys_insertAll (other : String) (entries : List (String × Json)) (d : Dict) :
    other ∈ (d.insertAll entries).keys ↔ other ∈ entries.map (·.1) ∨ other ∈ d.keys := by
  induction entries generalizing d with
  | nil => simp [insertAll]
  | cons e rest ih =>
    show other ∈ ((d.insert e.1 e.2).insertAll rest).keys ↔ _
    rw [ih, mem_keys_insert, List.map_cons, List.mem_cons, or_left_comm, or_assoc]

theorem get?_insertAll_of_not_mem {key : String} {entries : List (String × Json)} (d : Dict)
    (h : key ∉ entries.map (·.1)) : get? key (d.insertAll entries) = get? key d := by
  induction entries generalizing d with
  | nil => rfl
  | cons e rest ih =>
    simp only [List.map_cons, List.mem_cons, not_or] at h
    show get? key ((d.insert e.1 e.2).insertAll rest) = _
    rw [ih _ h.2, get?_insert_of_ne (Ne.symm h.1)]

theorem get?_insertAll_of_mem {key : String} {value : Json} {entries : List (String × Json)}
    (d : Dict) (hnodup : (entries.map (·.1)).Nodup) (h : (key, value) ∈ entries) :
    get? key (d.insertAll entries) = some value := by
  induction entries generalizing d with
  | nil => cases h
  | cons e rest ih =>
    obtain ⟨hnew, hrest⟩ := List.nodup_cons.mp hnodup
    show get? key ((d.insert e.1 e.2).insertAll rest) = _
    rcases List.mem_cons.mp h with rfl | h
    · rw [get?_insertAll_of_not_mem _ hnew, get?_insert_self]
    · exact ih _ hrest h

/-- What two dictionaries hold under a key stays the same when both take the same entries. -/
theorem get?_insertAll_congr {key : String} {d e : Dict} (h : get? key d = get? key e)
    (entries : List (String × Json)) :
    get? key (d.insertAll entries) = get? key (e.insertAll entries) := by
  induction entries generalizing d e with
  | nil => exact h
  | cons entry rest ih =>
    refine ih ?_
    rw [get?_insert, get?_insert, h]

theorem insertAll_append (d : Dict) (first second : List (String × Json)) :
    d.insertAll (first ++ second) = (d.insertAll first).insertAll second :=
  List.foldl_append

/-- An entry may be stored after others that do not replace it. -/
theorem insertAll_insert {key : String} {d : Dict} {entries : List (String × Json)}
    (hd : Ascending d) (h : key ∉ entries.map (·.1)) (value : Json) :
    (d.insert key value).insertAll entries = (d.insertAll entries).insert key value := by
  refine ext_of_ascending (ascending_insertAll entries (ascending_insert key value hd))
    (ascending_insert key value (ascending_insertAll entries hd)) fun other => ?_
  by_cases hother : key = other
  · rw [← hother, get?_insertAll_of_not_mem _ h, get?_insert_self, get?_insert_self]
  · rw [get?_insert_of_ne hother]
    exact get?_insertAll_congr (get?_insert_of_ne hother value d) entries

theorem length_insertAll {entries : List (String × Json)} {d : Dict}
    (hnodup : (entries.map (·.1)).Nodup) (hnew : ∀ key ∈ entries.map (·.1), key ∉ d.keys) :
    (d.insertAll entries).length = d.length + entries.length := by
  induction entries generalizing d with
  | nil => rfl
  | cons e rest ih =>
    obtain ⟨hhead, hrest⟩ := List.nodup_cons.mp hnodup
    show ((d.insert e.1 e.2).insertAll rest).length = _
    rw [ih hrest, length_insert_of_not_mem _ (hnew e.1 (List.mem_map_of_mem List.mem_cons_self)),
      List.length_cons]
    · omega
    · intro key hkey hmem
      rcases (mem_keys_insert e.1 key e.2 d).mp hmem with rfl | hmem
      · exact hhead hkey
      · exact hnew key (List.mem_cons_of_mem _ hkey) hmem

theorem mem_keys_ofList (key : String) (entries : List (String × Json)) :
    key ∈ (ofList entries).keys ↔ key ∈ entries.map (·.1) := by
  rw [ofList, mem_keys_insertAll]
  exact or_iff_left List.not_mem_nil

/-- Entries with different keys are all held. -/
theorem get?_ofList_of_mem {key : String} {value : Json} {entries : List (String × Json)}
    (hnodup : (entries.map (·.1)).Nodup) (h : (key, value) ∈ entries) :
    get? key (ofList entries) = some value :=
  get?_insertAll_of_mem [] hnodup h

theorem length_ofList {entries : List (String × Json)} (hnodup : (entries.map (·.1)).Nodup) :
    (ofList entries).length = entries.length := by
  rw [ofList, length_insertAll hnodup fun _ _ => List.not_mem_nil]
  exact Nat.zero_add _

end RetrievalKit.Dict
