import RetrievalKit.Proofs.Json.Dict
import RetrievalKit.Surreal.Command

/-!
# The variables of a command

The names that a store gives to variables, and the values under them.

* `variableNames_nodup` — no two of the names are equal, whatever their numbers;
* `Filter.map_fst_bindings`, `Filter.bindings_nodup` — the variables of a filter;
* `Command.addEntries_nodup`, `idEntries_nodup`, `nearestEntries_nodup` — no command binds a
  variable twice;
* `Command.get?_add_content`, `get?_add_id`, `get?_idBindings`, `get?_nearest` — each variable of a
  command holds what was bound to it.
-/

namespace RetrievalKit.Surreal

/-! ## Names -/

theorem digits_inj {i j : Nat} (h : toString i = toString j) : i = j := by
  rw [Nat.toString_eq_ofList_toDigits, Nat.toString_eq_ofList_toDigits] at h
  have hdigits : Nat.toDigits 10 i = Nat.toDigits 10 j := by
    have h' := congrArg String.toList h
    rwa [String.toList_ofList, String.toList_ofList] at h'
  rw [← @Nat.ofDigitChars_ten_toDigits i, hdigits, Nat.ofDigitChars_ten_toDigits]

/-- Names with the same beginning differ in their numbers. -/
theorem numbered_inj {base : String} {i j : Nat} (h : base ++ toString i = base ++ toString j) :
    i = j := by
  have h' := congrArg String.toList h
  rw [String.toList_append, String.toList_append] at h'
  exact digits_inj (String.toList_inj.mp (List.append_cancel_left h'))

theorem idVariable_inj {i j : Nat} (h : idVariable i = idVariable j) : i = j := numbered_inj h

theorem contentVariable_inj {i j : Nat} (h : contentVariable i = contentVariable j) : i = j :=
  numbered_inj h

theorem valueName_inj {i j : Nat} (h : Filter.valueName i = Filter.valueName j) : i = j :=
  numbered_inj h

/-- The first character of a name, which tells the kinds of variables apart. -/
def initial (name : String) : Option Char := name.toList.head?

theorem initial_append {base name : String} {c : Char} (h : initial base = some c) :
    initial (base ++ name) = some c := by
  unfold initial at *
  rw [String.toList_append, List.head?_append, h]
  rfl

@[simp] theorem initial_idVariable (i : Nat) : initial (idVariable i) = some 'i' :=
  initial_append rfl

@[simp] theorem initial_contentVariable (i : Nat) : initial (contentVariable i) = some 'c' :=
  initial_append rfl

@[simp] theorem initial_valueName (i : Nat) : initial (Filter.valueName i) = some 'f' :=
  initial_append rfl

@[simp] theorem initial_tb : initial "tb" = some 't' := rfl

@[simp] theorem initial_vector : initial "vector" = some 'v' := rfl

@[simp] theorem initial_k : initial "k" = some 'k' := rfl

theorem ne_of_initial {a b : String} (h : initial a ≠ initial b) : a ≠ b := fun hab =>
  h (congrArg initial hab)

/-- The names of the variables of commands, as far as their numbers stay below `n`. -/
def variableNames (n : Nat) : List String :=
  ["tb", "vector", "k"] ++ (List.range n).map idVariable ++ (List.range n).map contentVariable ++
    (List.range n).map Filter.valueName

theorem nodup_map_range {f : Nat → String} (hf : ∀ {i j}, f i = f j → i = j) (n : Nat) :
    ((List.range n).map f).Nodup :=
  List.Pairwise.map f (fun _ _ hne heq => hne (hf heq)) List.nodup_range

/-- No two names of variables are equal. -/
theorem variableNames_nodup (n : Nat) : (variableNames n).Nodup := by
  unfold variableNames
  have hfixed : (["tb", "vector", "k"] : List String).Nodup := by decide
  refine List.nodup_append.mpr ⟨List.nodup_append.mpr ⟨List.nodup_append.mpr
    ⟨hfixed, nodup_map_range idVariable_inj n, ?_⟩, nodup_map_range contentVariable_inj n, ?_⟩,
    nodup_map_range valueName_inj n, ?_⟩
  · intro a ha b hb
    obtain ⟨i, -, rfl⟩ := List.mem_map.mp hb
    apply ne_of_initial
    rw [initial_idVariable]
    simp only [List.mem_cons, List.not_mem_nil, or_false] at ha
    rcases ha with rfl | rfl | rfl <;> simp
  · intro a ha b hb
    obtain ⟨i, -, rfl⟩ := List.mem_map.mp hb
    apply ne_of_initial
    rw [initial_contentVariable]
    simp only [List.mem_append, List.mem_cons, List.not_mem_nil, or_false, List.mem_map] at ha
    rcases ha with (rfl | rfl | rfl) | ⟨j, -, rfl⟩ <;> simp
  · intro a ha b hb
    obtain ⟨i, -, rfl⟩ := List.mem_map.mp hb
    apply ne_of_initial
    rw [initial_valueName]
    simp only [List.mem_append, List.mem_cons, List.not_mem_nil, or_false, List.mem_map] at ha
    rcases ha with ((rfl | rfl | rfl) | ⟨j, -, rfl⟩) | ⟨j, -, rfl⟩ <;> simp

/-! ## Values -/

/-- Entries numbered by their positions come in the order of their numbers. -/
theorem pairwise_zipIdx {α : Type} (items : List α) :
    items.zipIdx.Pairwise fun a b => a.2 < b.2 := by
  have h : (items.zipIdx.map Prod.snd).Pairwise (· < ·) := by
    rw [List.zipIdx_map_snd]
    exact List.pairwise_lt_range'
  exact List.pairwise_map.mp h

/-- The variables that adding documents binds, in the order in which they are bound. -/
def Command.addEntries (c : Config) (documents : List (Document × Vector32)) :
    List (String × Json) :=
  ("tb", .str c.table) :: documents.zipIdx.flatMap fun (d, i) => writeBindings d.1 d.2 i

/-- The variables that statements on given keys bind. -/
def Command.idEntries (c : Config) (ids : List String) : List (String × Json) :=
  ("tb", .str c.table) :: ids.zipIdx.map fun (id, i) => (idVariable i, .str id)

/-- The variables that a search binds. -/
def Command.nearestEntries (c : Config) (vector : Vector32) (k : Nat) (filter : Filter) :
    List (String × Json) :=
  [("tb", .str c.table)] ++ filter.bindings ++ [("vector", Vector32.toJson vector), ("k", .int k)]

theorem name_of_mem_writeBindings {d : Document} {vector : Vector32} {i : Nat}
    {e : String × Json} (h : e ∈ Command.writeBindings d vector i) :
    e.1 = contentVariable i ∨ e.1 = idVariable i := by
  unfold Command.writeBindings at h
  rcases List.mem_cons.mp h with rfl | h
  · exact Or.inl rfl
  · split at h
    · rw [List.mem_singleton.mp h]
      exact Or.inr rfl
    · cases h

theorem Command.addEntries_nodup (c : Config) (documents : List (Document × Vector32)) :
    ((addEntries c documents).map (·.1)).Nodup := by
  unfold addEntries
  refine List.pairwise_map.mpr (List.pairwise_cons.mpr ⟨?_, List.pairwise_flatMap.mpr ⟨?_, ?_⟩⟩)
  · intro e he
    obtain ⟨⟨d, i⟩, -, he⟩ := List.mem_flatMap.mp he
    apply ne_of_initial
    rcases name_of_mem_writeBindings he with h | h <;> simp [h]
  · intro ⟨d, i⟩ _
    have hne : contentVariable i ≠ idVariable i := ne_of_initial (by simp)
    unfold writeBindings
    dsimp only
    split <;> simp [hne]
  · refine (pairwise_zipIdx documents).imp ?_
    intro ⟨d, i⟩ ⟨d', j⟩ hlt e he e' he'
    have hij : i ≠ j := Nat.ne_of_lt hlt
    have hcross : ∀ m n, contentVariable m ≠ idVariable n := fun m n => ne_of_initial (by simp)
    rcases name_of_mem_writeBindings he with h | h <;>
      rcases name_of_mem_writeBindings he' with h' | h' <;> rw [h, h']
    · exact fun heq => hij (contentVariable_inj heq)
    · exact hcross i j
    · exact (hcross j i).symm
    · exact fun heq => hij (idVariable_inj heq)

theorem Command.idEntries_nodup (c : Config) (ids : List String) :
    ((idEntries c ids).map (·.1)).Nodup := by
  unfold idEntries
  refine List.pairwise_map.mpr (List.pairwise_cons.mpr ⟨?_, List.pairwise_map.mpr ?_⟩)
  · intro e he
    obtain ⟨⟨id, i⟩, -, rfl⟩ := List.mem_map.mp he
    exact ne_of_initial (by simp)
  · exact (pairwise_zipIdx ids).imp fun hlt heq => Nat.ne_of_lt hlt (idVariable_inj heq)

theorem Filter.bindings_nodup (f : Filter) : (f.bindings.map (·.1)).Nodup :=
  List.pairwise_map.mpr (List.pairwise_map.mpr ((pairwise_zipIdx f.conditions).imp
    fun hlt heq => Nat.ne_of_lt hlt (valueName_inj heq)))

theorem Filter.length_bindings (f : Filter) : f.bindings.length = f.size := by
  unfold bindings size
  rw [List.length_map, List.length_zipIdx]

theorem Filter.map_fst_bindings (f : Filter) :
    f.bindings.map (·.1) = (List.range f.size).map valueName := by
  unfold bindings size
  rw [List.map_map, List.range_eq_range', ← List.zipIdx_map_snd, List.map_map]
  rfl

theorem Filter.mem_bindings_of_getElem? {f : Filter} {i : Nat} {condition : String × Json}
    (h : f.conditions[i]? = some condition) : (valueName i, condition.2) ∈ f.bindings :=
  List.mem_map.mpr ⟨(condition, i), List.mem_zipIdx_iff_getElem?.mpr h, rfl⟩

theorem Command.nearestEntries_nodup (c : Config) (vector : Vector32) (k : Nat)
    (filter : Filter) : ((nearestEntries c vector k filter).map (·.1)).Nodup := by
  unfold nearestEntries
  have hvalues := List.pairwise_map.mp filter.bindings_nodup
  have hinitial : ∀ e ∈ filter.bindings, initial e.1 = some 'f' := by
    intro e he
    obtain ⟨⟨condition, i⟩, -, rfl⟩ := List.mem_map.mp he
    exact initial_valueName i
  refine List.pairwise_map.mpr (List.pairwise_append.mpr ⟨List.pairwise_append.mpr
    ⟨List.pairwise_singleton .., hvalues, ?_⟩, ?_, ?_⟩)
  · intro e he e' he'
    rw [List.mem_singleton.mp he]
    apply ne_of_initial
    rw [hinitial e' he']
    simp
  · simp
  · intro e he e' he'
    simp only [List.mem_append, List.mem_cons, List.not_mem_nil, or_false] at he he'
    apply ne_of_initial
    rcases he with rfl | he
    · rcases he' with rfl | rfl <;> simp
    · rw [hinitial e he]
      rcases he' with rfl | rfl <;> simp

/-! ## Lookups -/

theorem Command.get?_add_table (c : Config) (documents : List (Document × Vector32)) :
    Dict.get? "tb" (add c documents).bindings = some (.str c.table) :=
  Dict.get?_ofList_of_mem (addEntries_nodup c documents) List.mem_cons_self

/-- The content variable of a document holds its record. -/
theorem Command.get?_add_content (c : Config) {documents : List (Document × Vector32)} {i : Nat}
    {d : Document} {vector : Vector32} (h : documents[i]? = some (d, vector)) :
    Dict.get? (contentVariable i) (add c documents).bindings = some (record d vector) := by
  apply Dict.get?_ofList_of_mem (addEntries_nodup c documents)
  apply List.mem_cons_of_mem
  exact List.mem_flatMap.mpr ⟨((d, vector), i), List.mem_zipIdx_iff_getElem?.mpr h,
    List.mem_cons_self⟩

/-- Only a document with an identifier binds an identifier variable, and only its own. -/
theorem of_idVariable_mem_writeBindings {d : Document} {vector : Vector32} {i j : Nat}
    {e : String × Json} (h : e ∈ Command.writeBindings d vector j) (hname : e.1 = idVariable i) :
    i = j ∧ d.hasId = true := by
  unfold Command.writeBindings at h
  rcases List.mem_cons.mp h with rfl | h
  · exact absurd hname (ne_of_initial (by simp))
  · split at h
    · rename_i hid
      rw [List.mem_singleton.mp h] at hname
      exact ⟨(idVariable_inj hname).symm, hid⟩
    · cases h

/-- The identifier variable of a document holds its identifier, if it has one. -/
theorem Command.get?_add_id (c : Config) {documents : List (Document × Vector32)} {i : Nat}
    {d : Document} {vector : Vector32} (h : documents[i]? = some (d, vector)) :
    Dict.get? (idVariable i) (add c documents).bindings =
      if d.hasId then some (.str d.id) else none := by
  split
  · rename_i hid
    apply Dict.get?_ofList_of_mem (addEntries_nodup c documents)
    apply List.mem_cons_of_mem
    refine List.mem_flatMap.mpr ⟨((d, vector), i), List.mem_zipIdx_iff_getElem?.mpr h, ?_⟩
    show (idVariable i, Json.str d.id) ∈ writeBindings d vector i
    unfold writeBindings
    rw [if_pos hid]
    exact List.mem_cons_of_mem _ List.mem_cons_self
  · rename_i hid
    refine (Dict.get?_insertAll_of_not_mem [] ?_).trans rfl
    intro hmem
    obtain ⟨e, he, hname⟩ := List.mem_map.mp hmem
    rcases List.mem_cons.mp he with rfl | he
    · exact ne_of_initial (by simp) hname
    · obtain ⟨⟨⟨d', vector'⟩, j⟩, hj, he⟩ := List.mem_flatMap.mp he
      obtain ⟨rfl, hid'⟩ := of_idVariable_mem_writeBindings he hname
      have hget : documents[i]? = some (d', vector') := List.mem_zipIdx_iff_getElem?.mp hj
      rw [h] at hget
      cases hget
      exact hid hid'

theorem length_writeBindings (d : Document) (vector : Vector32) (i : Nat) :
    (Command.writeBindings d vector i).length = if d.hasId then 2 else 1 := by
  unfold Command.writeBindings
  split
  · rfl
  · rfl

theorem length_flatMap_writeBindings (documents : List (Document × Vector32)) (n : Nat) :
    ((documents.zipIdx n).flatMap fun (d, i) => Command.writeBindings d.1 d.2 i).length =
      documents.length + documents.countP (·.1.hasId) := by
  induction documents generalizing n with
  | nil => rfl
  | cons d documents ih =>
    rw [List.zipIdx_cons, List.flatMap_cons, List.length_append, ih, List.length_cons,
      List.countP_cons, length_writeBindings]
    split
    · omega
    · omega

theorem Command.length_add (c : Config) (documents : List (Document × Vector32)) :
    (add c documents).bindings.length =
      1 + documents.length + documents.countP (·.1.hasId) := by
  have hlength := length_flatMap_writeBindings documents 0
  refine (Dict.length_ofList (addEntries_nodup c documents)).trans ?_
  unfold addEntries
  rw [List.length_cons, hlength]
  omega

theorem Command.get?_idBindings_table (c : Config) (ids : List String) :
    Dict.get? "tb" (idBindings c ids) = some (.str c.table) :=
  Dict.get?_ofList_of_mem (idEntries_nodup c ids) List.mem_cons_self

theorem Command.get?_idBindings (c : Config) {ids : List String} {i : Nat} {id : String}
    (h : ids[i]? = some id) :
    Dict.get? (idVariable i) (idBindings c ids) = some (.str id) := by
  apply Dict.get?_ofList_of_mem (idEntries_nodup c ids)
  apply List.mem_cons_of_mem
  exact List.mem_map.mpr ⟨(id, i), List.mem_zipIdx_iff_getElem?.mpr h, rfl⟩

theorem Command.length_idBindings (c : Config) (ids : List String) :
    (idBindings c ids).length = 1 + ids.length := by
  refine (Dict.length_ofList (idEntries_nodup c ids)).trans ?_
  unfold idEntries
  rw [List.length_cons, List.length_map, List.length_zipIdx, Nat.add_comm]

theorem Command.get?_nearest (c : Config) (vector : Vector32) (k : Nat) (filter : Filter)
    {name : String} {value : Json} (h : (name, value) ∈ nearestEntries c vector k filter) :
    Dict.get? name (nearest c vector k filter).bindings = some value :=
  Dict.get?_ofList_of_mem (nearestEntries_nodup c vector k filter) h

theorem Command.get?_nearest_value (c : Config) (vector : Vector32) (k : Nat) {filter : Filter}
    {i : Nat} {condition : String × Json} (h : filter.conditions[i]? = some condition) :
    Dict.get? (Filter.valueName i) (nearest c vector k filter).bindings =
      some condition.2 := by
  apply get?_nearest
  apply List.mem_append_left
  apply List.mem_append_right
  exact Filter.mem_bindings_of_getElem? h

theorem Command.length_nearest (c : Config) (vector : Vector32) (k : Nat) (filter : Filter) :
    (nearest c vector k filter).bindings.length = 3 + filter.size := by
  refine (Dict.length_ofList (nearestEntries_nodup c vector k filter)).trans ?_
  unfold nearestEntries
  rw [List.length_append, List.length_append, filter.length_bindings]
  simp only [List.length_cons, List.length_nil]
  omega

end RetrievalKit.Surreal
