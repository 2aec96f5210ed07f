import RetrievalKit.Proofs.Json.Integers
import RetrievalKit.Proofs.Surreal.Parameters
import RetrievalKit.Proofs.Wire.Action
import RetrievalKit.Surreal.RecordId

/-!
# Names of records

Reading the key of a record from its name undoes writing the name.  A checked table is an
identifier, so the first colon of a name in text is the one after the table, whatever the key has
in it.

* `IsQuoted`, `Spells` — a text with quotes around it, and the texts that stand for a key after the
  colon, said without the function that removes quotes;
* `unquote_eq_iff` — removing quotes inverts them: one pair goes, and no other text is changed;
* `key?_bare_eq_some_iff` — the names in text that have a given key;
* `key?_angled`, `key?_graved` — the quoted forms, whatever the characters of the key;
* `RecordId.key?_written` — each written form of a name has the key that it was written with, and
  the bare form has it if and only if the key has no quotes around it.
-/

namespace RetrievalKit.Surreal.RecordId

variable {table : String}

/-! ## Quotes -/

/-- A text that stands in a pair of quotes as a whole. -/
def IsQuoted (text : List Char) : Prop :=
  ∃ inner, text = '⟨' :: (inner ++ ['⟩']) ∨ text = grave :: (inner ++ [grave])

/-- The texts that stand for a key: the key in either pair of quotes, or as it is unless that would
read as a quoted one. -/
inductive Spells (key : List Char) : List Char → Prop
  | angled : Spells key ('⟨' :: (key ++ ['⟩']))
  | graved : Spells key (grave :: (key ++ [grave]))
  | bare (h : ¬ IsQuoted key) : Spells key key

theorem between?_cons (opening closing c : Char) (cs : List Char) :
    between? opening closing (c :: cs) =
      if c = opening ∧ cs.getLast? = some closing then some cs.dropLast else none := rfl

theorem between?_eq_some_iff {opening closing : Char} {text inner : List Char} :
    between? opening closing text = some inner ↔ text = opening :: (inner ++ [closing]) := by
  constructor
  · intro h
    cases text with
    | nil => cases h
    | cons c cs =>
      rw [between?_cons] at h
      split at h
      · rename_i hquotes
        obtain ⟨rfl, hlast⟩ := hquotes
        obtain ⟨front, rfl⟩ := List.getLast?_eq_some_iff.mp hlast
        rw [List.dropLast_concat, Option.some.injEq] at h
        rw [h]
      · cases h
  · rintro rfl
    rw [between?_cons, if_pos ⟨rfl, List.getLast?_concat⟩, List.dropLast_concat]

/-- Quotes stand around a text if one of the pairs has something between it. -/
theorem isQuoted_iff {text : List Char} : IsQuoted text ↔
    ((between? '⟨' '⟩' text).or (between? grave grave text)).isSome = true := by
  simp only [IsQuoted, Option.isSome_or, Bool.or_eq_true, Option.isSome_iff_exists,
    between?_eq_some_iff, exists_or]

instance (text : List Char) : Decidable (IsQuoted text) := decidable_of_iff' _ isQuoted_iff

theorem unquote_angled (key : List Char) : unquote ('⟨' :: (key ++ ['⟩'])) = key := by
  have hangles : between? '⟨' '⟩' ('⟨' :: (key ++ ['⟩'])) = some key :=
    between?_eq_some_iff.mpr rfl
  simp [unquote, hangles]

theorem unquote_graved (key : List Char) : unquote (grave :: (key ++ [grave])) = key := by
  -- A grave accent is no angle bracket, so the first pair does not match.
  have hangles : between? '⟨' '⟩' (grave :: (key ++ [grave])) = none := by
    rw [between?_cons, if_neg fun h => absurd h.1 (by decide)]
  have hgraves : between? grave grave (grave :: (key ++ [grave])) = some key :=
    between?_eq_some_iff.mpr rfl
  simp [unquote, hangles, hgraves]

theorem unquote_of_not_isQuoted {text : List Char} (h : ¬ IsQuoted text) : unquote text = text := by
  rw [isQuoted_iff, Bool.not_eq_true, Option.isSome_eq_false_iff, Option.isNone_iff_eq_none] at h
  unfold unquote
  rw [h]
  rfl

/-- **Removing quotes inverts spelling a key.** -/
theorem unquote_eq_iff {text key : List Char} : unquote text = key ↔ Spells key text := by
  constructor
  · rintro rfl
    by_cases h : IsQuoted text
    · obtain ⟨inner, rfl | rfl⟩ := h
      · rw [unquote_angled]
        exact .angled
      · rw [unquote_graved]
        exact .graved
    · rw [unquote_of_not_isQuoted h]
      exact .bare h
  · intro h
    cases h with
    | angled => exact unquote_angled key
    | graved => exact unquote_graved key
    | bare h => exact unquote_of_not_isQuoted h

/-- A text is its own key if and only if there are no quotes around it. -/
theorem unquote_eq_self_iff {text : List Char} : unquote text = text ↔ ¬ IsQuoted text := by
  refine ⟨fun hself hquoted => ?_, unquote_of_not_isQuoted⟩
  have hlonger : ∀ (opening closing : Char) (inner : List Char),
      inner ≠ opening :: (inner ++ [closing]) := by
    intro opening closing inner h
    have hlength := congrArg List.length h
    rw [List.length_cons, List.length_append] at hlength
    omega
  obtain ⟨inner, rfl | rfl⟩ := hquoted
  · rw [unquote_angled] at hself
    exact hlonger _ _ _ hself
  · rw [unquote_graved] at hself
    exact hlonger _ _ _ hself

/-! ## Names in text -/

theorem afterColon_append {table : List Char} (h : ':' ∉ table) (key : List Char) :
    afterColon (table ++ ':' :: key) = key := by
  have hdrop : (table ++ ':' :: key).dropWhile (· != ':') = ':' :: key := by
    rw [List.dropWhile_append_of_pos]
    · rfl
    · intro c hc
      have hne : c ≠ ':' := fun heq => h (heq ▸ hc)
      simpa using hne
  unfold afterColon
  rw [hdrop]

/-- **The names in text that have a key**: after the table and its colon stands what spells it. -/
theorem key?_bare_eq_some_iff (h : isIdentifier table.toList = true) {text key : String} :
    key? (.str (bare table text)) = some key ↔ Spells key.toList text.toList := by
  have hname : (bare table text).toList = table.toList ++ ':' :: text.toList := by
    unfold bare
    rw [String.toList_append, String.toList_append, List.append_assoc]
    rfl
  have hcolon : ':' ∉ table.toList := not_mem_identifier (by decide) h
  rw [key?, keyOfText, hname, afterColon_append hcolon, Option.some.injEq, ← unquote_eq_iff,
    ← String.toList_inj, String.toList_ofList]

/-- A name with the key between two quotes, if the quotes are a pair. -/
theorem key?_enclosed (h : isIdentifier table.toList = true) {opening closing : Char} {key : String}
    (hspells : Spells key.toList (opening :: (key.toList ++ [closing]))) :
    key? (.str (table ++ ":" ++ String.singleton opening ++ key ++ String.singleton closing)) =
      some key := by
  have hname : table ++ ":" ++ String.singleton opening ++ key ++ String.singleton closing =
      bare table (String.singleton opening ++ key ++ String.singleton closing) := by
    simp only [bare, String.append_assoc]
  have htext : (String.singleton opening ++ key ++ String.singleton closing).toList =
      opening :: (key.toList ++ [closing]) := by
    simp
  rw [hname, key?_bare_eq_some_iff h, htext]
  exact hspells

theorem key?_angled (h : isIdentifier table.toList = true) (key : String) :
    key? (.str (angled table key)) = some key := by
  have hopening : ":⟨" = ":" ++ String.singleton '⟨' := rfl
  have hclosing : "⟩" = String.singleton '⟩' := rfl
  rw [angled, hopening, hclosing, ← String.append_assoc]
  exact key?_enclosed h .angled

theorem key?_graved (h : isIdentifier table.toList = true) (key : String) :
    key? (.str (graved table key)) = some key :=
  key?_enclosed h .graved

/-! ## Names in an object -/

theorem key?_obj_str {fields : Dict} {key : String} (h : Dict.get? "id" fields = some (.str key)) :
    key? (.obj fields) = some key := by
  rw [key?, h]

theorem key?_obj_int {fields : Dict} {n : Int} (h : Dict.get? "id" fields = some (.int n))
    {key : String} : key? (.obj fields) = some key ↔ Json.IsDecimal n key.toList := by
  rw [key?, h]
  dsimp only
  rw [Option.some.injEq, ← String.toList_inj, Json.render, String.toList_ofList,
    Json.chars_int_eq_iff]

/-! ## All forms -/

/-- **Reading a name gives the key it was written with.**  In text one pair of quotes is removed,
never two, and the bare form names its key if and only if no quotes stand around it; in an object a
text is the key as it is, and an integer counts by its decimal text. -/
theorem key?_written {c : Config} (h : c.validate = .ok ()) (key : String) :
    key? (.str (angled c.table key)) = some key ∧
    key? (.str (graved c.table key)) = some key ∧
    (key? (.str (bare c.table key)) = some key ↔ ¬ IsQuoted key.toList) ∧
    (∀ fields, Dict.get? "id" fields = some (.str key) → key? (.obj fields) = some key) ∧
    ∀ fields n, Dict.get? "id" fields = some (.int n) →
      (key? (.obj fields) = some key ↔ Json.IsDecimal n key.toList) := by
  have htable : isIdentifier c.table.toList = true := Config.isIdentifier_table h
  refine ⟨key?_angled htable key, key?_graved htable key, ?_, fun _ hid => key?_obj_str hid,
    fun _ _ hid => key?_obj_int hid⟩
  rw [key?_bare_eq_some_iff htable, ← unquote_eq_iff, unquote_eq_self_iff]

/-- A key with a colon and quotes of its own loses neither. -/
theorem key?_written_quoted :
    let c := Config.new "http://localhost:8000" "ns" "db" "documents"
    let named : Dict := [("id", .str "⟨a:b⟩"), ("tb", .str "documents")]
    let numbered : Dict := [("id", .int (-70)), ("tb", .str "documents")]
    c.validate = .ok () ∧
    key? (.str "documents:⟨⟨a:b⟩⟩") = some "⟨a:b⟩" ∧
    key? (.str "documents:⟨a:b⟩") ≠ some "⟨a:b⟩" ∧
    ¬ IsQuoted "⟨a:b".toList ∧ key? (.str "documents:⟨a:b") = some "⟨a:b" ∧
    Dict.get? "id" named = some (.str "⟨a:b⟩") ∧ key? (.obj named) = some "⟨a:b⟩" ∧
    Dict.get? "id" numbered = some (.int (-70)) ∧ Json.IsDecimal (-70) "-70".toList ∧
    key? (.obj numbered) = some "-70" := by
  intro c named numbered
  have hvalid : c.validate = .ok () := by decide
  have hopen : ¬ IsQuoted "⟨a:b".toList := by decide
  have hdecimal : Json.IsDecimal (-70) "-70".toList :=
    .negative (by decide) (Json.digitsOf_toDigits 70)
  obtain ⟨hangled, -, hbare, hnamed, -⟩ := key?_written hvalid "⟨a:b⟩"
  obtain ⟨-, -, hplain, -, -⟩ := key?_written hvalid "⟨a:b"
  obtain ⟨-, -, -, -, hnumbered⟩ := key?_written hvalid "-70"
  exact ⟨hvalid, hangled, fun h => hbare.mp h (by decide), hopen, hplain.mpr hopen, rfl,
    hnamed named rfl, rfl, hdecimal, (hnumbered numbered (-70) rfl).mpr hdecimal⟩

end RetrievalKit.Surreal.RecordId
