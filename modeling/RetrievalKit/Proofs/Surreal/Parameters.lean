import RetrievalKit.Proofs.Surreal.Query

/-!
# Parameters

The parameters in the text of each statement.  A checked table and a checked key cannot hold a
dollar sign, so the only parameters are those that the statement writes itself.

* `not_mem_identifier`, `not_mem_path` — what stands in a text is harmless;
* `parametersIn_clause` — the conditions of a filter have their values as parameters;
* `Statement.parametersOf_text` — the parameters in the text of a statement are the variables it
  refers to.
-/

namespace RetrievalKit.Surreal

/-! ## Checked names -/

theorem isIdentifierChar_dollar : isIdentifierChar '$' = false := by decide

theorem isIdentifierChar_of_isIdentifier {cs : List Char} (h : isIdentifier cs = true) :
    ∀ c ∈ cs, isIdentifierChar c = true := by
  cases cs with
  | nil => intro c hc; cases hc
  | cons c cs =>
    rw [isIdentifier, Bool.and_eq_true] at h
    obtain ⟨hstart, hrest⟩ := h
    intro d hd
    rcases List.mem_cons.mp hd with rfl | hd
    · unfold isIdentifierStart at hstart
      unfold isIdentifierChar Char.isAlphanum
      rw [Bool.or_eq_true] at hstart
      rcases hstart with h | h <;> simp [h]
    · exact List.all_eq_true.mp hrest d hd

theorem not_mem_identifier {c : Char} (hc : isIdentifierChar c = false) {cs : List Char}
    (h : isIdentifier cs = true) : c ∉ cs := by
  intro hmem
  rw [isIdentifierChar_of_isIdentifier h c hmem] at hc
  cases hc

theorem dollar_not_mem_identifier {cs : List Char} (h : isIdentifier cs = true) : '$' ∉ cs :=
  not_mem_identifier isIdentifierChar_dollar h

theorem mem_splitAtChar (sep : Char) {c : Char} {cs : List Char} (hc : c ∈ cs) (hne : c ≠ sep) :
    ∃ piece ∈ splitAtChar sep cs, c ∈ piece := by
  induction cs with
  | nil => cases hc
  | cons d ds ih =>
    unfold splitAtChar
    cases hsplit : splitAtChar sep ds with
    | nil => exact absurd hsplit (splitAtChar_ne_nil sep ds)
    | cons piece rest =>
      rw [hsplit] at ih
      dsimp only
      rcases List.mem_cons.mp hc with rfl | hc
      · rw [if_neg hne]
        exact ⟨c :: piece, List.mem_cons_self, List.mem_cons_self⟩
      · obtain ⟨p, hp, hcp⟩ := ih hc
        split
        · exact ⟨p, List.mem_cons_of_mem _ hp, hcp⟩
        · rcases List.mem_cons.mp hp with rfl | hp
          · exact ⟨d :: p, List.mem_cons_self, List.mem_cons_of_mem d hcp⟩
          · exact ⟨p, List.mem_cons_of_mem _ hp, hcp⟩

theorem not_mem_path {c : Char} (hc : isIdentifierChar c = false) (hdot : c ≠ '.')
    {cs : List Char} (h : isPath cs = true) : c ∉ cs := by
  intro hmem
  obtain ⟨piece, hpiece, hmem⟩ := mem_splitAtChar '.' hmem hdot
  exact not_mem_identifier hc (List.all_eq_true.mp h piece hpiece) hmem

theorem dollar_not_mem_path {cs : List Char} (h : isPath cs = true) : '$' ∉ cs :=
  not_mem_path isIdentifierChar_dollar (by decide) h

theorem dollar_not_mem_digits (n : Nat) : '$' ∉ (toString n).toList := by
  intro hmem
  have := isIdentifierChar_of_mem_digits hmem
  rw [isIdentifierChar_dollar] at this
  cases this

@[simp] theorem Filter.check_eq_ok_iff {f : Filter} :
    f.check = .ok () ↔ ∀ key ∈ f.keys, isPath key.toList = true := by
  unfold Filter.check
  split
  · rename_i key hfound
    refine ⟨nofun, fun h => ?_⟩
    have hpath := h key (List.mem_of_find?_eq_some hfound)
    have hnot := List.find?_some hfound
    simp [hpath] at hnot
  · rename_i hnone
    refine ⟨fun _ key hkey => ?_, fun _ => rfl⟩
    simpa using List.find?_eq_none.mp hnone key hkey

theorem Config.isIdentifier_table {c : Config} (h : c.validate = .ok ()) :
    isIdentifier c.table.toList = true := by
  unfold Config.validate at h
  by_cases htable : isIdentifier c.table.toList = true
  · exact htable
  · simp only [htable] at h
    cases h

/-! ## The parameters of a statement -/

/-- The names that stand in the text of a statement are checked. -/
def Statement.Checked : Statement → Prop
  | .defineIndex table .. | .removeTable table => isIdentifier table.toList = true
  | .nearest _ keys => ∀ key ∈ keys, isPath key.toList = true
  | _ => True

theorem parametersOf_defineIndex {table : String} (h : isIdentifier table.toList = true)
    (dimension : Nat) (distance : Distance) :
    parametersOf (tokens (Statement.defineIndex table dimension distance).text) = [] := by
  rw [parametersOf_tokens]
  apply parametersIn_of_no_dollar
  have htext : (Statement.defineIndex table dimension distance).text =
    "DEFINE INDEX IF NOT EXISTS " ++ table ++ "_embedding_idx ON TABLE " ++ table ++
      " FIELDS embedding MTREE DIMENSION " ++ toString dimension ++ " DIST " ++
      distance.indexKeyword ++ ";" := rfl
  have htable := dollar_not_mem_identifier h
  rw [htext]
  simp only [String.toList_append, List.mem_append, not_or]
  refine ⟨⟨⟨⟨⟨⟨⟨⟨?_, htable⟩, ?_⟩, htable⟩, ?_⟩, dollar_not_mem_digits dimension⟩, ?_⟩, ?_⟩, ?_⟩
  · decide
  · decide
  · decide
  · decide
  · cases distance <;> decide
  · decide

theorem parametersOf_removeTable {table : String} (h : isIdentifier table.toList = true) :
    parametersOf (tokens (Statement.removeTable table).text) = [] := by
  rw [parametersOf_tokens]
  apply parametersIn_of_no_dollar
  have htext : (Statement.removeTable table).text =
    "REMOVE TABLE IF EXISTS " ++ table ++ ";" := rfl
  rw [htext]
  simp only [String.toList_append, List.mem_append, not_or]
  exact ⟨⟨by decide, dollar_not_mem_identifier h⟩, by decide⟩

theorem isIdentifierChar_valueName (i : Nat) :
    ∀ c ∈ (Filter.valueName i).toList, isIdentifierChar c = true :=
  isIdentifierChar_numbered (by decide) i

/-- A condition has its value as its only parameter. -/
theorem parametersIn_condition {start : List Char} (hstart : '$' ∉ start) {key : String}
    (hkey : isPath key.toList = true) (i : Nat) {rest : List Char}
    (hrest : ∀ c ∈ rest.head?, isIdentifierChar c = false) :
    parametersIn (start ++ ((Filter.conditionText key i).toList ++ rest)) =
      Filter.valueName i :: parametersIn rest := by
  have htext : (Filter.conditionText key i).toList ++ rest = "metadata.".toList ++ key.toList ++
      " = ".toList ++ '$' :: ((Filter.valueName i).toList ++ rest) := by
    have hequals : " = $".toList = " = ".toList ++ ['$'] := rfl
    unfold Filter.conditionText
    simp only [String.toList_append, hequals, List.append_assoc, List.cons_append,
      List.nil_append]
  rw [htext, ← List.append_assoc]
  refine parametersIn_name ?_ (isIdentifierChar_valueName i) hrest
  simp only [List.mem_append, not_or]
  exact ⟨hstart, ⟨by decide, dollar_not_mem_path hkey⟩, by decide⟩

/-- The conditions that follow a first one. -/
def laterConditions (keys : List (String × Nat)) : List Char :=
  keys.flatMap fun (key, i) => " AND ".toList ++ (Filter.conditionText key i).toList

theorem toList_conditions (key : String) (i : Nat) (later : List (String × Nat)) :
    (" AND ".intercalate (((key, i) :: later).map fun (key, i) =>
      Filter.conditionText key i)).toList =
      (Filter.conditionText key i).toList ++ laterConditions later := by
  induction later generalizing key i with
  | nil =>
    rw [List.map_singleton, String.intercalate_singleton]
    exact (List.append_nil _).symm
  | cons next later ih =>
    have ih' := ih next.1 next.2
    rw [List.map_cons] at ih'
    rw [List.map_cons, List.map_cons, String.intercalate_cons_cons, String.toList_append,
      String.toList_append, ih', List.append_assoc, laterConditions, laterConditions,
      List.flatMap_cons, List.append_assoc]

theorem parametersIn_laterConditions {rest : List Char}
    (hrest : ∀ c ∈ rest.head?, isIdentifierChar c = false) (later : List (String × Nat))
    (hkeys : ∀ key ∈ later.map (·.1), isPath key.toList = true) :
    (∀ c ∈ (laterConditions later ++ rest).head?, isIdentifierChar c = false) ∧
      parametersIn (laterConditions later ++ rest) =
        later.map (fun entry => Filter.valueName entry.2) ++ parametersIn rest := by
  induction later with
  | nil => exact ⟨hrest, rfl⟩
  | cons entry later ih =>
    obtain ⟨hbreak, hnames⟩ := ih fun key hkey => hkeys key (List.mem_cons_of_mem _ hkey)
    have hcons : laterConditions (entry :: later) ++ rest = " AND ".toList ++
        ((Filter.conditionText entry.1 entry.2).toList ++ (laterConditions later ++ rest)) := by
      rw [laterConditions, List.flatMap_cons, ← laterConditions]
      simp only [List.append_assoc]
    rw [hcons]
    constructor
    · intro c hc
      cases hc
      decide
    · rw [parametersIn_condition (by decide) (hkeys entry.1 List.mem_cons_self) entry.2 hbreak,
        hnames]
      rfl

/-- The part of a search that filters has the values of its conditions as parameters, before
the parameter that follows it. -/
theorem parametersIn_clause {start between rest : List Char} {name : String}
    (hstart : '$' ∉ start) (hbetween : '$' ∉ between)
    (hbreak : ∀ c ∈ (between ++ '$' :: (name.toList ++ rest)).head?, isIdentifierChar c = false)
    (hname : ∀ c ∈ name.toList, isIdentifierChar c = true)
    (hrest : ∀ c ∈ rest.head?, isIdentifierChar c = false) {keys : List String}
    (hkeys : ∀ key ∈ keys, isPath key.toList = true) :
    parametersIn (start ++ ((Filter.clause keys).toList ++
      (between ++ '$' :: (name.toList ++ rest)))) =
      (List.range keys.length).map Filter.valueName ++ name :: parametersIn rest := by
  have hafter : parametersIn (between ++ '$' :: (name.toList ++ rest)) =
      name :: parametersIn rest := parametersIn_name hbetween hname hrest
  -- Without conditions the start runs on into what follows; the first condition stands after
  -- WHERE, the later ones after AND.
  cases keys with
  | nil =>
    have hempty : (Filter.clause []).toList = [] := rfl
    have hwhole : '$' ∉ start ++ between := by
      rw [List.mem_append, not_or]
      exact ⟨hstart, hbetween⟩
    rw [hempty, List.nil_append, ← List.append_assoc, parametersIn_name hwhole hname hrest]
    rfl
  | cons key keys =>
    have hclause : (Filter.clause (key :: keys)).toList = " WHERE ".toList ++
        ((Filter.conditionText key 0).toList ++ laterConditions (keys.zipIdx 1)) := by
      unfold Filter.clause
      rw [String.toList_append, List.zipIdx_cons, toList_conditions]
    have hwhere : '$' ∉ start ++ " WHERE ".toList := by
      rw [List.mem_append, not_or]
      exact ⟨hstart, by decide⟩
    have hnames : (keys.zipIdx 1).map (fun entry => Filter.valueName entry.2) =
        (List.range' 1 keys.length).map Filter.valueName := by
      rw [← List.zipIdx_map_snd, List.map_map]
      rfl
    obtain ⟨hbreak', hlater⟩ := parametersIn_laterConditions hbreak
      (keys.zipIdx 1) fun key' h => by
        rw [List.zipIdx_map_fst] at h
        exact hkeys key' (List.mem_cons_of_mem _ h)
    rw [hclause, List.append_assoc, List.append_assoc, ← List.append_assoc,
      parametersIn_condition hwhere (hkeys key List.mem_cons_self) 0 hbreak', hlater, hafter,
      hnames, List.length_cons, List.range_eq_range', List.range'_succ]
    rfl

theorem parametersOf_nearest (distance : Distance) {keys : List String}
    (hkeys : ∀ key ∈ keys, isPath key.toList = true) :
    parametersOf (tokens (Statement.nearest distance keys).text) =
      (Statement.nearest distance keys).valueNames := by
  have htext : (Statement.nearest distance keys).text =
    "SELECT id, text, metadata, " ++ distance.scoreFunction ++
      "(embedding, $vector) AS score FROM type::table($tb)" ++ Filter.clause keys ++
      " ORDER BY score " ++ Statement.direction distance ++ " LIMIT $k;" := rfl
  have hsplit : "(embedding, $vector) AS score FROM type::table($tb)".toList =
    "(embedding, ".toList ++ '$' :: ("vector".toList ++ (") AS score FROM type::table(".toList ++
      '$' :: ("tb".toList ++ [')']))) := rfl
  have hlimit : " LIMIT $k;".toList = " LIMIT ".toList ++ '$' :: ("k".toList ++ [';']) := rfl
  have hscore : '$' ∉ distance.scoreFunction.toList := by cases distance <;> decide
  have hdirection : '$' ∉ (Statement.direction distance).toList := by
    cases distance <;> decide
  have hlist : (Statement.nearest distance keys).text.toList =
      ("SELECT id, text, metadata, ".toList ++ distance.scoreFunction.toList ++
        "(embedding, ".toList) ++ '$' :: ("vector".toList ++
      (") AS score FROM type::table(".toList ++ '$' :: ("tb".toList ++
      ([')'] ++ ((Filter.clause keys).toList ++
      ((" ORDER BY score ".toList ++ (Statement.direction distance).toList ++
        " LIMIT ".toList) ++ '$' :: ("k".toList ++ [';']))))))) := by
    rw [htext]
    simp only [String.toList_append, hsplit, hlimit, List.append_assoc, List.cons_append]
  have hhead : '$' ∉ "SELECT id, text, metadata, ".toList ++ distance.scoreFunction.toList ++
      "(embedding, ".toList := by
    simp only [List.mem_append, not_or]
    exact ⟨⟨by decide, hscore⟩, by decide⟩
  have htail : '$' ∉ " ORDER BY score ".toList ++ (Statement.direction distance).toList ++
      " LIMIT ".toList := by
    simp only [List.mem_append, not_or]
    exact ⟨⟨by decide, hdirection⟩, by decide⟩
  have hvector := List.all_eq_true.mp (by decide : "vector".toList.all isIdentifierChar = true)
  have htable := List.all_eq_true.mp (by decide : "tb".toList.all isIdentifierChar = true)
  have hk := List.all_eq_true.mp (by decide : "k".toList.all isIdentifierChar = true)
  have hend : parametersIn [';'] = [] := rfl
  rw [parametersOf_tokens, hlist,
    parametersIn_name hhead hvector (by intro c hc; cases hc; decide),
    parametersIn_name (by decide) htable (by intro c hc; cases hc; decide),
    parametersIn_clause (by decide) htail (by intro c hc; cases hc; decide) hk
      (by intro c hc; cases hc; decide) hkeys, hend]
  rfl

/-- **The parameters in the text of a statement are the variables it refers to.** -/
theorem Statement.parametersOf_text {s : Statement} (h : s.Checked) :
    parametersOf (tokens s.text) = s.valueNames := by
  have hrecord : ∀ {s : Statement} {q : Query}, s.query? = some q →
      parametersOf (tokens s.text) = q.names := by
    intro s q hq
    unfold tokens
    rw [Statement.feed_text hq]
    show parametersOf (q.clause ++ [.mark ';'] ++ []) = _
    rw [List.append_nil, parametersOf_append, q.parametersOf_clause]
    exact List.append_nil _
  cases s with
  | defineIndex table dimension distance => exact parametersOf_defineIndex h dimension distance
  | removeTable table => exact parametersOf_removeTable h
  | nearest distance keys => exact parametersOf_nearest distance h
  | upsert i => exact hrecord (s := .upsert i) rfl
  | create i => exact hrecord (s := .create i) rfl
  | delete i => exact hrecord (s := .delete i) rfl
  | fetch i => exact hrecord (s := .fetch i) rfl

end RetrievalKit.Surreal
