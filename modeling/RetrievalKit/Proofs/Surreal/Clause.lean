import RetrievalKit.Proofs.Surreal.Paths
import RetrievalKit.Proofs.Surreal.Variables
import RetrievalKit.Surreal.Store

/-!
# The clause of a filter

What a rendered filter says, and that it says no less than the filter.  A key that is a path has
no blank and no dollar sign in it, so the text of a condition cannot be mistaken for two, nor the
end of one for the beginning of the next.

* `splitAtText` — a text taken apart at a separator, as found from the left on;
* `splitAtText_intercalate` — texts in which the separator cannot begin come apart as they were
  put together;
* `Filter.neverBegins_conditionText` — `" AND "` cannot begin in a condition on a path;
* `Filter.keys_of_clause` — the clause determines the keys;
* `Filter.Rendering` — what a statement gets from a filter;
* `Filter.render_exact` — rendering succeeds on paths only, adds the values and nothing else, and
  different filters do not render alike.
-/

namespace RetrievalKit.Surreal

/-! ## Taking a text apart -/

/-- The pieces of a text between the occurrences of a separator, found one after the other; `skip`
characters still belong to the occurrence found last. -/
def piecesFrom (sep : List Char) : Nat → List Char → List (List Char)
  | _, [] => [[]]
  | skip + 1, _ :: cs => piecesFrom sep skip cs
  | 0, c :: cs =>
    if sep <+: c :: cs then [] :: piecesFrom sep (sep.length - 1) cs
    else (piecesFrom sep 0 cs).modifyHead (c :: ·)

/-- The pieces of a text between the occurrences of a separator. -/
def splitAtText (sep text : String) : List String :=
  (piecesFrom sep.toList 0 text.toList).map String.ofList

/-- No occurrence of the separator begins in the piece, whatever follows the piece. -/
def NeverBegins (sep : List Char) : List Char → Prop
  | [] => True
  | c :: cs => (∀ rest, ¬ sep <+: c :: (cs ++ rest)) ∧ NeverBegins sep cs

theorem piecesFrom_skip (sep skipped rest : List Char) :
    piecesFrom sep skipped.length (skipped ++ rest) = piecesFrom sep 0 rest := by
  induction skipped with
  | nil => rfl
  | cons c skipped ih => exact ih

theorem piecesFrom_sep {sep : List Char} (hsep : sep ≠ []) (rest : List Char) :
    piecesFrom sep 0 (sep ++ rest) = [] :: piecesFrom sep 0 rest := by
  obtain ⟨s, ss, rfl⟩ := List.exists_cons_of_ne_nil hsep
  have hfound : s :: ss <+: s :: (ss ++ rest) := List.prefix_append (s :: ss) rest
  rw [List.cons_append, piecesFrom, if_pos hfound]
  exact congrArg ([] :: ·) (piecesFrom_skip (s :: ss) ss rest)

theorem piecesFrom_append {sep piece : List Char} (h : NeverBegins sep piece) (rest : List Char) :
    piecesFrom sep 0 (piece ++ rest) = (piecesFrom sep 0 rest).modifyHead (piece ++ ·) := by
  induction piece with
  | nil => exact (congrFun List.modifyHead_id _).symm
  | cons c cs ih =>
    rw [List.cons_append, piecesFrom, if_neg (h.1 rest), ih h.2, List.modifyHead_modifyHead]
    rfl

/-- **Texts in which the separator cannot begin come apart as they were put together.** -/
theorem splitAtText_intercalate {sep : String} (hsep : sep ≠ "") {pieces : List String}
    (hne : pieces ≠ []) (h : ∀ piece ∈ pieces, NeverBegins sep.toList piece.toList) :
    splitAtText sep (sep.intercalate pieces) = pieces := by
  have hsep' : sep.toList ≠ [] := by simpa using hsep
  unfold splitAtText
  obtain ⟨first, later, rfl⟩ := List.exists_cons_of_ne_nil hne
  induction later generalizing first with
  | nil =>
    have hend := piecesFrom_append (h first List.mem_cons_self) []
    rw [List.append_nil] at hend
    rw [String.intercalate_singleton, hend]
    simp [piecesFrom]
  | cons second later ih =>
    obtain ⟨hfirst, hrest⟩ := List.forall_mem_cons.mp h
    rw [String.intercalate_cons_cons, String.toList_append, String.toList_append,
      List.append_assoc, piecesFrom_append hfirst, piecesFrom_sep hsep', List.modifyHead_cons,
      List.map_cons, ih second (List.cons_ne_nil second later) hrest]
    simp

/-! ## Conditions -/

theorem neverBegins_append {start cs : List Char} (hstart : ' ' ∉ start)
    (h : NeverBegins " AND ".toList cs) : NeverBegins " AND ".toList (start ++ cs) := by
  induction start with
  | nil => exact h
  | cons c start ih =>
    rw [List.mem_cons, not_or] at hstart
    refine ⟨fun rest hprefix => ?_, ih hstart.2⟩
    exact hstart.1 (List.cons_prefix_cons.mp hprefix).1

theorem neverBegins_blank {c : Char} {cs : List Char} (hc : c ≠ 'A')
    (h : NeverBegins " AND ".toList (c :: cs)) : NeverBegins " AND ".toList (' ' :: c :: cs) := by
  refine ⟨fun rest hprefix => ?_, h⟩
  have hsecond := (List.cons_prefix_cons.mp hprefix).2
  exact hc (List.cons_prefix_cons.mp hsecond).1.symm

namespace Filter

theorem blank_not_mem_valueName (i : Nat) : ' ' ∉ (valueName i).toList := by
  intro hmem
  have hblank := isIdentifierChar_valueName i ' ' hmem
  revert hblank
  decide

/-- The blanks of a condition stand before `=` and before `$`, never before an `A`. -/
theorem neverBegins_conditionText {key : String} (h : isPath key.toList = true) (i : Nat) :
    NeverBegins " AND ".toList (conditionText key i).toList := by
  have htext : (conditionText key i).toList = ("metadata.".toList ++ key.toList) ++
      ' ' :: '=' :: ([] ++ ' ' :: '$' :: ((valueName i).toList ++ [])) := by
    unfold conditionText
    simp [String.toList_append]
  have hstart : ' ' ∉ "metadata.".toList ++ key.toList := by
    rw [List.mem_append, not_or]
    exact ⟨by decide, not_mem_path (by decide) (by decide) h⟩
  have hend : ' ' ∉ '$' :: (valueName i).toList := by
    rw [List.mem_cons, not_or]
    exact ⟨by decide, blank_not_mem_valueName i⟩
  have hequals : ' ' ∉ ['='] := by decide
  rw [htext]
  apply neverBegins_append hstart
  apply neverBegins_blank (by decide)
  apply neverBegins_append hequals
  apply neverBegins_blank (by decide)
  exact neverBegins_append hend trivial

theorem conditionText_inj {key key' : String} {i : Nat}
    (h : conditionText key i = conditionText key' i) : key = key' := by
  unfold conditionText at h
  simpa [← String.toList_inj] using h

/-- The texts of the conditions on these keys. -/
def conditionTexts (keys : List String) : List String :=
  keys.zipIdx.map fun (key, i) => conditionText key i

theorem conditionTexts_inj {keys keys' : List String}
    (h : conditionTexts keys = conditionTexts keys') : keys = keys' := by
  refine List.ext_getElem? fun i => ?_
  have hi := congrArg (fun texts => texts[i]?) h
  simp only [conditionTexts, List.getElem?_map, List.getElem?_zipIdx, Nat.zero_add,
    Option.map_map] at hi
  exact Option.map_injective (fun _ _ => conditionText_inj) hi

/-- Without its beginning the clause comes apart into the conditions. -/
theorem clause_eq_where {keys : List String} (hne : keys ≠ [])
    (hpaths : ∀ key ∈ keys, isPath key.toList = true) :
    ∃ conditions, clause keys = " WHERE " ++ conditions ∧
      splitAtText " AND " conditions = conditionTexts keys := by
  obtain ⟨key, rest, rfl⟩ := List.exists_cons_of_ne_nil hne
  refine ⟨" AND ".intercalate (conditionTexts (key :: rest)), rfl, ?_⟩
  refine splitAtText_intercalate (by decide) (List.cons_ne_nil _ _) fun text htext => ?_
  obtain ⟨⟨key', i⟩, hmem, rfl⟩ := List.mem_map.mp htext
  have hkey : key' ∈ key :: rest := (List.mem_zipIdx' hmem).2 ▸ List.getElem_mem _
  exact neverBegins_conditionText (hpaths key' hkey) i

theorem clause_eq_empty_iff {keys : List String} : clause keys = "" ↔ keys = [] := by
  cases keys with
  | nil => exact iff_of_true rfl rfl
  | cons key rest => simp [clause]

/-- The clause determines the keys. -/
theorem keys_of_clause {keys keys' : List String} (hpaths : ∀ key ∈ keys, isPath key.toList = true)
    (hpaths' : ∀ key ∈ keys', isPath key.toList = true) (h : clause keys = clause keys') :
    keys = keys' := by
  by_cases hne : keys = []
  · rw [clause_eq_empty_iff.mpr hne] at h
    rw [hne, clause_eq_empty_iff.mp h.symm]
  · have hne' : keys' ≠ [] := by
      intro hnil
      rw [clause_eq_empty_iff.mpr hnil] at h
      exact hne (clause_eq_empty_iff.mp h)
    obtain ⟨conditions, hconditions, hsplit⟩ := clause_eq_where hne hpaths
    obtain ⟨conditions', hconditions', hsplit'⟩ := clause_eq_where hne' hpaths'
    have hsame : conditions = conditions' := by
      rw [hconditions, hconditions'] at h
      simpa [← String.toList_inj] using h
    rw [hsame, hsplit'] at hsplit
    exact conditionTexts_inj hsplit.symm

/-! ## Rendering -/

theorem mem_names_iff {f : Filter} {name : String} :
    name ∈ f.bindings.map (·.1) ↔ ∃ i < f.size, name = valueName i := by
  rw [f.map_fst_bindings, List.mem_map]
  constructor
  · rintro ⟨i, hi, rfl⟩
    exact ⟨i, List.mem_range.mp hi, rfl⟩
  · rintro ⟨i, hi, rfl⟩
    exact ⟨i, List.mem_range.mpr hi, rfl⟩

/-- Whatever else was given, each value is found under its name. -/
theorem get?_insertAll_bindings {f : Filter} {i : Nat} {condition : String × Json}
    (h : f.conditions[i]? = some condition) (given : Dict) :
    Dict.get? (valueName i) (given.insertAll f.bindings) = some condition.2 :=
  Dict.get?_insertAll_of_mem given f.bindings_nodup (mem_bindings_of_getElem? h)

theorem render_eq_ok_iff {f : Filter} {given : Dict} {result : String × Dict} :
    f.render given = .ok result ↔ (∀ key ∈ f.keys, isPath key.toList = true) ∧
      result = (clause f.keys, given.insertAll f.bindings) := by
  rw [← check_eq_ok_iff]
  unfold render
  cases f.check with
  | ok => exact ⟨fun h => ⟨rfl, (Except.ok.inj h).symm⟩, fun h => congrArg Except.ok h.2.symm⟩
  | error e => exact ⟨nofun, nofun⟩

/-- A filter that is not rendered is one that a search refuses. -/
theorem render_eq_error_iff {f : Filter} {given : Dict} {e : Error} :
    f.render given = .error e ↔ f.check = .error e := by
  unfold render
  cases f.check with
  | ok => exact ⟨nofun, nofun⟩
  | error e' => exact ⟨fun h => congrArg Except.error (Except.error.inj h),
      fun h => congrArg Except.error (Except.error.inj h)⟩

theorem kind_of_check {f : Filter} {e : Error} (h : f.check = .error e) :
    e.kind = .validation := by
  unfold check at h
  split at h
  · cases h
    rfl
  · cases h

/-- Filters that render to the same clause and the same variables are equal, whatever they were
given. -/
theorem eq_of_render {f g : Filter} {given given' bound : Dict} {text : String}
    (hf : f.render given = .ok (text, bound)) (hg : g.render given' = .ok (text, bound)) :
    f = g := by
  obtain ⟨hpaths, hresult⟩ := render_eq_ok_iff.mp hf
  obtain ⟨hpaths', hresult'⟩ := render_eq_ok_iff.mp hg
  obtain ⟨htext, hbound⟩ := Prod.mk.inj hresult
  obtain ⟨htext', hbound'⟩ := Prod.mk.inj hresult'
  have hkeys : f.keys = g.keys := keys_of_clause hpaths hpaths' (htext.symm.trans htext')
  refine congrArg Filter.mk (List.ext_getElem? fun i => ?_)
  have hkey : (f.conditions[i]?).map (·.1) = (g.conditions[i]?).map (·.1) := by
    have hi := congrArg (fun keys => keys[i]?) hkeys
    simpa only [keys, List.getElem?_map] using hi
  cases hfi : f.conditions[i]? with
  | none =>
    rw [hfi] at hkey
    exact (Option.map_eq_none_iff.mp hkey.symm).symm
  | some condition =>
    rw [hfi] at hkey
    obtain ⟨condition', hgi, hfirst⟩ := Option.map_eq_some_iff.mp hkey.symm
    have hvalue := get?_insertAll_bindings hfi given
    have hvalue' := get?_insertAll_bindings hgi given'
    rw [← hbound] at hvalue
    rw [← hbound', hvalue] at hvalue'
    rw [hgi]
    exact congrArg some (Prod.ext hfirst.symm (Option.some.inj hvalue'))

/-- The statement of a search up to the clause of its filter. -/
def beforeClause (distance : Distance) : String :=
  "SELECT id, text, metadata, " ++ distance.scoreFunction ++
    "(embedding, $vector) AS score FROM type::table($tb)"

/-- The statement of a search from the end of the clause of its filter on. -/
def afterClause (distance : Distance) : String :=
  " ORDER BY score " ++ Statement.direction distance ++ " LIMIT $k;"

theorem text_nearest (c : Config) (vector : Vector32) (k : Nat) (f : Filter) :
    (Command.nearest c vector k f).text =
      beforeClause c.distance ++ clause f.keys ++ afterClause c.distance := by
  have hsingle : (Command.nearest c vector k f).text =
      (Statement.nearest c.distance f.keys).text := String.empty_append
  have hassoc : ∀ start order direction limit : String,
      start ++ order ++ direction ++ limit = start ++ (order ++ direction ++ limit) := by
    intro start order direction limit
    simp only [String.append_assoc]
  rw [hsingle]
  exact hassoc (beforeClause c.distance ++ clause f.keys) _ _ _

/-- What a filter becomes: a part of a statement, and the variables it was given with more of
them. -/
structure Rendering (f : Filter) (given : Dict) (text : String) (bound : Dict) : Prop where
  /-- The values are bound in order. -/
  value : ∀ i condition, f.conditions[i]? = some condition →
    Dict.get? (valueName i) bound = some condition.2
  /-- Nothing else is bound, and what was bound before stays. -/
  others : ∀ name, (∀ i < f.size, name ≠ valueName i) →
    Dict.get? name bound = Dict.get? name given
  /-- No variable is lost to one with the same name. -/
  gained : bound.length = given.length + f.size
  empty : text = "" ↔ f.conditions = []
  /-- The text comes apart into the conditions. -/
  conditions : f.conditions ≠ [] → ∃ rest, text = " WHERE " ++ rest ∧
    splitAtText " AND " rest = f.keys.zipIdx.map fun (key, i) => conditionText key i
  determines : ∀ (g : Filter) (given' : Dict), g.render given' = .ok (text, bound) → g = f
  /-- A search puts the text into its statement as it is, and adds its own variables. -/
  sent : ∀ (c : Config) (vector : Vector32) (k : Nat), given = Dict.ofList [("tb", .str c.table)] →
    (Command.nearest c vector k f).text =
      beforeClause c.distance ++ text ++ afterClause c.distance ∧
    (Command.nearest c vector k f).bindings =
      bound.insertAll [("vector", Vector32.toJson vector), ("k", .int k)]

theorem rendering_of_paths {f : Filter} {given : Dict} (hfree : ∀ i, valueName i ∉ given.keys)
    (hpaths : ∀ key ∈ f.keys, isPath key.toList = true) :
    Rendering f given (clause f.keys) (given.insertAll f.bindings) where
  value i condition h := get?_insertAll_bindings h given
  others name hname := Dict.get?_insertAll_of_not_mem given fun hmem => by
    obtain ⟨i, hi, heq⟩ := mem_names_iff.mp hmem
    exact hname i hi heq
  gained := by
    have hnew : ∀ key ∈ f.bindings.map (·.1), key ∉ given.keys := by
      intro key hkey
      obtain ⟨i, -, rfl⟩ := mem_names_iff.mp hkey
      exact hfree i
    rw [Dict.length_insertAll f.bindings_nodup hnew, f.length_bindings]
  empty := by
    rw [clause_eq_empty_iff]
    exact List.map_eq_nil_iff
  conditions hne := clause_eq_where (fun h => hne (List.map_eq_nil_iff.mp h)) hpaths
  determines g given' hg := eq_of_render hg (render_eq_ok_iff.mpr ⟨hpaths, rfl⟩)
  sent c vector k hgiven := by
    refine ⟨text_nearest c vector k f, ?_⟩
    rw [hgiven, Command.nearest, Dict.ofList, Dict.ofList, Dict.insertAll_append,
      Dict.insertAll_append]

/-- **Rendering is exact and can be undone.**  A filter is rendered if and only if all its keys
are paths, and is invalid otherwise.  What it is rendered to has its values in order and leaves
other variables alone, and no other filter is rendered to the same. -/
theorem render_exact (f : Filter) {given : Dict} (hfree : ∀ i, valueName i ∉ given.keys) :
    ((∃ result, f.render given = .ok result) ↔ ∀ key ∈ f.keys, key.toList ∈ paths) ∧
      (∀ e, f.render given = .error e → e.kind = .validation) ∧
      ∀ text bound, f.render given = .ok (text, bound) → Rendering f given text bound := by
  refine ⟨?_, fun e he => kind_of_check (render_eq_error_iff.mp he), fun text bound h => ?_⟩
  · simp only [mem_paths]
    constructor
    · rintro ⟨result, h⟩
      exact (render_eq_ok_iff.mp h).1
    · intro hpaths
      exact ⟨_, render_eq_ok_iff.mpr ⟨hpaths, rfl⟩⟩
  · obtain ⟨hpaths, hresult⟩ := render_eq_ok_iff.mp h
    obtain ⟨rfl, rfl⟩ := Prod.mk.inj hresult
    exact rendering_of_paths hfree hpaths

/-- A key with a dot in it, under which two values are asked for. -/
theorem render_exact_repeated :
    (∀ i, valueName i ∉ Dict.keys [("tb", .str "docs")]) ∧
      Rendering ⟨[("source.lang", .str "en"), ("source.lang", .int 1)]⟩ [("tb", .str "docs")]
        " WHERE metadata.source.lang = $f0 AND metadata.source.lang = $f1"
        [("f0", .str "en"), ("f1", .int 1), ("tb", .str "docs")] := by
  have hfree : ∀ i, valueName i ∉ Dict.keys [("tb", .str "docs")] := by
    intro i hmem
    exact ne_of_initial (by simp) (List.mem_singleton.mp hmem)
  have h := render_exact ⟨[("source.lang", .str "en"), ("source.lang", .int 1)]⟩ hfree
  exact ⟨hfree, h.2.2 _ _ rfl⟩

end Filter

end RetrievalKit.Surreal
