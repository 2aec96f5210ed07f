import RetrievalKit.Proofs.Surreal.Checks
import RetrievalKit.Proofs.Wire.Outcomes

/-!
# The identifiers of added documents

Each document that is added has a statement of its own, and gets its identifier from the result of
that statement.  The results come from the database, so they need not fit the documents.

* `NamesKey` — the result of a statement names a record by a key;
* `Assigned` — the identifier that a document has after its statement;
* `exists_assignedId_eq_ok_iff`, `exists_assignedIds_eq_ok_iff` — when one document, and when all of
  them, have one;
* `Store.addDocuments_of_results` — so adding answers one identifier for each document, at its
  place, or an error.
-/

namespace RetrievalKit.Surreal

variable {documents : List Document} {d : Document} {results : List Json} {result : Json}

/-! ## One document -/

/-- The record that the result of a statement shows: the first row of an array, or the object
itself. -/
inductive ShowsRecord : Json → Json → Prop
  | row (record : Json) (others : List Json) : ShowsRecord (.arr (record :: others)) record
  | itself (fields : Dict) : ShowsRecord (.obj fields) (.obj fields)

/-- The result of a statement names a record by a key. -/
def NamesKey (result : Json) (key : String) : Prop :=
  ∃ record id, ShowsRecord result record ∧ record.get? "id" = some id ∧
    RecordId.key? id = some key

/-- The identifier of a document after its statement: the key that the result names, or its own if
there is none. -/
structure Assigned (d : Document) (result : Json) (id : String) : Prop where
  named : ∀ key, NamesKey result key → id = key
  own : (∀ key, ¬ NamesKey result key) → id = d.id

/-- The key that the result of a statement names, if any. -/
def namedKey? (result : Json) : Option String :=
  (match result with
    | .arr rows => rows.head?.bind (Json.get? "id")
    | v => v.get? "id").bind RecordId.key?

theorem namedKey?_eq_some_iff {key : String} :
    namedKey? result = some key ↔ NamesKey result key := by
  unfold namedKey?
  rw [Option.bind_eq_some_iff]
  constructor
  · rintro ⟨id, hid, hkey⟩
    cases result with
    | arr rows =>
      obtain ⟨record, hrecord, hid⟩ := Option.bind_eq_some_iff.mp hid
      obtain ⟨others, rfl⟩ := List.head?_eq_some_iff.mp hrecord
      exact ⟨record, id, .row record others, hid, hkey⟩
    | obj fields => exact ⟨.obj fields, id, .itself fields, hid, hkey⟩
    | _ => cases hid
  · rintro ⟨record, id, hshows, hid, hkey⟩
    cases hshows with
    | row record others => exact ⟨id, hid, hkey⟩
    | itself fields => exact ⟨id, hid, hkey⟩

theorem namedKey?_eq_none_iff : namedKey? result = none ↔ ∀ key, ¬ NamesKey result key := by
  rw [Option.eq_none_iff_forall_ne_some]
  exact forall_congr' fun key => not_congr namedKey?_eq_some_iff

theorem assignedId_eq (d : Document) (result : Json) :
    Store.assignedId d result =
      match namedKey? result with
      | some key => .ok key
      | none =>
        if d.hasId then .ok d.id
        else .error ⟨.parsing, "SurrealDB did not return an id for a created record"⟩ := rfl

theorem assigned_of_eq_ok {id : String} (h : Store.assignedId d result = .ok id) :
    Assigned d result id := by
  rw [assignedId_eq] at h
  cases hkey : namedKey? result with
  | some key =>
    rw [hkey] at h
    cases h
    refine ⟨fun key' hkey' => ?_, fun hnone => ?_⟩
    · exact Option.some.inj (hkey.symm.trans (namedKey?_eq_some_iff.mpr hkey'))
    · exact absurd (namedKey?_eq_some_iff.mp hkey) (hnone id)
  | none =>
    rw [hkey] at h
    refine ⟨fun key' hkey' => absurd hkey' (namedKey?_eq_none_iff.mp hkey key'), fun _ => ?_⟩
    dsimp only at h
    split at h
    · cases h
      rfl
    · cases h

/-- Only a document without an identifier depends on a key. -/
theorem exists_assignedId_eq_ok_iff :
    (∃ id, Store.assignedId d result = .ok id) ↔ (d.id = "" → ∃ key, NamesKey result key) := by
  rw [assignedId_eq]
  cases hkey : namedKey? result with
  | some key => exact iff_of_true ⟨key, rfl⟩ fun _ => ⟨key, namedKey?_eq_some_iff.mp hkey⟩
  | none =>
    have hnone : ¬ ∃ key, NamesKey result key :=
      not_exists.mpr (namedKey?_eq_none_iff.mp hkey)
    by_cases hid : d.id = ""
    · simp [Document.hasId, hid, hnone]
    · simp [Document.hasId, hid]

theorem assignedId_eq_error {err : Error} (h : Store.assignedId d result = .error err) :
    err.kind = .parsing := by
  rw [assignedId_eq] at h
  split at h
  · cases h
  · split at h
    · cases h
    · cases h
      rfl

/-! ## All documents -/

/-- All documents have identifiers if and only if there is one result for each, and each document
without an identifier has a result that names a key. -/
theorem exists_assignedIds_eq_ok_iff :
    (∃ ids, Store.assignedIds documents results = .ok ids) ↔
      results.length = documents.length ∧
        ∀ (i : Nat) (d : Document) (result : Json), documents[i]? = some d →
          results[i]? = some result → d.id = "" → ∃ key, NamesKey result key := by
  unfold Store.assignedIds
  by_cases hlength : results.length = documents.length
  · rw [if_pos hlength, exists_mapM_eq_ok_iff, and_iff_right hlength]
    constructor
    · intro h i d result hd hresult
      have hmem : (d, result) ∈ documents.zip results :=
        List.mem_of_getElem? (List.getElem?_zip_eq_some.mpr ⟨hd, hresult⟩)
      exact exists_assignedId_eq_ok_iff.mp (h (d, result) hmem)
    · rintro h ⟨d, result⟩ hmem
      obtain ⟨i, hi⟩ := List.mem_iff_getElem?.mp hmem
      obtain ⟨hd, hresult⟩ := List.getElem?_zip_eq_some.mp hi
      exact exists_assignedId_eq_ok_iff.mpr (h i d result hd hresult)
  · rw [if_neg hlength]
    exact ⟨nofun, fun h => absurd h.1 hlength⟩

/-- The identifiers are those of the documents, each at its place. -/
theorem assignedIds_eq_ok {ids : List String}
    (h : Store.assignedIds documents results = .ok ids) :
    ids.length = documents.length ∧
      ∀ (i : Nat) (d : Document) (result : Json) (id : String), documents[i]? = some d →
        results[i]? = some result → ids[i]? = some id → Assigned d result id := by
  unfold Store.assignedIds at h
  split at h
  · rename_i hlength
    obtain ⟨hcount, hitems⟩ := mapM_eq_ok h
    refine ⟨by rw [hcount, List.length_zip, hlength, Nat.min_self],
      fun i d result id hd hr hid => ?_⟩
    exact assigned_of_eq_ok
      (hitems i (d, result) id (List.getElem?_zip_eq_some.mpr ⟨hd, hr⟩) hid)
  · cases h

theorem assignedIds_eq_error {err : Error}
    (h : Store.assignedIds documents results = .error err) : err.kind = .parsing := by
  unfold Store.assignedIds at h
  split at h
  · obtain ⟨pair, -, hpair⟩ := mapM_eq_error h
    exact assignedId_eq_error hpair
  · cases h
    rfl

/-! ## Adding -/

section Adding

variable {σ : Type} {w w₁ : Session σ} {world : σ} {vectors : List Vector32} {reply : Reply}

/-- **Documents get the identifiers of their own results.**  For documents that pass the checks and
a reply whose statements all succeeded, whatever results it lists: adding answers if and only if
there is one result for each document, and each document without an identifier has a result that
names a key.  Then there is one identifier for each document, at its place: the key that its result
names, or else its own.  Otherwise it is a parsing error, so no shorter list is ever answered. -/
theorem Store.addDocuments_of_results (s : Store σ) (e : Embedder (Session σ))
    (hne : documents ≠ [])
    (hembed : (e.embedDocuments (documents.map (·.content))).run w = (.ok vectors, w₁))
    (hcount : vectors.length = documents.length)
    (hdimension : ∀ vector ∈ vectors, ∀ n, s.config.dimension = some n → vector.length = n)
    (hreply : (s.backend.send (callRequest s.config w₁.nextId
      (.add s.config (documents.zip vectors)))).run w₁.world = (.ok reply, world))
    (hresults : statementResults reply = .ok results) :
    let added := (s.addDocuments documents e).run w
    added.2 = ⟨world, w₁.nextId + 1⟩ ∧
    ((∃ ids, added.1 = .ok ids) ↔
      results.length = documents.length ∧
        ∀ (i : Nat) (d : Document) (result : Json), documents[i]? = some d →
          results[i]? = some result → d.id = "" → ∃ key, NamesKey result key) ∧
    (∀ ids, added.1 = .ok ids →
      ids.length = documents.length ∧
        ∀ (i : Nat) (d : Document) (result : Json) (id : String), documents[i]? = some d →
          results[i]? = some result → ids[i]? = some id → Assigned d result id) ∧
    ∀ err, added.1 = .error err → err.kind = .parsing := by
  have hcheck : (Operation.addDocuments documents).check s.config vectors = .ok () := by
    rw [Operation.check_addDocuments, if_pos hcount]
    exact forM_eq_ok_iff.mpr fun vector hmem =>
      checkDimension_eq_ok_iff.mpr (hdimension vector hmem)
  have hrun : (s.addDocuments documents e).run w =
      (assignedIds documents results, ⟨world, w₁.nextId + 1⟩) := by
    rw [addDocuments_eq, if_neg (mt List.isEmpty_iff.mp hne), Action.run_bind_of_ok hembed,
      run_call, hcheck, hreply]
    dsimp only
    rw [show (Except.ok reply >>= statementResults) = .ok results from hresults]
    rfl
  intro added
  have hadded : added = (assignedIds documents results, ⟨world, w₁.nextId + 1⟩) := hrun
  rw [hadded]
  exact ⟨rfl, exists_assignedIds_eq_ok_iff, fun ids hids => assignedIds_eq_ok hids,
    fun err herr => assignedIds_eq_error herr⟩

end Adding

/-- Three documents: the database names another key than the first one's own, none for the second,
and one for the third, which had none. -/
theorem addDocuments_of_results_mixed :
    let c := (Config.new "http://localhost:8000" "ns" "db" "documents").withDimension 1
    let documents : List Document := [⟨"own", "one", []⟩, ⟨"kept", "two", []⟩, ⟨"", "three", []⟩]
    let results := [Json.arr [.obj [("id", .str "documents:given")]], Json.arr [],
      Json.obj [("id", .str "documents:new")]]
    let reply : Reply := ⟨200, .obj [("result", .arr (results.map fun result =>
      .obj [("result", result), ("status", .str "OK")]))]⟩
    let b : Backend Unit := ⟨fun _ => pure reply, fun _ => pure []⟩
    let e : Embedder (Session Unit) := .ofFunction fun _ => [Single.zero]
    ∃ s ids, Store.ofConfig c b = .ok s ∧
      ((s.addDocuments documents e).run (.start ())).1 = .ok ids ∧ ids.length = 3 ∧
      ids[0]? = some "given" ∧ ids[1]? = some "kept" ∧ ids[2]? = some "new" := by
  intro c documents results reply b e
  have hvalid : c.validate = .ok () := by decide
  let s : Store Unit := ⟨c, hvalid, b⟩
  have hne : documents ≠ [] := nofun
  have hembed : (e.embedDocuments (documents.map (·.content))).run (.start ()) =
      (.ok [[Single.zero], [Single.zero], [Single.zero]], .start ()) := rfl
  have hdimension : ∀ vector ∈ [[Single.zero], [Single.zero], [Single.zero]],
      ∀ n, s.config.dimension = some n → vector.length = n := by
    intro vector hmem n hn
    cases hn
    simp only [List.mem_cons, List.not_mem_nil, or_false, or_self] at hmem
    rw [hmem]
    rfl
  have hreply : (s.backend.send (callRequest s.config 1
      (.add s.config (documents.zip [[Single.zero], [Single.zero], [Single.zero]])))).run () =
      (.ok reply, ()) := rfl
  have hresults : statementResults reply = .ok results := rfl
  obtain ⟨-, hanswers, hassigned, -⟩ :=
    s.addDocuments_of_results e hne hembed rfl hdimension hreply hresults
  have hcreated : NamesKey (.obj [("id", .str "documents:new")]) "new" :=
    ⟨_, _, .itself _, rfl, by decide⟩
  have hgiven : NamesKey (.arr [.obj [("id", .str "documents:given")]]) "given" :=
    ⟨_, _, .row _ _, rfl, by decide⟩
  have hempty : ∀ key, ¬ NamesKey (.arr []) key := by
    rintro key ⟨record, id, hshows, -⟩
    cases hshows
  have hnamed : ∀ (i : Nat) (d : Document) (result : Json), documents[i]? = some d →
      results[i]? = some result → d.id = "" → ∃ key, NamesKey result key := by
    -- Only the third document has no identifier.
    intro i d result hd hresult hid
    rcases i with _ | _ | _ | i
    · cases hd
      exact absurd hid (by decide)
    · cases hd
      exact absurd hid (by decide)
    · cases hresult
      exact ⟨"new", hcreated⟩
    · cases hd
  obtain ⟨ids, hids⟩ := hanswers.mpr ⟨rfl, hnamed⟩
  obtain ⟨hlength, hat⟩ := hassigned ids hids
  obtain ⟨first, second, third, rfl⟩ : ∃ first second third, ids = [first, second, third] := by
    match ids, hlength with
    | [first, second, third], _ => exact ⟨first, second, third, rfl⟩
  have hfirst : first = "given" := (hat 0 _ _ first rfl rfl rfl).named "given" hgiven
  have hsecond : second = "kept" := (hat 1 _ _ second rfl rfl rfl).own hempty
  have hthird : third = "new" := (hat 2 _ _ third rfl rfl rfl).named "new" hcreated
  refine ⟨s, _, Store.ofConfig_of_valid hvalid b, hids, rfl, ?_, ?_, ?_⟩
  · rw [hfirst]
    rfl
  · rw [hsecond]
    rfl
  · rw [hthird]
    rfl

end RetrievalKit.Surreal
