import RetrievalKit.Proofs.Surreal.Database
import RetrievalKit.Proofs.Surreal.RecordNames
import RetrievalKit.Proofs.Surreal.Statements

/-!
# Reading the replies of a database

What a store makes of the replies of an ideal database.

* `statementResults_successReply` — the results of all statements arrive in order;
* `assignedId_written`, `fetched?_rowOf` — a written record answers its key, and a row its document;
* `run_query_answered` — a command over a network that answers the next attempt.
-/

namespace RetrievalKit.Surreal

/-! ## Results -/

/-- The statement of a result succeeded, and has this result. -/
theorem success_result (result : Json) :
    let statement := Json.ofEntries [("status", .str "OK"), ("result", result)]
    ¬ Failed statement ∧ statement.field "result" = result := by
  intro statement
  have hnames : (["status", "result"] : List String).Nodup := by decide
  have hstatus : statement.get? "status" = some (.str "OK") :=
    Dict.get?_ofList_of_mem hnames List.mem_cons_self
  have hresult : statement.get? "result" = some result :=
    Dict.get?_ofList_of_mem hnames (List.mem_cons_of_mem _ List.mem_cons_self)
  refine ⟨?_, ?_⟩
  · rintro ⟨status, hfound, hne⟩
    rw [hstatus] at hfound
    cases hfound
    exact hne rfl
  · unfold Json.field
    rw [hresult]
    rfl

/-- The results of all statements arrive in order. -/
theorem statementResults_successReply (results : List Json) :
    statementResults (successReply results) = .ok results := by
  have hlists : Lists (successReply results) (results.map fun result =>
      Json.ofEntries [("status", .str "OK"), ("result", result)]) :=
    ⟨Nat.lt_of_sub_eq_succ rfl, rfl, rfl⟩
  refine statementResults_eq_ok_iff.mpr ⟨_, hlists, ?_, ?_⟩
  · intro statement hmem
    obtain ⟨result, -, rfl⟩ := List.mem_map.mp hmem
    exact (success_result result).1
  · have hfield : Json.field "result" ∘ (fun result =>
        Json.ofEntries [("status", .str "OK"), ("result", result)]) = id :=
      funext fun result => (success_result result).2
    rw [List.map_map, hfield, List.map_id]

/-- A written record answers its key, and the document gets it. -/
theorem assignedId_written {table : String} (h : isIdentifier table.toList = true)
    (d : Document) (key : String) : Store.assignedId d (written table key) = .ok key := by
  have hid : (Json.ofEntries [("id", .str (RecordId.angled table key))]).get? "id" =
      some (.str (RecordId.angled table key)) := rfl
  unfold Store.assignedId written
  simp only [List.head?_cons, Option.bind_some, hid, RecordId.key?_angled h key]

theorem assignedIds_cons {d : Document} {documents : List Document} {result : Json}
    {results : List Json} {id : String} {ids : List String}
    (hhead : Store.assignedId d result = .ok id)
    (htail : Store.assignedIds documents results = .ok ids) :
    Store.assignedIds (d :: documents) (result :: results) = .ok (id :: ids) := by
  unfold Store.assignedIds at htail ⊢
  split at htail
  · rename_i hlength
    have hlength' : (result :: results).length = (d :: documents).length :=
      congrArg (· + 1) hlength
    rw [if_pos hlength', List.zip_cons_cons, List.mapM_cons, htail]
    dsimp only
    rw [hhead]
    rfl
  · cases htail

/-- The row of a record answers its document, named by its key. -/
theorem fetched?_rowOf {table : String} (h : isIdentifier table.toList = true) (key : String)
    {content : Json} {text : String} {metadata : Dict}
    (htext : content.get? "text" = some (.str text))
    (hmetadata : content.get? "metadata" = some (.obj metadata)) :
    Store.fetched? (.arr [rowOf table key content]) = some ⟨key, text, metadata⟩ := by
  have hnames : (["id", "text", "metadata"] : List String).Nodup := by decide
  have hid : (rowOf table key content).get? "id" = some (.str (RecordId.angled table key)) :=
    Dict.get?_ofList_of_mem hnames List.mem_cons_self
  have hrowText : (rowOf table key content).get? "text" = some (content.field "text") :=
    Dict.get?_ofList_of_mem hnames (List.mem_cons_of_mem _ List.mem_cons_self)
  have hrowMetadata : (rowOf table key content).get? "metadata" =
      some (content.field "metadata") :=
    Dict.get?_ofList_of_mem hnames
      (List.mem_cons_of_mem _ (List.mem_cons_of_mem _ List.mem_cons_self))
  show some (Store.documentOfRow (rowOf table key content)) = _
  unfold Store.documentOfRow
  rw [hid, hrowText, hrowMetadata, Option.bind_some, RecordId.key?_angled h key]
  unfold Json.field
  rw [htext, hmetadata]
  rfl

/-! ## Commands on a network -/

section Network

variable {ω : Type}

/-- The session after a call whose statements were executed. -/
def Hosted.afterDeeds (keys : KeyChoice) (deeds : List Deed) (w : Session (Hosted ω)) :
    Session (Hosted ω) :=
  { w with
    world := { w.world with
      database := (performAll keys deeds w.world.database).2
      attempts := w.world.attempts + 1 }
    nextId := w.nextId + 1 }

/-- A command over a network that answers the next attempt is executed once, and its results
arrive. -/
theorem run_query_answered {c : Config} {keys : KeyChoice} {fates : Nat → Fate}
    {command : Command} {deeds : List Deed}
    (hdeeds : ∀ id, (callRequest c id command).deeds? = some deeds) (w : Session (Hosted ω))
    (hfate : fates w.world.attempts = .answered) :
    (query c (Hosted.backend keys fates) command).run w =
      (.ok (performAll keys deeds w.world.database).1, Hosted.afterDeeds keys deeds w) := by
  have htake : (takeId (σ := Hosted ω)).run w = (.ok w.nextId, { w with nextId := w.nextId + 1 }) :=
    rfl
  have hanswer : answer keys (callRequest c w.nextId command) w.world.database =
      (successReply (performAll keys deeds w.world.database).1,
        (performAll keys deeds w.world.database).2) := by
    unfold answer
    rw [hdeeds]
  have hsend : (Session.lift ((Hosted.backend (ω := ω) keys fates).send
      (callRequest c w.nextId command))).run { w with nextId := w.nextId + 1 } =
      (.ok (successReply (performAll keys deeds w.world.database).1),
        Hosted.afterDeeds keys deeds w) := by
    rw [Session.run_lift, Hosted.run_send, hfate, hanswer]
    rfl
  unfold query
  rw [Action.run_bind_of_ok htake, Action.run_bind_of_ok hsend, statementResults_successReply]
  rfl

end Network

end RetrievalKit.Surreal
