import RetrievalKit.Proofs.Surreal.Checks
import RetrievalKit.Proofs.Surreal.Replies

/-!
# A store as a finite map

What a caller may take a store for: a shelf with at most one document under each identifier.

* `Shelf.Puts`, `Shelf.Step`, `Shelf.Run` — what adding, deleting and getting mean for a shelf;
* `Holds` — a table of records holds the documents of a shelf;
* `holds_write`, `holds_delete`, `results_fetch` — one statement is one change of the shelf, or
  none;
* `Store.step_perform`, `Store.run_performEach` — every operation, and so every sequence of
  operations, over an ideal database does to the shelf what it should and answers accordingly.
-/

namespace RetrievalKit.Surreal

/-! ## Shelves -/

/-- Documents by identifier. -/
abbrev Shelf := String → Option Document

namespace Shelf

def empty : Shelf := fun _ => none

/-- Puts a document under its identifier, in place of an earlier one. -/
def put (d : Document) (shelf : Shelf) : Shelf := fun id => if id = d.id then some d else shelf id

/-- Takes away the document under an identifier, if there is one. -/
def remove (shelf : Shelf) (id : String) : Shelf := fun other =>
  if other = id then none else shelf other

/-- Documents are put on a shelf one after the other, under these identifiers: a document with an
identifier under its own, any other under a new one. -/
inductive Puts : Shelf → List Document → List String → Shelf → Prop where
  | nil (shelf : Shelf) : Puts shelf [] [] shelf
  | own {shelf shelf' : Shelf} {d : Document} {documents : List Document} {ids : List String}
    (hid : d.hasId = true) (rest : Puts (shelf.put d) documents ids shelf') :
    Puts shelf (d :: documents) (d.id :: ids) shelf'
  | new {shelf shelf' : Shelf} {d : Document} {documents : List Document} {ids : List String}
    {id : String} (hid : d.hasId = false) (hne : id ≠ "") (hnew : shelf id = none)
    (rest : Puts (shelf.put { d with id := id }) documents ids shelf') :
    Puts shelf (d :: documents) (id :: ids) shelf'

/-- What an operation does to a shelf, and what it answers. -/
inductive Step : Shelf → Operation → Answer → Shelf → Prop where
  | add {shelf shelf' : Shelf} {documents : List Document} {ids : List String}
    (h : Puts shelf documents ids shelf') : Step shelf (.addDocuments documents) (.ids ids) shelf'
  | delete (shelf : Shelf) (ids : List String) :
    Step shelf (.delete ids) .done (ids.foldl remove shelf)
  | get (shelf : Shelf) (ids : List String) :
    Step shelf (.getByIds ids) (.documents (ids.filterMap shelf)) shelf

/-- Operations one after the other. -/
inductive Run : Shelf → List Operation → List Answer → Shelf → Prop where
  | nil (shelf : Shelf) : Run shelf [] [] shelf
  | cons {shelf shelf' shelf'' : Shelf} {op : Operation} {ops : List Operation} {answer : Answer}
    {answers : List Answer} (step : Step shelf op answer shelf')
    (rest : Run shelf' ops answers shelf'') : Run shelf (op :: ops) (answer :: answers) shelf''

/-- Each document gets one identifier, and keeps its own. -/
theorem Puts.ids {shelf shelf' : Shelf} {documents : List Document} {ids : List String}
    (h : Puts shelf documents ids shelf') :
    ids.length = documents.length ∧
      ∀ (i : Nat) (d : Document), documents[i]? = some d → d.hasId = true →
        ids[i]? = some d.id := by
  induction h with
  | nil => exact ⟨rfl, fun i d hd => by cases hd⟩
  | own hid rest ih =>
    refine ⟨congrArg (· + 1) ih.1, fun i d hd hown => ?_⟩
    cases i with
    | zero => cases hd; rfl
    | succ i => exact ih.2 i d hd hown
  | new hid hne hnew rest ih =>
    refine ⟨congrArg (· + 1) ih.1, fun i d hd hown => ?_⟩
    cases i with
    | zero =>
      cases hd
      rw [hid] at hown
      cases hown
    | succ i => exact ih.2 i d hd hown

/-- Adding documents, at any place of a sequence of operations, answers one identifier for each
document, and its own if it has one. -/
theorem Run.ids {shelf shelf' : Shelf} {ops : List Operation} {answers : List Answer}
    (h : Run shelf ops answers shelf') {i : Nat} {documents : List Document}
    (hi : ops[i]? = some (.addDocuments documents)) :
    ∃ ids, answers[i]? = some (.ids ids) ∧ ids.length = documents.length ∧
      ∀ (j : Nat) (d : Document), documents[j]? = some d → d.hasId = true →
        ids[j]? = some d.id := by
  induction h generalizing i with
  | nil => cases hi
  | cons step rest ih =>
    cases i with
    | succ i => exact ih hi
    | zero =>
      cases hi
      cases step with
      | add hputs => exact ⟨_, rfl, hputs.ids⟩

end Shelf

/-! ## Tables -/

/-- A record shows a document: its text and its metadata. -/
structure Shows (content : Json) (d : Document) : Prop where
  text : content.get? "text" = some (.str d.content)
  metadata : content.get? "metadata" = some (.obj d.metadata)

/-- A table holds the documents of a shelf, each under its identifier, and nothing else. -/
structure Holds (table : Dict) (shelf : Shelf) : Prop where
  absent : ∀ id, shelf id = none → Dict.get? id table = none
  present : ∀ id d, shelf id = some d →
    d.id = id ∧ ∃ content, Dict.get? id table = some content ∧ Shows content d

theorem holds_empty : Holds [] Shelf.empty := by
  constructor
  · intro id _
    rfl
  · intro id d h
    cases h

variable {table : Dict} {shelf : Shelf}

theorem Holds.put (h : Holds table shelf) {content : Json} {d : Document}
    (hshows : Shows content d) : Holds (table.insert d.id content) (shelf.put d) := by
  constructor
  · intro id hid
    unfold Shelf.put at hid
    split at hid
    · cases hid
    · rename_i hne
      rw [Dict.get?_insert_of_ne (Ne.symm hne)]
      exact h.absent id hid
  · intro id d' hid
    unfold Shelf.put at hid
    split at hid
    · rename_i heq
      cases hid
      rw [heq]
      exact ⟨rfl, content, Dict.get?_insert_self d.id content table, hshows⟩
    · rename_i hne
      rw [Dict.get?_insert_of_ne (Ne.symm hne)]
      exact h.present id d' hid

theorem Holds.remove (h : Holds table shelf) (id : String) :
    Holds (table.erase id) (shelf.remove id) := by
  constructor
  · intro other hother
    unfold Shelf.remove at hother
    rw [Dict.get?_erase]
    split at hother
    · rename_i heq
      rw [if_pos heq.symm]
    · rename_i hne
      rw [if_neg (Ne.symm hne)]
      exact h.absent other hother
  · intro other d hother
    unfold Shelf.remove at hother
    rw [Dict.get?_erase]
    split at hother
    · cases hother
    · rename_i hne
      rw [if_neg (Ne.symm hne)]
      exact h.present other d hother

/-- A key that the table does not hold is free on the shelf. -/
theorem Holds.eq_none (h : Holds table shelf) {key : String} (hkey : key ∉ table.keys) :
    shelf key = none := by
  cases hshelf : shelf key with
  | none => rfl
  | some d =>
    obtain ⟨-, content, hget, -⟩ := h.present key d hshelf
    exact absurd ((Dict.mem_keys_iff key table).mpr ⟨content, hget⟩) hkey

theorem shows_record (d : Document) (vector : Vector32) (id : String) :
    Shows (Command.record d vector) { d with id := id } := by
  have hnames : (["text", "embedding", "metadata"] : List String).Nodup := by decide
  constructor
  · exact Dict.get?_ofList_of_mem hnames List.mem_cons_self
  · exact Dict.get?_ofList_of_mem hnames
      (List.mem_cons_of_mem _ (List.mem_cons_of_mem _ List.mem_cons_self))

/-! ## Statements on a shelf -/

section Statements

variable {keys : KeyChoice} {name : String} {db : Database}

/-- Writing documents puts them on the shelf, and each gets the identifier it is put under. -/
theorem holds_write (hname : isIdentifier name.toList = true)
    (documents : List (Document × Vector32)) (h : Holds (db.tables name) shelf) :
    let after := performAll keys (documents.map (writeDeed name)) db
    ∃ ids shelf', Shelf.Puts shelf (documents.map Prod.fst) ids shelf' ∧
      Holds (after.2.tables name) shelf' ∧ SameElsewhere name db after.2 ∧
      Store.assignedIds (documents.map Prod.fst) after.1 = .ok ids := by
  induction documents generalizing db shelf with
  | nil => exact ⟨[], shelf, .nil shelf, h, .refl name db, rfl⟩
  | cons document documents ih =>
    obtain ⟨d, vector⟩ := document
    obtain ⟨key, db', hperform, htable, helsewhere, hkey⟩ :=
      perform_writeDeed keys name d vector db
    have hput : Holds (db'.tables name) (shelf.put { d with id := key }) := by
      rw [htable]
      exact h.put (shows_record d vector key)
    obtain ⟨ids, shelf', hputs, hholds, hsame, hids⟩ := ih hput
    rw [List.map_cons, performAll_cons, List.map_cons, hperform]
    refine ⟨key :: ids, shelf', ?_, hholds, hsame.trans helsewhere,
      assignedIds_cons (assignedId_written hname d key) hids⟩
    rcases hkey with ⟨hid, rfl⟩ | ⟨hid, hne, hnew⟩
    · exact .own hid hputs
    -- The chosen key is free on the shelf because the table holds every document of it.
    · exact .new hid hne (h.eq_none hnew) hputs

theorem holds_delete (ids : List String) (h : Holds (db.tables name) shelf) :
    let after := performAll keys (ids.map (.delete name)) db
    Holds (after.2.tables name) (ids.foldl Shelf.remove shelf) ∧ SameElsewhere name db after.2 := by
  induction ids generalizing db shelf with
  | nil => exact ⟨h, .refl name db⟩
  | cons id ids ih =>
    have hremoved : Holds ((db.update name (Dict.erase id)).tables name) (shelf.remove id) := by
      rw [Database.tables_update]
      exact h.remove id
    obtain ⟨hholds, hsame⟩ := ih hremoved
    exact ⟨hholds, hsame.trans fun other hother => Database.tables_update_of_ne hother _ db⟩

/-- Reading records answers the documents that are on the shelf, in order. -/
theorem results_fetch (keys : KeyChoice) (hname : isIdentifier name.toList = true)
    (ids : List String) (h : Holds (db.tables name) shelf) :
    let after := performAll keys (ids.map (.fetch name)) db
    after.2 = db ∧ after.1.filterMap Store.fetched? = ids.filterMap shelf := by
  induction ids with
  | nil => exact ⟨rfl, rfl⟩
  | cons id ids ih =>
    obtain ⟨hdb, hresults⟩ := ih
    have hone : ∃ result, (Deed.fetch name id).perform keys db = (result, db) ∧
        Store.fetched? result = shelf id := by
      cases hshelf : shelf id with
      | none =>
        exact ⟨.arr [], perform_fetch_of_none keys (h.absent id hshelf), rfl⟩
      | some d =>
        obtain ⟨hid, content, hget, hshows⟩ := h.present id d hshelf
        refine ⟨.arr [rowOf name id content], perform_fetch_of_some keys hget, ?_⟩
        rw [fetched?_rowOf hname id hshows.text hshows.metadata, ← hid]
    obtain ⟨result, hperform, hfetched⟩ := hone
    rw [List.map_cons, performAll_cons, hperform]
    refine ⟨hdb, ?_⟩
    rw [List.filterMap_cons, List.filterMap_cons, hfetched, hresults]

end Statements

/-! ## Operations on a shelf -/

/-- The operations that add, delete and get documents by identifier. -/
def Operation.IsAccess : Operation → Prop
  | .addDocuments _ | .delete _ | .getByIds _ => True
  | _ => False

/-- Performs operations one after the other. -/
def Store.performEach {σ : Type} (s : Store σ) (e : Embedder (Session σ)) :
    List Operation → Action (Session σ) (List Answer)
  | [] => pure []
  | op :: ops => do
    let answer ← s.perform e op
    let answers ← s.performEach e ops
    pure (answer :: answers)

/-- The embedder answers one vector for each text, of the dimension of the settings. -/
def Serves {ω : Type} (c : Config) (e : Embedder ω) : Prop :=
  ∀ texts w, ∃ vectors w', (e.embedDocuments texts).run w = (.ok vectors, w') ∧
    vectors.length = texts.length ∧
    ∀ vector ∈ vectors, ∀ n, c.dimension = some n → vector.length = n

section Operations

variable {ω : Type} {c : Config} {keys : KeyChoice} {s : Store (Hosted ω)} {e : Embedder ω}

/-- A command of a store over an ideal database. -/
theorem Store.run_answered (hc : s.config = c)
    (hb : s.backend = Hosted.backend keys fun _ => .answered) {command : Command}
    {deeds : List Deed} (hdeeds : ∀ id, (callRequest c id command).deeds? = some deeds)
    (w : Session (Hosted ω)) :
    (s.run command).run w =
      (.ok (performAll keys deeds w.world.database).1, Hosted.afterDeeds keys deeds w) := by
  unfold Store.run
  rw [hc, hb]
  exact run_query_answered hdeeds w rfl

theorem Store.step_addDocuments (hvalid : c.validate = .ok ()) (hc : s.config = c)
    (hb : s.backend = Hosted.backend keys fun _ => .answered) (he : Serves c e)
    (documents : List Document) {w : Session (Hosted ω)} {shelf : Shelf}
    (h : Holds (w.world.database.tables c.table) shelf) :
    ∃ ids shelf' w', (s.addDocuments documents (Hosted.embedder e).inSession).run w =
        (.ok ids, w') ∧
      Shelf.Puts shelf documents ids shelf' ∧ Holds (w'.world.database.tables c.table) shelf' ∧
      SameElsewhere c.table w.world.database w'.world.database := by
  have hname := Config.isIdentifier_table hvalid
  cases documents with
  | nil => exact ⟨[], shelf, w, rfl, .nil shelf, h, .refl c.table w.world.database⟩
  | cons d rest =>
    let texts : List String := (d :: rest).map (·.content)
    obtain ⟨vectors, rest', hembed, hlength, hdimension⟩ := he texts w.world.rest
    rw [List.length_map] at hlength
    let w₁ : Session (Hosted ω) := { w with world := { w.world with rest := rest' } }
    have hembed' : ((Hosted.embedder e).inSession.embedDocuments texts).run w =
        (.ok vectors, w₁) := by
      show (((e.embedDocuments texts).run w.world.rest).1, { w with
        world := { w.world with rest := ((e.embedDocuments texts).run w.world.rest).2 } }) = _
      rw [hembed]
    have hfst : ((d :: rest).zip vectors).map Prod.fst = d :: rest :=
      List.map_fst_zip (Nat.le_of_eq hlength.symm)
    obtain ⟨ids, shelf', hputs, hholds, hsame, hids⟩ :=
      holds_write hname ((d :: rest).zip vectors) h
    rw [hfst] at hputs hids
    refine ⟨ids, shelf', Hosted.afterDeeds keys _ w₁, ?_, hputs, hholds, hsame⟩
    unfold Store.addDocuments
    have hcheck : vectors.forM (Store.checkDimension c) = .ok () := by simpa using hdimension
    rw [if_neg (by simp), Action.run_bind_of_ok hembed', if_pos hlength, hc,
      hcheck, Action.run_bind_of_ok (Action.run_liftExcept _ _),
      Action.run_bind_of_ok (Store.run_answered hc hb (deeds?_add c _) w₁)]
    exact congrArg (·, _) hids

/-- **An operation does to the shelf what it should, and answers accordingly.** -/
theorem Store.step_perform (hvalid : c.validate = .ok ()) (hc : s.config = c)
    (hb : s.backend = Hosted.backend keys fun _ => .answered) (he : Serves c e)
    {op : Operation} (hop : op.IsAccess) {w : Session (Hosted ω)} {shelf : Shelf}
    (h : Holds (w.world.database.tables c.table) shelf) :
    ∃ answer shelf' w', (s.perform (Hosted.embedder e).inSession op).run w = (.ok answer, w') ∧
      Shelf.Step shelf op answer shelf' ∧ Holds (w'.world.database.tables c.table) shelf' ∧
      SameElsewhere c.table w.world.database w'.world.database := by
  have hname := Config.isIdentifier_table hvalid
  cases op with
  | addDocuments documents =>
    obtain ⟨ids, shelf', w', hrun, hputs, hholds, hsame⟩ :=
      Store.step_addDocuments hvalid hc hb he documents h
    refine ⟨.ids ids, shelf', w', ?_, .add hputs, hholds, hsame⟩
    exact Action.run_bind_of_ok hrun _
  | delete ids =>
    cases ids with
    | nil => exact ⟨.done, shelf, w, rfl, .delete shelf [], h, .refl c.table w.world.database⟩
    | cons id ids =>
      let deeds : List Deed := (id :: ids).map (.delete c.table)
      have hdelete : (s.delete (id :: ids)).run w = (.ok (), Hosted.afterDeeds keys deeds w) := by
        unfold Store.delete
        rw [if_neg (by simp), hc]
        exact Action.run_bind_of_ok (Store.run_answered hc hb (deeds?_delete c _) w) _
      obtain ⟨hholds, hsame⟩ := holds_delete (id :: ids) h
      exact ⟨.done, _, Hosted.afterDeeds keys deeds w, Action.run_bind_of_ok hdelete _,
        .delete shelf (id :: ids), hholds, hsame⟩
  | getByIds ids =>
    cases ids with
    | nil => exact ⟨.documents [], shelf, w, rfl, .get shelf [], h, .refl c.table w.world.database⟩
    | cons id ids =>
      let deeds : List Deed := (id :: ids).map (.fetch c.table)
      obtain ⟨hdb, hresults⟩ := results_fetch keys hname (id :: ids) h
      have hget : (s.getByIds (id :: ids)).run w =
          (.ok ((id :: ids).filterMap shelf), Hosted.afterDeeds keys deeds w) := by
        unfold Store.getByIds
        rw [if_neg (by simp), hc, ← hresults]
        exact Action.run_bind_of_ok (Store.run_answered hc hb (deeds?_fetch c _) w) _
      have hsame : (Hosted.afterDeeds keys deeds w).world.database = w.world.database := hdb
      refine ⟨.documents _, shelf, Hosted.afterDeeds keys deeds w,
        Action.run_bind_of_ok hget _, .get shelf (id :: ids), ?_, ?_⟩
      · rw [hsame]
        exact h
      · rw [hsame]
        exact .refl c.table w.world.database
  | ensureIndex => exact hop.elim
  | deleteTable => exact hop.elim
  | similaritySearch text k => exact hop.elim
  | similaritySearchWithScore text k => exact hop.elim
  | similaritySearchWithFilter text k filter => exact hop.elim
  | similaritySearchByVector vector k => exact hop.elim

/-- **A store is a finite map from identifiers to documents.**  Over an ideal database every
sequence of operations that add, delete and get documents succeeds, answers what a shelf answers,
and leaves a table that holds the shelf; adding answers one identifier for each document, its own
if it has one. -/
theorem Store.run_performEach (hs : Store.ofConfig c (Hosted.backend keys fun _ => .answered) =
      .ok s) (he : Serves c e) {ops : List Operation} (hops : ∀ op ∈ ops, op.IsAccess)
    {w : Session (Hosted ω)} {shelf : Shelf}
    (h : Holds (w.world.database.tables c.table) shelf) :
    ∃ answers shelf' w',
      (s.performEach (Hosted.embedder e).inSession ops).run w = (.ok answers, w') ∧
      Shelf.Run shelf ops answers shelf' ∧ Holds (w'.world.database.tables c.table) shelf' ∧
      SameElsewhere c.table w.world.database w'.world.database ∧
      ∀ (i : Nat) (documents : List Document), ops[i]? = some (.addDocuments documents) →
        ∃ ids, answers[i]? = some (.ids ids) ∧ ids.length = documents.length ∧
          ∀ (j : Nat) (d : Document), documents[j]? = some d → d.hasId = true →
            ids[j]? = some d.id := by
  obtain ⟨hvalid, hc, hb⟩ := Store.ofConfig_eq_ok hs
  have hrun : ∃ answers shelf' w',
      (s.performEach (Hosted.embedder e).inSession ops).run w = (.ok answers, w') ∧
      Shelf.Run shelf ops answers shelf' ∧ Holds (w'.world.database.tables c.table) shelf' ∧
      SameElsewhere c.table w.world.database w'.world.database := by
    induction ops generalizing w shelf with
    | nil => exact ⟨[], shelf, w, rfl, .nil shelf, h, .refl c.table w.world.database⟩
    | cons op ops ih =>
      obtain ⟨answer, shelf₁, w₁, hperform, hstep, hholds, hsame⟩ :=
        Store.step_perform hvalid hc hb he (hops op List.mem_cons_self) h
      obtain ⟨answers, shelf₂, w₂, hperforms, hsteps, hholds', hsame'⟩ :=
        ih (fun op' h' => hops op' (List.mem_cons_of_mem op h')) hholds
      refine ⟨answer :: answers, shelf₂, w₂, ?_, .cons hstep hsteps, hholds', hsame'.trans hsame⟩
      unfold Store.performEach
      rw [Action.run_bind_of_ok hperform, Action.run_bind_of_ok hperforms]
      rfl
  obtain ⟨answers, shelf', w', hperform, hsteps, hholds, hsame⟩ := hrun
  exact ⟨answers, shelf', w', hperform, hsteps, hholds, hsame, fun i documents hi =>
    hsteps.ids hi⟩

end Operations

/-- Identifiers with brackets and colons, twice in a batch, beside a document without one. -/
theorem run_performEach_brackets :
    let c := (Config.new "http://localhost:8000" "ns" "db" "documents").withDimension 2
    let e : Embedder Unit := .ofFunction fun _ => [Single.ofCode false 0, Single.ofCode false 0]
    let ops : List Operation := [.addDocuments [.new "⟨a⟩:⟩" "one", .ofContent "two",
      .new "⟨a⟩:⟩" "three"], .getByIds ["⟨a⟩:⟩", "b"], .delete ["⟨a⟩:⟩"], .getByIds ["⟨a⟩:⟩"]]
    let w : Session (Hosted Unit) := .start ⟨.empty, 0, ()⟩
    ∃ s, Store.ofConfig c (Hosted.backend .joined fun _ => .answered) = .ok s ∧ Serves c e ∧
      (∀ op ∈ ops, op.IsAccess) ∧ Holds (w.world.database.tables c.table) Shelf.empty ∧
      ∃ answers shelf' w',
        (s.performEach (Hosted.embedder e).inSession ops).run w = (.ok answers, w') ∧
        Shelf.Run Shelf.empty ops answers shelf' := by
  intro c e ops w
  have hvalid : c.validate = .ok () := by decide
  have hs := Store.ofConfig_of_valid hvalid
    (Hosted.backend (ω := Unit) .joined fun _ => .answered)
  have he : Serves c e := by
    intro texts w
    refine ⟨_, w, rfl, List.length_map .., fun vector hvector n hn => ?_⟩
    obtain ⟨text, -, rfl⟩ := List.mem_map.mp hvector
    cases hn
    rfl
  have hops : ∀ op ∈ ops, op.IsAccess := by
    intro op hop
    simp only [ops, List.mem_cons, List.not_mem_nil, or_false] at hop
    rcases hop with rfl | rfl | rfl | rfl <;> trivial
  have htable : Holds (w.world.database.tables c.table) Shelf.empty := holds_empty
  obtain ⟨answers, shelf', w', hrun, hsteps, -⟩ := Store.run_performEach hs he hops htable
  exact ⟨_, hs, he, hops, htable, answers, shelf', w', hrun, hsteps⟩

end RetrievalKit.Surreal
