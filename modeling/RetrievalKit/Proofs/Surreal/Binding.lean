import RetrievalKit.Proofs.Surreal.Sending
import RetrievalKit.Proofs.Surreal.Parameters
import RetrievalKit.Proofs.Surreal.Variables

/-!
# Texts and variables of requests

What the text of a request depends on, and what the variables of the request hold.

* `Operation.shape` — what the text of a request may depend on beside the settings;
* `Operation.Binds` — which variable holds what, and which statement refers to it;
* `Store.requests_bind` — two operations of one shape send the same text, whose parameters are
  the variables of the request, and these hold the arguments of the operation.
-/

namespace RetrievalKit.Surreal

/-! ## Shapes -/

/-- What the text of a request may depend on beside the settings: which documents have an
identifier, the keys of a filter, and how many identifiers there are. -/
inductive Shape where
  | defineIndex
  | removeTable
  | add (withId : List Bool)
  | search (keys : List String)
  | delete (count : Nat)
  | fetch (count : Nat)
  deriving DecidableEq, Repr

/-- The shape of an operation. -/
def Operation.shape : Operation → Shape
  | .ensureIndex => .defineIndex
  | .deleteTable => .removeTable
  | .addDocuments documents => .add (documents.map (·.hasId))
  | .similaritySearch .. | .similaritySearchWithScore .. | .similaritySearchByVector .. =>
    .search []
  | .similaritySearchWithFilter _ _ filter => .search filter.keys
  | .delete ids => .delete ids.length
  | .getByIds ids => .fetch ids.length

/-- The statements of a request of this shape. -/
def Shape.statements (c : Config) : Shape → List Statement
  | .defineIndex => [.defineIndex c.table (c.dimension.getD 0) c.distance]
  | .removeTable => [.removeTable c.table]
  | .add withId => withId.zipIdx.map fun (own, i) => if own then .upsert i else .create i
  | .search keys => [.nearest c.distance keys]
  | .delete count => (List.range count).map .delete
  | .fetch count => (List.range count).map .fetch

theorem statements_add (c : Config) {documents : List Document} {vectors : List Vector32}
    (h : vectors.length = documents.length) :
    (Command.add c (documents.zip vectors)).statements =
      (Shape.add (documents.map (·.hasId))).statements c := by
  have hflags : documents.map (·.hasId) = (documents.zip vectors).map (·.1.hasId) := by
    have hfst := congrArg (List.map Document.hasId)
      (List.map_fst_zip (Nat.le_of_eq h.symm) : (documents.zip vectors).map Prod.fst = documents)
    rw [List.map_map] at hfst
    exact hfst.symm
  show List.map _ _ = List.map _ _
  rw [hflags, List.zipIdx_map, List.map_map]
  rfl

/-- The statements of a request depend on the shape of the operation only. -/
theorem Operation.statements_command (c : Config) {op : Operation} {vectors : List Vector32}
    (h : op.Admits vectors) : (op.command c vectors).statements = op.shape.statements c := by
  cases op with
  | addDocuments documents => exact statements_add c h.2
  | ensureIndex => rfl
  | deleteTable => rfl
  | similaritySearch text k => rfl
  | similaritySearchWithScore text k => rfl
  | similaritySearchWithFilter text k filter => rfl
  | similaritySearchByVector vector k => rfl
  | delete ids => rfl
  | getByIds ids => rfl

/-! ## Variables and parameters -/

theorem Command.parametersOf_text_single {s : Statement} (h : s.Checked) (bindings : Dict) :
    parametersOf (tokens (Command.text ⟨[s], bindings⟩)) = s.valueNames := by
  have htext : Command.text ⟨[s], bindings⟩ = s.text := by
    unfold Command.text
    simp
  rw [htext, Statement.parametersOf_text h]

theorem mem_parametersOf_clauses {α : Type} (query : α → Query) (items : List α) (name : String) :
    name ∈ parametersOf (items.flatMap fun a => (query a).clause ++ [.mark ';']) ↔
      ∃ a ∈ items, name ∈ (query a).names := by
  induction items with
  | nil => simp [parametersOf]
  | cons a items ih =>
    have hend : parametersOf [.mark ';'] = [] := rfl
    rw [List.flatMap_cons, parametersOf_append, parametersOf_append, Query.parametersOf_clause,
      hend, List.append_nil, List.mem_append, ih]
    simp

theorem mem_names_write (d : Document) (vector : Vector32) (i : Nat) (name : String) :
    name ∈ (Query.write d i).names ↔
      name = "tb" ∨ name ∈ (Command.writeBindings d vector i).map (·.1) := by
  unfold Query.write Command.writeBindings
  split
  · simp only [Query.names, List.mem_cons, List.not_mem_nil, or_false, List.map_cons,
      List.map_nil]
    rw [or_comm (a := name = idVariable i)]
  · simp only [Query.names, List.mem_cons, List.not_mem_nil, or_false, List.map_cons,
      List.map_nil]

/-- The parameters of the text that writes documents are its variables. -/
theorem closed_add (c : Config) {documents : List (Document × Vector32)} (hne : documents ≠ [])
    (name : String) :
    name ∈ parametersOf (tokens (Command.add c documents).text) ↔
      name ∈ Dict.keys (Command.add c documents).bindings := by
  obtain ⟨entry, rest, hentries⟩ := List.exists_cons_of_ne_nil
    (show documents.zipIdx ≠ [] by simpa using hne)
  rw [(statementsOf_add c documents).2, List.flatMap_map, mem_parametersOf_clauses]
  show _ ↔ name ∈ Dict.keys (Dict.ofList (Command.addEntries c documents))
  rw [Dict.mem_keys_ofList]
  unfold Command.addEntries
  rw [List.map_cons, List.mem_cons, List.map_flatMap, List.mem_flatMap]
  constructor
  · intro ⟨e, he, hname⟩
    rcases (mem_names_write e.1.1 e.1.2 e.2 name).mp hname with h | h
    · exact Or.inl h
    · exact Or.inr ⟨e, he, h⟩
  · intro h
    rcases h with h | ⟨e, he, h⟩
    · refine ⟨entry, ?_, (mem_names_write entry.1.1 entry.1.2 entry.2 name).mpr (Or.inl h)⟩
      rw [hentries]
      exact List.mem_cons_self
    · exact ⟨e, he, (mem_names_write e.1.1 e.1.2 e.2 name).mpr (Or.inr h)⟩

/-- The parameters of a text on given keys are its variables. -/
theorem closed_numbered (c : Config) {statement : Nat → Statement} {query : Nat → Query}
    (hquery : ∀ i, (statement i).query? = some (query i))
    (hnames : ∀ i, (query i).names = ["tb", idVariable i]) {ids : List String} (hne : ids ≠ [])
    (name : String) :
    name ∈ parametersOf (tokens (Command.text ⟨(List.range ids.length).map statement,
      Command.idBindings c ids⟩)) ↔ name ∈ Dict.keys (Command.idBindings c ids) := by
  have hpos : 0 < ids.length := List.length_pos_iff.mpr hne
  rw [(statementsOf_numbered hquery ids.length _).2, mem_parametersOf_clauses]
  show _ ↔ name ∈ Dict.keys (Dict.ofList (Command.idEntries c ids))
  rw [Dict.mem_keys_ofList]
  unfold Command.idEntries
  rw [List.map_cons, List.mem_cons, List.map_map]
  constructor
  · intro ⟨i, hi, hname⟩
    rw [hnames i] at hname
    rcases List.mem_cons.mp hname with h | h
    · exact Or.inl h
    · refine Or.inr (List.mem_map.mpr ⟨(ids.get ⟨i, List.mem_range.mp hi⟩, i), ?_, ?_⟩)
      · exact List.mem_zipIdx_iff_getElem?.mpr (List.getElem?_eq_getElem _)
      · exact (List.mem_singleton.mp h).symm
  · intro h
    rcases h with h | h
    · refine ⟨0, List.mem_range.mpr hpos, ?_⟩
      rw [hnames 0, h]
      exact List.mem_cons_self
    · obtain ⟨⟨id, i⟩, hi, rfl⟩ := List.mem_map.mp h
      have hlt : i < ids.length := (List.getElem?_eq_some_iff.mp
        (List.mem_zipIdx_iff_getElem?.mp hi)).1
      refine ⟨i, List.mem_range.mpr hlt, ?_⟩
      rw [hnames i]
      exact List.mem_cons_of_mem _ List.mem_cons_self

/-- The parameters of the text of a search are its variables. -/
theorem closed_nearest (c : Config) (vector : Vector32) (k : Nat) {filter : Filter}
    (hfilter : filter.check = .ok ()) (name : String) :
    name ∈ parametersOf (tokens (Command.nearest c vector k filter).text) ↔
      name ∈ Dict.keys (Command.nearest c vector k filter).bindings := by
  have hchecked : (Statement.nearest c.distance filter.keys).Checked :=
    Filter.check_eq_ok_iff.mp hfilter
  have hvalues : filter.bindings.map (·.1) =
      (List.range filter.keys.length).map Filter.valueName := by
    rw [filter.map_fst_bindings, Filter.keys, List.length_map]
    rfl
  unfold Command.nearest
  rw [Command.parametersOf_text_single hchecked, Dict.mem_keys_ofList, List.map_append,
    List.map_append, hvalues]
  unfold Statement.valueNames
  simp only [List.mem_append, List.map_cons, List.map_nil, List.mem_cons, List.not_mem_nil,
    or_false]
  constructor
  · intro h
    rcases h with ((h | h) | h) | h
    · exact Or.inr (Or.inl h)
    · exact Or.inl (Or.inl h)
    · exact Or.inl (Or.inr h)
    · exact Or.inr (Or.inr h)
  · intro h
    rcases h with (h | h) | (h | h)
    · exact Or.inl (Or.inl (Or.inr h))
    · exact Or.inl (Or.inr h)
    · exact Or.inl (Or.inl (Or.inl h))
    · exact Or.inr h

/-- **The parameters of the text of a request are the variables of the request.** -/
theorem Operation.closed_command {c : Config} (hc : c.validate = .ok ()) {op : Operation}
    {vectors : List Vector32} (h : op.Admits vectors) (name : String) :
    name ∈ parametersOf (tokens (op.command c vectors).text) ↔
      name ∈ Dict.keys (op.command c vectors).bindings := by
  have hall : Filter.check .all = .ok () := rfl
  cases op with
  | ensureIndex =>
    have hchecked : (Statement.defineIndex c.table (c.dimension.getD 0) c.distance).Checked :=
      Config.isIdentifier_table hc
    show name ∈ parametersOf (tokens (Command.defineIndex c _).text) ↔ name ∈ Dict.keys []
    rw [Command.defineIndex, Command.parametersOf_text_single hchecked]
    exact Iff.rfl
  | deleteTable =>
    have hchecked : (Statement.removeTable c.table).Checked := Config.isIdentifier_table hc
    show name ∈ parametersOf (tokens (Command.removeTable c).text) ↔ name ∈ Dict.keys []
    rw [Command.removeTable, Command.parametersOf_text_single hchecked]
    exact Iff.rfl
  | addDocuments documents =>
    obtain ⟨hne, hlength⟩ := h
    apply closed_add
    intro hzip
    have hboth := congrArg List.length hzip
    rw [List.length_zip, hlength, Nat.min_self] at hboth
    exact hne (List.length_eq_zero_iff.mp hboth)
  | similaritySearch text k => exact closed_nearest c _ k hall name
  | similaritySearchWithScore text k => exact closed_nearest c _ k hall name
  | similaritySearchWithFilter text k filter => exact closed_nearest c _ k h name
  | similaritySearchByVector vector k => exact closed_nearest c _ k hall name
  | delete ids => exact closed_numbered c (fun _ => rfl) (fun _ => rfl) h name
  | getByIds ids => exact closed_numbered c (fun _ => rfl) (fun _ => rfl) h name

/-! ## What the variables hold -/

/-- The value of a content variable: the text, the vector and the metadata of a document. -/
structure IsContentOf (content : Json) (d : Document) (vector : Vector32) : Prop where
  text : content.get? "text" = some (.str d.content)
  embedding : content.get? "embedding" = some (Vector32.toJson vector)
  metadata : content.get? "metadata" = some (.obj d.metadata)

theorem isContentOf_record (d : Document) (vector : Vector32) :
    IsContentOf (Command.record d vector) d vector := by
  have hnames : (["text", "embedding", "metadata"] : List String).Nodup := by decide
  constructor
  · exact Dict.get?_ofList_of_mem hnames List.mem_cons_self
  · exact Dict.get?_ofList_of_mem hnames (List.mem_cons_of_mem _ List.mem_cons_self)
  · exact Dict.get?_ofList_of_mem hnames
      (List.mem_cons_of_mem _ (List.mem_cons_of_mem _ List.mem_cons_self))

/-- Statement `i` writes document `i` with vector `i`, under the document's identifier if and only
if it has one, and no two variables are one. -/
structure WritesBound (documents : List Document) (vectors : List Vector32)
    (statements : List (List Token)) (bindings : Dict) : Prop where
  length : bindings.length = 1 + documents.length + documents.countP (·.hasId)
  statements_length : statements.length = documents.length
  statement : ∀ i d, documents[i]? = some d → statements[i]? = some (Query.write d i).clause
  content : ∀ i d, documents[i]? = some d → ∃ vector content, vectors[i]? = some vector ∧
    Dict.get? (contentVariable i) bindings = some content ∧ IsContentOf content d vector
  id : ∀ i d, documents[i]? = some d →
    Dict.get? (idVariable i) bindings = if d.hasId then some (.str d.id) else none

/-- Statement `i` is the query with this number on identifier `i`, and no two variables are one. -/
structure KeysBound (query : Nat → Query) (ids : List String) (statements : List (List Token))
    (bindings : Dict) : Prop where
  length : bindings.length = 1 + ids.length
  statements_length : statements.length = ids.length
  statement : ∀ i, i < ids.length → statements[i]? = some (query i).clause
  id : ∀ i id, ids[i]? = some id → Dict.get? (idVariable i) bindings = some (.str id)

/-- The vector, the limit and the values of the filter are bound, and no two variables are one. -/
structure SearchBound (vector : Vector32) (k : Nat) (filter : Filter) (bindings : Dict) :
    Prop where
  length : bindings.length = 3 + filter.size
  vector : Dict.get? "vector" bindings = some (Vector32.toJson vector)
  limit : Dict.get? "k" bindings = some (.int k)
  value : ∀ i condition, filter.conditions[i]? = some condition →
    Dict.get? (Filter.valueName i) bindings = some condition.2

/-- What the variables of a request hold, and which statement of its text refers to which of
them, when the texts of the operation were embedded as these vectors. -/
def Operation.Binds (c : Config) (vectors : List Vector32) (text : String) (bindings : Dict) :
    Operation → Prop
  | .ensureIndex | .deleteTable => bindings = []
  | .addDocuments documents => Dict.get? "tb" bindings = some (.str c.table) ∧
    WritesBound documents vectors (statementsOf text) bindings
  | .similaritySearch _ k | .similaritySearchWithScore _ k | .similaritySearchByVector _ k =>
    Dict.get? "tb" bindings = some (.str c.table) ∧
      ∃ vector, vectors = [vector] ∧ SearchBound vector k .all bindings
  | .similaritySearchWithFilter _ k filter => Dict.get? "tb" bindings = some (.str c.table) ∧
    ∃ vector, vectors = [vector] ∧ SearchBound vector k filter bindings
  | .delete ids => Dict.get? "tb" bindings = some (.str c.table) ∧
    KeysBound (fun i => .delete "tb" (idVariable i)) ids (statementsOf text) bindings
  | .getByIds ids => Dict.get? "tb" bindings = some (.str c.table) ∧
    KeysBound (fun i => .fetch "tb" (idVariable i)) ids (statementsOf text) bindings

theorem writesBound_add (c : Config) {documents : List Document} {vectors : List Vector32}
    (hlength : vectors.length = documents.length) :
    let command := Command.add c (documents.zip vectors)
    WritesBound documents vectors (statementsOf command.text) command.bindings := by
  intro command
  have hdocuments : (documents.zip vectors).map Prod.fst = documents :=
    List.map_fst_zip (Nat.le_of_eq hlength.symm)
  have hzip : (documents.zip vectors).length = documents.length := by
    rw [List.length_zip, hlength, Nat.min_self]
  have hstatements : statementsOf command.text =
      (documents.zip vectors).zipIdx.map fun entry => (Query.write entry.1.1 entry.2).clause := by
    rw [(statementsOf_add c _).1, List.map_map]
    rfl
  have hget : ∀ (i : Nat) (d : Document), documents[i]? = some d →
      ∃ vector, vectors[i]? = some vector ∧ (documents.zip vectors)[i]? = some (d, vector) := by
    intro i d hd
    have hi : i < vectors.length := by
      rw [hlength]
      exact (List.getElem?_eq_some_iff.mp hd).1
    have hvector := List.getElem?_eq_getElem hi
    exact ⟨vectors[i], hvector, List.getElem?_zip_eq_some.mpr ⟨hd, hvector⟩⟩
  constructor
  · have hcount : documents.countP (·.hasId) =
        (documents.zip vectors).countP (·.1.hasId) := by
      have hmap := congrArg (List.countP Document.hasId) hdocuments
      rw [List.countP_map] at hmap
      exact hmap.symm
    rw [hcount, ← hzip]
    exact Command.length_add c _
  · rw [hstatements, List.length_map, List.length_zipIdx, hzip]
  · intro i d hd
    obtain ⟨vector, -, hentry⟩ := hget i d hd
    rw [hstatements, List.getElem?_map, List.getElem?_zipIdx, hentry]
    simp
  · intro i d hd
    obtain ⟨vector, hvector, hentry⟩ := hget i d hd
    exact ⟨vector, Command.record d vector, hvector, Command.get?_add_content c hentry,
      isContentOf_record d vector⟩
  · intro i d hd
    obtain ⟨vector, -, hentry⟩ := hget i d hd
    exact Command.get?_add_id c hentry

theorem keysBound_idBindings (c : Config) (ids : List String) {statement : Nat → Statement}
    {query : Nat → Query} (hquery : ∀ i, (statement i).query? = some (query i)) :
    KeysBound query ids (statementsOf (Command.text ⟨(List.range ids.length).map statement,
      Command.idBindings c ids⟩)) (Command.idBindings c ids) := by
  have hstatements := (statementsOf_numbered hquery ids.length (Command.idBindings c ids)).1
  constructor
  · exact Command.length_idBindings c ids
  · rw [hstatements, List.length_map, List.length_range]
  · intro i hi
    rw [hstatements, List.getElem?_map, List.getElem?_range hi]
    rfl
  · intro i id hid
    exact Command.get?_idBindings c hid

theorem searchBound_nearest (c : Config) (vector : Vector32) (k : Nat) (filter : Filter) :
    SearchBound vector k filter (Command.nearest c vector k filter).bindings := by
  constructor
  · exact Command.length_nearest c vector k filter
  · exact Command.get?_nearest c vector k filter
      (List.mem_append_right _ List.mem_cons_self)
  · exact Command.get?_nearest c vector k filter
      (List.mem_append_right _ (List.mem_cons_of_mem _ List.mem_cons_self))
  · intro i condition h
    exact Command.get?_nearest_value c vector k h

theorem get?_nearest_table (c : Config) (vector : Vector32) (k : Nat) (filter : Filter) :
    Dict.get? "tb" (Command.nearest c vector k filter).bindings = some (.str c.table) :=
  Command.get?_nearest c vector k filter
    (List.mem_append_left _ (List.mem_append_left _ List.mem_cons_self))

/-- The variables of a request hold the arguments of the operation. -/
theorem Operation.binds_command {σ : Type} (c : Config) {op : Operation} {e : Embedder σ}
    {world : σ} {vectors : List Vector32} (hembeds : op.Embeds e world vectors)
    (hadmits : op.Admits vectors) :
    op.Binds c vectors (op.command c vectors).text (op.command c vectors).bindings := by
  cases op with
  | ensureIndex => exact rfl
  | deleteTable => exact rfl
  | addDocuments documents =>
    exact ⟨Command.get?_add_table c _, writesBound_add c hadmits.2⟩
  | similaritySearch text k =>
    obtain ⟨vector, -, rfl⟩ := hembeds
    exact ⟨get?_nearest_table c _ k _, vector, rfl, searchBound_nearest c vector k .all⟩
  | similaritySearchWithScore text k =>
    obtain ⟨vector, -, rfl⟩ := hembeds
    exact ⟨get?_nearest_table c _ k _, vector, rfl, searchBound_nearest c vector k .all⟩
  | similaritySearchWithFilter text k filter =>
    obtain ⟨vector, -, rfl⟩ := hembeds
    exact ⟨get?_nearest_table c _ k _, vector, rfl, searchBound_nearest c vector k filter⟩
  | similaritySearchByVector vector k =>
    cases hembeds
    exact ⟨get?_nearest_table c _ k _, vector, rfl, searchBound_nearest c vector k .all⟩
  | delete ids =>
    exact ⟨Command.get?_idBindings_table c ids, keysBound_idBindings c ids fun _ => rfl⟩
  | getByIds ids =>
    exact ⟨Command.get?_idBindings_table c ids, keysBound_idBindings c ids fun _ => rfl⟩

/-! ## Requests of a store -/

/-- The operation, performed from this session, sends the request. -/
def Store.Sends {σ : Type} (s : Store (Recorded σ)) (e : Embedder σ) (op : Operation)
    (w : Session (Recorded σ)) (request : Request) : Prop :=
  ∃ sent, sentAfter (s.perform e.unrecorded.inSession op) w = w.world.sent ++ sent ∧
    request ∈ sent

/-- A request carries the command of its operation. -/
theorem Store.Sends.query? {σ : Type} {s : Store (Recorded σ)} {b : Backend σ}
    (hb : s.backend = b.recording) {e : Embedder σ} {op : Operation}
    {w : Session (Recorded σ)} {request : Request} (h : s.Sends e op w request) :
    ∃ vectors, op.Embeds e w.world.world vectors ∧ op.Admits vectors ∧
      request.query? = some ((op.command s.config vectors).text,
        (op.command s.config vectors).bindings) := by
  obtain ⟨sent, hafter, hmem⟩ := h
  rcases Store.sentAfter_perform hb e op w with hnone | ⟨vectors, hembeds, hadmits, hone⟩
  · rw [hafter] at hnone
    rw [List.append_right_eq_self.mp hnone] at hmem
    cases hmem
  · rw [hafter] at hone
    rw [List.append_cancel_left hone, List.mem_singleton] at hmem
    refine ⟨vectors, hembeds, hadmits, ?_⟩
    rw [hmem, query?_callRequest]

/-- **No argument of an operation can reach the text of its request, and every argument is in the
variables.**  Two operations of one shape send the same text, whatever the stores' worlds and
embedders do; the parameters of the text are the variables of the request, and these hold the
arguments of the operation, each under a name of its own. -/
theorem Store.requests_bind {σ σ' : Type} {c : Config} {b : Backend σ} {b' : Backend σ'}
    {s : Store (Recorded σ)} {s' : Store (Recorded σ')}
    (hs : Store.ofConfig c b.recording = .ok s) (hs' : Store.ofConfig c b'.recording = .ok s')
    {e : Embedder σ} {e' : Embedder σ'} {op op' : Operation} (hshape : op.shape = op'.shape)
    {w : Session (Recorded σ)} {w' : Session (Recorded σ')} {request request' : Request}
    (hsends : s.Sends e op w request) (hsends' : s'.Sends e' op' w' request') :
    ∃ text bindings bindings', request.query? = some (text, bindings) ∧
      request'.query? = some (text, bindings') ∧
      (∀ name, name ∈ parametersOf (tokens text) ↔ name ∈ bindings.keys) ∧
      (∃ vectors, op.Embeds e w.world.world vectors ∧ op.Binds c vectors text bindings) ∧
      ∀ n, (variableNames n).Nodup := by
  obtain ⟨hvalid, hc, hb⟩ := Store.ofConfig_eq_ok hs
  obtain ⟨-, hc', hb'⟩ := Store.ofConfig_eq_ok hs'
  obtain ⟨vectors, hembeds, hadmits, hquery⟩ := hsends.query? hb
  obtain ⟨vectors', -, hadmits', hquery'⟩ := hsends'.query? hb'
  rw [hc] at hquery
  rw [hc'] at hquery'
  have htext : (op'.command c vectors').text = (op.command c vectors).text := by
    unfold Command.text
    rw [Operation.statements_command c hadmits, Operation.statements_command c hadmits', hshape]
  rw [htext] at hquery'
  exact ⟨_, _, _, hquery, hquery', Operation.closed_command hvalid hadmits,
    ⟨vectors, hembeds, Operation.binds_command c hembeds hadmits⟩, variableNames_nodup⟩

/-- A text full of dollar signs and semicolons is only a value. -/
theorem requests_bind_hostile :
    let c := Config.new "http://localhost:8000" "ns" "db" "documents"
    let b : Backend Unit := ⟨fun _ => pure ⟨200, .null⟩, fun _ => pure []⟩
    let e : Embedder Unit := .ofFunction fun _ => []
    let op := Operation.addDocuments [.new "a" "text", .ofContent "other"]
    let op' := Operation.addDocuments
      [.new "$tb) ; REMOVE TABLE documents; --" "$id1", .ofContent ";"]
    let w : Session (Recorded Unit) := .start ⟨(), []⟩
    let request := callRequest c 1 (op.command c [[], []])
    let request' := callRequest c 1 (op'.command c [[], []])
    ∃ s, Store.ofConfig c b.recording = .ok s ∧ s.Sends e op w request ∧
      s.Sends e op' w request' ∧
      ∃ text bindings bindings', request.query? = some (text, bindings) ∧
        request'.query? = some (text, bindings') ∧
        (∀ name, name ∈ parametersOf (tokens text) ↔ name ∈ bindings.keys) ∧
        (∃ vectors, op.Embeds e w.world.world vectors ∧ op.Binds c vectors text bindings) ∧
        ∀ n, (variableNames n).Nodup := by
  intro c b e op op' w request request'
  have hvalid : c.validate = .ok () := by decide
  have hs := Store.ofConfig_of_valid hvalid b.recording
  have hsends : Store.Sends ⟨c, hvalid, b.recording⟩ e op w request :=
    ⟨[request], rfl, List.mem_singleton.mpr rfl⟩
  have hsends' : Store.Sends ⟨c, hvalid, b.recording⟩ e op' w request' :=
    ⟨[request'], rfl, List.mem_singleton.mpr rfl⟩
  have hshape : op.shape = op'.shape := by decide
  exact ⟨_, hs, hsends, hsends', Store.requests_bind hs hs hshape hsends hsends'⟩

end RetrievalKit.Surreal
