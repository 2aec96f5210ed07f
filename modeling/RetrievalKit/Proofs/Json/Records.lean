import Mathlib.Data.List.Forall2
import RetrievalKit.Proofs.Json.RoundTrip
import RetrievalKit.Proofs.Json.Spelling

/-!
# The records and their spellings

Every record has a reader with a rule for each field.  The rules are not all alike: a field with a
standard value may be missing but not null, an optional field may be both, and the usage of a
response may be missing from an object but not from an array.  Which fields a message has depends
on its role.

* `TokenUsage.reader`, `Chunk.reader`, … — the readers; `Message.reader` — one for each role;
* `TakesSpellings` — a reader takes every row of a value for the value, and every spelling of an
  object for the object;
* `RecordReader.takesSpellings` — a reader does that if it reads the whole row;
* `takesSpellings_records` — so do messages, chunks, requests, responses, usages, run
  configurations and documents.
-/

namespace RetrievalKit

open RetrievalKit.Field

/-! ## Rules and readers -/

namespace FieldRule

variable {α : Type} {read : Json → Option α} {name : String} {o o' : Option Json}

theorem Same.required (h : (plain name).Same o o') : required read o = required read o' :=
  required_same rfl rfl (fun _ _ heq => congrArg read heq) h

theorem Same.optional (h : (option name).Same o o') : optional read o = optional read o' :=
  optional_same (fun _ hv => (Option.some.inj hv).symm)
    (fun _ _ heq => congrArg (fun v => Field.optional read (some v)) heq) h

theorem Same.withDefault {value : Json} {a : α} (hread : read value = some a)
    (h : (withStandard name value).Same o o') : withDefault a read o = withDefault a read o' := by
  refine withDefault_same rfl (fun v hv => ?_) (fun _ _ heq => congrArg read heq) h
  cases hv
  exact hread

end FieldRule

/-- Two values are read alike. -/
def ReadAlike {β : Type} (read : Json → β) (v v' : Json) : Prop := read v = read v'

/-- Two arrays with items that are read alike. -/
def ItemsAlike {β : Type} (read : Json → β) (v v' : Json) : Prop :=
  ∃ items items', v = .arr items ∧ v' = .arr items' ∧
    List.Forall₂ (ReadAlike read) items items'

theorem list?_of_itemsAlike {α : Type} {read : Json → Option α} {v v' : Json}
    (h : ItemsAlike read v v') : list? read v = list? read v' := by
  obtain ⟨items, items', rfl, rfl, halike⟩ := h
  show items.mapM read = items'.mapM read
  induction halike with
  | nil => rfl
  | cons hitem _ ih => rw [List.mapM_cons, List.mapM_cons, hitem, ih]

theorem list?_of_forall₂ {α : Type} {read : Json → Option α} {items : List Json} {values : List α}
    (h : List.Forall₂ (fun v a => read v = some a) items values) :
    list? read (.arr items) = some values := by
  show items.mapM read = some values
  induction h with
  | nil => rfl
  | cons hitem _ ih =>
    rw [List.mapM_cons, hitem, ih]
    rfl

/-- What an optional record is read as. -/
def optionalUsage (v : Json) : Option (Option TokenUsage) := optional TokenUsage.ofJson? (some v)

def TokenUsage.reader : RecordReader TokenUsage where
  rules := [.plain "input_tokens", .plain "output_tokens", .plain "total_tokens"]
  least := 3
  decode get := do
    let input ← required word32? (get "input_tokens")
    let output ← required word32? (get "output_tokens")
    let total ← required word32? (get "total_tokens")
    some ⟨input, output, total⟩
  nodup := by decide
  least_le := by decide
  needed := by decide
  sees get get' h := by
    simp only [List.forall_mem_cons, FieldRule.plain_name] at h
    obtain ⟨hinput, houtput, htotal, -⟩ := h
    rw [hinput.required, houtput.required, htotal.required]

def Chunk.reader : RecordReader Chunk where
  rules := [.plain "content", (FieldRule.option "usage").nested (ReadAlike optionalUsage)]
  least := 1
  decode get := do
    let content ← required Json.asString? (get "content")
    let usage ← optional TokenUsage.ofJson? (get "usage")
    some ⟨content, usage⟩
  nodup := by decide
  least_le := by decide
  needed := by decide
  sees get get' h := by
    simp only [List.forall_mem_cons, FieldRule.plain_name, FieldRule.nested_name,
      FieldRule.option_name] at h
    obtain ⟨hcontent, husage, -⟩ := h
    have husage' := optional_same (fun _ hv => (Option.some.inj hv).symm)
      (fun _ _ halike => halike) husage
    rw [hcontent.required, husage']

def ChatRequest.reader : RecordReader ChatRequest where
  rules := [(FieldRule.plain "messages").nested (ItemsAlike Message.ofJson?), .option "temperature",
    .option "max_tokens", .withStandard "stop" (.arr [])]
  least := 1
  decode get := do
    let messages ← required (list? Message.ofJson?) (get "messages")
    let temperature ← optional Json.asDouble? (get "temperature")
    let maxTokens ← optional word32? (get "max_tokens")
    let stop ← withDefault [] (list? Json.asString?) (get "stop")
    some ⟨messages, temperature, maxTokens, stop⟩
  nodup := by decide
  least_le := by decide
  needed := by decide
  sees get get' h := by
    simp only [List.forall_mem_cons, FieldRule.plain_name, FieldRule.nested_name,
      FieldRule.option_name, FieldRule.withStandard_name] at h
    obtain ⟨hmessages, htemperature, hmaxTokens, hstop, -⟩ := h
    have hmessages' := required_same rfl rfl (fun _ _ => list?_of_itemsAlike) hmessages
    rw [hmessages', htemperature.optional, hmaxTokens.optional,
      hstop.withDefault (roundTrips_strings [])]

/-- The usage may be null, and an object may leave it out. -/
def ChatResponse.reader : RecordReader ChatResponse where
  rules := [(FieldRule.plain "message").nested (ReadAlike Message.ofJson?),
    ⟨"usage", true, none, ReadAlike optionalUsage⟩]
  least := 2
  decode get := do
    let message ← required Message.ofJson? (get "message")
    let usage ← optional TokenUsage.ofJson? (get "usage")
    some ⟨message, usage⟩
  nodup := by decide
  least_le := by decide
  needed := by decide
  sees get get' h := by
    simp only [List.forall_mem_cons, FieldRule.plain_name, FieldRule.nested_name] at h
    obtain ⟨hmessage, husage, -⟩ := h
    have hmessage' := required_same rfl rfl (fun _ _ halike => halike) hmessage
    have husage' := optional_same (by nofun) (fun _ _ halike => halike) husage
    rw [hmessage', husage']

def RunConfig.reader : RecordReader RunConfig where
  rules := [.withStandard "tags" (.arr []), .withStandard "metadata" (.obj []), .option "run_id",
    .option "run_name"]
  least := 0
  decode get := do
    let tags ← withDefault [] (list? Json.asString?) (get "tags")
    let metadata ← withDefault [] Json.asObject? (get "metadata")
    let runId ← optional Json.asString? (get "run_id")
    let runName ← optional Json.asString? (get "run_name")
    some ⟨tags, metadata, runId, runName⟩
  nodup := by decide
  least_le := by decide
  needed := by decide
  sees get get' h := by
    simp only [List.forall_mem_cons, FieldRule.withStandard_name, FieldRule.option_name] at h
    obtain ⟨htags, hmetadata, hrunId, hrunName, -⟩ := h
    rw [htags.withDefault (roundTrips_strings []), hmetadata.withDefault (roundTrips_obj []),
      hrunId.optional, hrunName.optional]

def Document.reader : RecordReader Document where
  rules := [.withStandard "id" (.str ""), .plain "content", .withStandard "metadata" (.obj [])]
  least := 2
  decode get := do
    let id ← withDefault "" Json.asString? (get "id")
    let content ← required Json.asString? (get "content")
    let metadata ← withDefault [] Json.asObject? (get "metadata")
    some ⟨id, content, metadata⟩
  nodup := by decide
  least_le := by decide
  needed := by decide
  sees get get' h := by
    simp only [List.forall_mem_cons, FieldRule.plain_name, FieldRule.withStandard_name] at h
    obtain ⟨hid, hcontent, hmetadata, -⟩ := h
    rw [hid.withDefault (roundTrips_str ""), hcontent.required,
      hmetadata.withDefault (roundTrips_obj [])]

/-! ## Messages -/

namespace Message

def assistantReader : RecordReader Message where
  rules := [.plain "content", .option "id", .withStandard "response_metadata" (.obj [])]
  least := 1
  decode get := do
    let content ← required Json.asString? (get "content")
    let id ← optional Json.asString? (get "id")
    let metadata ← withDefault [] Json.asObject? (get "response_metadata")
    some (.assistant content id metadata)
  nodup := by decide
  least_le := by decide
  needed := by decide
  sees get get' h := by
    simp only [List.forall_mem_cons, FieldRule.plain_name, FieldRule.option_name,
      FieldRule.withStandard_name] at h
    obtain ⟨hcontent, hid, hmetadata, -⟩ := h
    rw [hcontent.required, hid.optional, hmetadata.withDefault (roundTrips_obj [])]

/-- The reader of a message that has no metadata, or of none if there is no such role. -/
def otherReader (role : String) : RecordReader Message where
  rules := [.plain "content", .option "id"]
  least := 1
  decode get := do
    let content ← required Json.asString? (get "content")
    let id ← optional Json.asString? (get "id")
    if role = "system" then some (.system content id)
    else if role = "human" then some (.human content id)
    else none
  nodup := by decide
  least_le := by decide
  needed := by decide
  sees get get' h := by
    simp only [List.forall_mem_cons, FieldRule.plain_name, FieldRule.option_name] at h
    obtain ⟨hcontent, hid, -⟩ := h
    rw [hcontent.required, hid.optional]

/-- The reader of a message whose role is known. -/
def reader (role : String) : RecordReader Message :=
  if role = "assistant" then assistantReader else otherReader role

theorem ofFields?_eq (role : String) (v : Json) : ofFields? role v = (reader role).read v := by
  unfold ofFields? reader
  split
  · rfl
  · rfl

/-- The rules of a message with some role: no other field counts, and none at all but the role if
there is no such role. -/
def rulesOf (role : String) : List FieldRule :=
  .plain "role" ::
    if role = "system" ∨ role = "human" ∨ role = "assistant" then (reader role).rules else []

/-- The rules of an object that may be a message. -/
def rulesIn (d : Dict) : List FieldRule :=
  match (Dict.get? "role" d).bind Json.asString? with
  | some role => rulesOf role
  | none => [.plain "role"]

theorem nodup_rulesOf (role : String) : ((rulesOf role).map (·.name)).Nodup := by
  unfold rulesOf reader
  split
  · split
    · decide
    · show (["role", "content", "id"] : List String).Nodup
      decide
  · decide

theorem nodup_rulesIn (d : Dict) : ((rulesIn d).map (·.name)).Nodup := by
  unfold rulesIn
  split
  · exact nodup_rulesOf _
  · decide

theorem ofJson?_obj (d : Dict) : ofJson? (.obj d) =
    (required Json.asString? (Dict.get? "role" d)).bind
      fun role => (reader role).read (.obj d) := by
  have hreader : (fun role => (reader role).read (.obj d)) = fun role => ofFields? role (.obj d) :=
    funext fun role => (ofFields?_eq role _).symm
  rw [hreader]
  rfl

/-- Without a role of the three there is no message. -/
theorem read_of_no_role {role : String}
    (h : ¬ (role = "system" ∨ role = "human" ∨ role = "assistant")) (v : Json) :
    (reader role).read v = none := by
  simp only [not_or] at h
  obtain ⟨hsystem, hhuman, hassistant⟩ := h
  have hdecode : ∀ get, (otherReader role).decode get = none := by
    intro get
    simp [otherReader, hsystem, hhuman]
  unfold reader
  rw [if_neg hassistant]
  unfold RecordReader.read
  rw [funext hdecode]
  exact Option.bind_fun_none _

/-- A change that the rules of its role leave open makes no difference to a message. -/
theorem ofJson?_respelled {d d' : Dict} (h : Respells (rulesIn d) d d') :
    ofJson? (.obj d') = ofJson? (.obj d) := by
  have hsame := h.same (nodup_rulesIn d)
  have hmem : .plain "role" ∈ rulesIn d := by
    unfold rulesIn
    split
    · exact List.mem_cons_self
    · exact List.mem_cons_self
  have hrole : Dict.get? "role" d = Dict.get? "role" d' := (hsame _ hmem).eq_of_plain
  rw [ofJson?_obj, ofJson?_obj, ← hrole]
  cases hvalue : required Json.asString? (Dict.get? "role" d) with
  | none => rfl
  | some role =>
    show (reader role).read (.obj d') = (reader role).read (.obj d)
    by_cases hknown : role = "system" ∨ role = "human" ∨ role = "assistant"
    · have hrules : rulesIn d = .plain "role" :: (reader role).rules := by
        have hvalue' : (Dict.get? "role" d).bind Json.asString? = some role := by
          rw [← hvalue]
          cases Dict.get? "role" d <;> rfl
        unfold rulesIn rulesOf
        rw [hvalue']
        dsimp only
        rw [if_pos hknown]
      rw [RecordReader.read_obj, RecordReader.read_obj]
      refine ((reader role).sees _ _ fun rule hrule => hsame rule ?_).symm
      rw [hrules]
      exact List.mem_cons_of_mem _ hrule
    · rw [read_of_no_role hknown, read_of_no_role hknown]

end Message

/-! ## Values and their rows -/

def TokenUsage.Fields (u : TokenUsage) (values : List Json) : Prop :=
  values = [Json.ofWord32 u.input, Json.ofWord32 u.output, Json.ofWord32 u.total]

/-- The usage may have any spelling of its own. -/
def Chunk.Fields (c : Chunk) (values : List Json) : Prop :=
  ∃ usage, optionalUsage usage = some c.usage ∧ values = [.str c.content, usage]

/-- The messages may have any spellings of their own. -/
def ChatRequest.Fields (r : ChatRequest) (values : List Json) : Prop :=
  ∃ messages, List.Forall₂ (fun v m => Message.ofJson? v = some m) messages r.messages ∧
    values = [.arr messages, Json.ofOption .float r.temperature,
      Json.ofOption Json.ofWord32 r.maxTokens, Json.ofStrings r.stop]

/-- The message and the usage may have any spellings of their own. -/
def ChatResponse.Fields (r : ChatResponse) (values : List Json) : Prop :=
  ∃ message usage, Message.ofJson? message = some r.message ∧
    optionalUsage usage = some r.usage ∧ values = [message, usage]

def RunConfig.Fields (c : RunConfig) (values : List Json) : Prop :=
  values = [Json.ofStrings c.tags, .obj c.metadata, Json.ofOption .str c.runId,
    Json.ofOption .str c.runName]

def Document.Fields (d : Document) (values : List Json) : Prop :=
  values = [.str d.id, .str d.content, .obj d.metadata]

/-- The role comes first, and only an assistant's message has metadata. -/
def Message.Fields (m : Message) (values : List Json) : Prop :=
  values = [.str m.role, .str m.content, Json.ofOption .str m.id?] ++
    (m.responseMetadata?.map Json.obj).toList

/-- A reader takes every row of a value for the value, and every spelling of an object for the
object; each value has a row. -/
structure TakesSpellings {α : Type} (read : Json → Option α) (rulesOf : α → List FieldRule)
    (rulesIn : Dict → List FieldRule) (Fields : α → List Json → Prop) : Prop where
  row : ∀ a values items, Fields a values → IsRow (rulesOf a) values items →
    read (.arr items) = some a
  object : ∀ d d', Relation.ReflTransGen (fun d d' => Respells (rulesIn d) d d') d d' →
    read (.obj d') = read (.obj d)
  rows : ∀ a, ∃ values, Fields a values ∧ IsRow (rulesOf a) values values

theorem RecordReader.takesSpellings {α : Type} (r : RecordReader α) {Fields : α → List Json → Prop}
    (hfields : ∀ a values, Fields a values →
      values.length = r.rules.length ∧ r.decode (itemOf r.rules values) = some a)
    (hexists : ∀ a, ∃ values, Fields a values) :
    TakesSpellings r.read (fun _ => r.rules) (fun _ => r.rules) Fields where
  row a values items h hrow := by
    obtain ⟨hlength, hdecode⟩ := hfields a values h
    rw [r.read_row hlength hrow, hdecode]
  object d d' h := by
    induction h with
    | refl => rfl
    | tail _ hstep ih => rw [r.read_respelled hstep, ih]
  rows a := by
    obtain ⟨values, h⟩ := hexists a
    exact ⟨values, h, isRow_self (hfields a values h).1⟩

theorem TokenUsage.takesSpellings : TakesSpellings TokenUsage.ofJson?
    (fun _ => TokenUsage.reader.rules) (fun _ => TokenUsage.reader.rules) TokenUsage.Fields := by
  refine TokenUsage.reader.takesSpellings ?_ fun u => ⟨_, rfl⟩
  rintro u values rfl
  refine ⟨rfl, ?_⟩
  simp -implicitDefEqProofs [TokenUsage.reader,
    required_some roundTrips_word32]

theorem Chunk.takesSpellings : TakesSpellings Chunk.ofJson?
    (fun _ => Chunk.reader.rules) (fun _ => Chunk.reader.rules) Chunk.Fields := by
  refine Chunk.reader.takesSpellings ?_ fun c => ?_
  · rintro c values ⟨usage, husage, rfl⟩
    refine ⟨rfl, ?_⟩
    unfold optionalUsage at husage
    simp [Chunk.reader, required_some roundTrips_str, husage]
  · exact ⟨_, Json.ofOption TokenUsage.toJson c.usage,
      optional_ofOption TokenUsage.roundTrips (fun _ => nofun) c.usage, rfl⟩

theorem ChatRequest.takesSpellings : TakesSpellings ChatRequest.ofJson?
    (fun _ => ChatRequest.reader.rules) (fun _ => ChatRequest.reader.rules) ChatRequest.Fields := by
  refine ChatRequest.reader.takesSpellings ?_ fun r => ?_
  · rintro r values ⟨messages, hmessages, rfl⟩
    refine ⟨rfl, ?_⟩
    have hmessages' : required (list? Message.ofJson?) (some (.arr messages)) = some r.messages :=
      list?_of_forall₂ hmessages
    have htemperature := optional_ofOption roundTrips_float (fun _ => nofun) r.temperature
    have hmaxTokens := optional_ofOption roundTrips_word32 (fun _ => nofun) r.maxTokens
    simp -implicitDefEqProofs [ChatRequest.reader, hmessages', htemperature,
      hmaxTokens, withDefault_some roundTrips_strings]
  · refine ⟨_, r.messages.map Message.toJson, ?_, rfl⟩
    rw [List.forall₂_map_left_iff]
    exact List.forall₂_same.mpr fun m _ => Message.roundTrips m

theorem ChatResponse.takesSpellings : TakesSpellings ChatResponse.ofJson?
    (fun _ => ChatResponse.reader.rules) (fun _ => ChatResponse.reader.rules)
    ChatResponse.Fields := by
  refine ChatResponse.reader.takesSpellings ?_ fun r => ?_
  · rintro r values ⟨message, usage, hmessage, husage, rfl⟩
    refine ⟨rfl, ?_⟩
    have hmessage' : required Message.ofJson? (some message) = some r.message := hmessage
    unfold optionalUsage at husage
    simp [ChatResponse.reader, hmessage', husage]
  · exact ⟨_, r.message.toJson, Json.ofOption TokenUsage.toJson r.usage,
      Message.roundTrips r.message,
      optional_ofOption TokenUsage.roundTrips (fun _ => nofun) r.usage, rfl⟩

theorem RunConfig.takesSpellings : TakesSpellings RunConfig.ofJson?
    (fun _ => RunConfig.reader.rules) (fun _ => RunConfig.reader.rules) RunConfig.Fields := by
  refine RunConfig.reader.takesSpellings ?_ fun c => ⟨_, rfl⟩
  rintro c values rfl
  refine ⟨rfl, ?_⟩
  have hname (o : Option String) : optional Json.asString? (some (Json.ofOption .str o)) = some o :=
    optional_ofOption roundTrips_str (fun _ => nofun) o
  simp [RunConfig.reader, withDefault_some roundTrips_strings,
    withDefault_some roundTrips_obj, hname]

theorem Document.takesSpellings : TakesSpellings Document.ofJson?
    (fun _ => Document.reader.rules) (fun _ => Document.reader.rules) Document.Fields := by
  refine Document.reader.takesSpellings ?_ fun d => ⟨_, rfl⟩
  rintro d values rfl
  refine ⟨rfl, ?_⟩
  simp [Document.reader, withDefault_some roundTrips_str,
    required_some roundTrips_str, withDefault_some roundTrips_obj]

/-- A document may lose its empty metadata at the end, but keeps the empty identifier before it. -/
example : IsRow Document.reader.rules [.str "", .str "text", .obj []] [.str "", .str "text"] :=
  ⟨[.obj []], rfl, rfl⟩

/-- The fields after the role are those that the reader of the role takes. -/
theorem Message.decode_fields (m : Message) :
    let rest := [.str m.content, Json.ofOption .str m.id?] ++
      (m.responseMetadata?.map Json.obj).toList
    rest.length = (reader m.role).rules.length ∧
      (reader m.role).decode (itemOf (reader m.role).rules rest) = some m := by
  intro rest
  have hid (o : Option String) : optional Json.asString? (some (Json.ofOption .str o)) = some o :=
    optional_ofOption roundTrips_str (fun _ => nofun) o
  cases m with
  | system content id =>
    refine ⟨rfl, ?_⟩
    simp [rest, role, Message.content, id?, responseMetadata?, reader, otherReader,
      required_some roundTrips_str, hid]
  | human content id =>
    refine ⟨rfl, ?_⟩
    simp [rest, role, Message.content, id?, responseMetadata?, reader, otherReader,
      required_some roundTrips_str, hid]
  | assistant content id metadata =>
    refine ⟨rfl, ?_⟩
    simp [rest, role, Message.content, id?, responseMetadata?, reader, assistantReader,
      required_some roundTrips_str, hid, withDefault_some roundTrips_obj]

theorem Message.rulesOf_role (m : Message) :
    rulesOf m.role = .plain "role" :: (reader m.role).rules := by
  cases m <;> rfl

theorem Message.takesSpellings : TakesSpellings Message.ofJson? (fun m => Message.rulesOf m.role)
    Message.rulesIn Message.Fields where
  row m values items h hrow := by
    obtain ⟨hlength, hdecode⟩ := m.decode_fields
    rw [h, m.rulesOf_role] at hrow
    obtain ⟨rest, rfl, hrest⟩ := hrow.exists_cons rfl
    show ofFields? m.role (.arr rest) = some m
    rw [ofFields?_eq, (reader m.role).read_row hlength hrest, hdecode]
  object d d' h := by
    induction h with
    | refl => rfl
    | tail _ hstep ih => rw [ofJson?_respelled hstep, ih]
  rows m := by
    refine ⟨_, rfl, isRow_self ?_⟩
    rw [m.rulesOf_role]
    exact congrArg (· + 1) m.decode_fields.1

/-- **All spellings of a value are read alike.**  For each kind of record: the array of the fields
of a value in their order, and what is left of it when standard values are taken off its end, is
read as the value; and an object is read as before, or refused as before, after any number of
changes that its fields leave open.  Records inside a record may have any spelling of their own. -/
theorem takesSpellings_records :
    TakesSpellings Message.ofJson? (fun m => Message.rulesOf m.role) Message.rulesIn
      Message.Fields ∧
    TakesSpellings Chunk.ofJson? (fun _ => Chunk.reader.rules) (fun _ => Chunk.reader.rules)
      Chunk.Fields ∧
    TakesSpellings ChatRequest.ofJson? (fun _ => ChatRequest.reader.rules)
      (fun _ => ChatRequest.reader.rules) ChatRequest.Fields ∧
    TakesSpellings ChatResponse.ofJson? (fun _ => ChatResponse.reader.rules)
      (fun _ => ChatResponse.reader.rules) ChatResponse.Fields ∧
    TakesSpellings TokenUsage.ofJson? (fun _ => TokenUsage.reader.rules)
      (fun _ => TokenUsage.reader.rules) TokenUsage.Fields ∧
    TakesSpellings RunConfig.ofJson? (fun _ => RunConfig.reader.rules)
      (fun _ => RunConfig.reader.rules) RunConfig.Fields ∧
    TakesSpellings Document.ofJson? (fun _ => Document.reader.rules)
      (fun _ => Document.reader.rules) Document.Fields :=
  ⟨Message.takesSpellings, Chunk.takesSpellings, ChatRequest.takesSpellings,
    ChatResponse.takesSpellings, TokenUsage.takesSpellings, RunConfig.takesSpellings,
    Document.takesSpellings⟩

end RetrievalKit
