import RetrievalKit.Chat.Basic
import RetrievalKit.Document
import RetrievalKit.Proofs.Json.Dict
import RetrievalKit.RunConfig

/-!
# Reading back what was written

A record that is written as JSON and read again is the same record.  A reader looks up one field
after another, so it is enough to know what each field holds and what its absence means.

* `Json.RoundTrips` — a reader answers what was written;
* `Dict.get?_ofList_append`, `Dict.get?_ofList_entryIfSome`, … — what a written record holds under
  each name;
* `Field.optional_map`, `Field.withDefault_unless`, … — what a field means that may be left out;
* `Json.roundTrips_records` — messages, chunks, requests, responses, usages, run configurations and
  documents.
-/

namespace RetrievalKit

/-! ## What a written record holds -/

namespace Dict

/-- Of two entries with one key the later one counts. -/
theorem get?_insertAll (key : String) (d : Dict) (entries : List (String × Json)) :
    get? key (d.insertAll entries) = (get? key (ofList entries)).or (get? key d) := by
  induction entries generalizing d with
  | nil => rfl
  | cons e rest ih =>
    have hcons (d : Dict) : d.insertAll (e :: rest) = (d.insert e.1 e.2).insertAll rest := rfl
    rw [ofList, hcons, hcons, ih, ih (insert e.1 e.2 []), get?_insert, get?_insert]
    cases get? key (ofList rest) with
    | some v => rfl
    | none =>
      split
      · rfl
      · rfl

@[simp] theorem get?_ofList_nil (key : String) : get? key (ofList []) = none := rfl

@[simp] theorem get?_ofList_cons (key name : String) (value : Json)
    (entries : List (String × Json)) :
    get? key (ofList ((name, value) :: entries)) =
      (get? key (ofList entries)).or (if name = key then some value else none) :=
  get?_insertAll key [(name, value)] entries

@[simp] theorem get?_ofList_append (key : String) (first second : List (String × Json)) :
    get? key (ofList (first ++ second)) =
      (get? key (ofList second)).or (get? key (ofList first)) := by
  rw [ofList, insertAll_append, get?_insertAll]
  rfl

@[simp] theorem get?_ofList_entryIfSome {α : Type} (key name : String) (write : α → Json)
    (o : Option α) :
    get? key (ofList (Json.entryIfSome name write o)) =
      if name = key then o.map write else none := by
  cases o with
  | none => simp [Json.entryIfSome]
  | some a => simp [Json.entryIfSome]

theorem get?_entryIfSome {α : Type} (key name : String) (write : α → Json) (o : Option α) :
    get? key (Json.entryIfSome name write o) = if name = key then o.map write else none := by
  cases o with
  | none => simp [Json.entryIfSome, get?]
  | some a => simp [Json.entryIfSome, get?]

@[simp] theorem get?_ofList_unless (key name : String) (value : Json) (p : Prop) [Decidable p] :
    get? key (ofList (if p then [] else [(name, value)])) =
      if p then none else if name = key then some value else none := by
  split
  · rfl
  · simp

end Dict

@[simp] theorem Json.record?_ofEntries (names : List String) (least : Nat)
    (entries : List (String × Json)) :
    (Json.ofEntries entries).record? names least =
      some fun name => Dict.get? name (Dict.ofList entries) := by
  unfold Json.ofEntries Json.record?
  rfl

/-! ## What a reader answers -/

/-- What is written is read back. -/
def Json.RoundTrips {α : Type} (write : α → Json) (read : Json → Option α) : Prop :=
  ∀ a, read (write a) = some a

namespace Field

open Json (RoundTrips)

variable {α : Type} {write : α → Json} {read : Json → Option α}

theorem roundTrips_str : RoundTrips Json.str Json.asString? := by
  intro text
  rfl

theorem roundTrips_float : RoundTrips Json.float Json.asDouble? := by
  intro d
  rfl

theorem roundTrips_obj : RoundTrips Json.obj Json.asObject? := by
  intro fields
  rfl

theorem roundTrips_word32 : RoundTrips Json.ofWord32 word32? := by
  intro n
  have hlower : (0 : Int) ≤ (n.toNat : Int) := Int.natCast_nonneg _
  have hupper : (n.toNat : Int) < 4294967296 := by
    have hn : n.toNat < 4294967296 := n.toNat_lt
    omega
  show (if (0 : Int) ≤ (n.toNat : Int) ∧ (n.toNat : Int) < 4294967296 then
    some (UInt32.ofNat (n.toNat : Int).toNat) else none) = some n
  rw [if_pos ⟨hlower, hupper⟩, Int.toNat_natCast, UInt32.ofNat_toNat]

theorem roundTrips_list (h : RoundTrips write read) :
    RoundTrips (fun items : List α => .arr (items.map write)) (list? read) := by
  intro items
  show (items.map write).mapM read = some items
  induction items with
  | nil => rfl
  | cons a items ih => simp [h a, ih]

theorem roundTrips_strings : RoundTrips Json.ofStrings (list? Json.asString?) :=
  roundTrips_list roundTrips_str

/-- A field that is always written. -/
theorem required_some (h : RoundTrips write read) (a : α) :
    required read (some (write a)) = some a := h a

/-- A field that is left out when there is no value. -/
theorem optional_map (h : RoundTrips write read) (hnull : ∀ a, write a ≠ .null) (o : Option α) :
    optional read (o.map write) = some o := by
  cases o with
  | none => rfl
  | some a =>
    have hsome : optional read (some (write a)) = (read (write a)).map some := by
      cases hw : write a with
      | null => exact absurd hw (hnull a)
      | _ => rfl
    rw [Option.map_some, hsome, h a, Option.map_some]

/-- A field that is null when there is no value. -/
theorem optional_ofOption (h : RoundTrips write read) (hnull : ∀ a, write a ≠ .null)
    (o : Option α) : optional read (some (Json.ofOption write o)) = some o := by
  cases o with
  | none => rfl
  | some a => exact optional_map h hnull (some a)

/-- A list that is left out when it is empty. -/
theorem withDefault_unless {β : Type} {write : List β → Json} {read : Json → Option (List β)}
    (h : RoundTrips write read) (items : List β) [Decidable (items = [])] :
    withDefault [] read (if items = [] then none else some (write items)) = some items := by
  split
  · rename_i hempty
    rw [hempty]
    rfl
  · exact h items

/-- A list that is always written. -/
theorem withDefault_some (h : RoundTrips write read) (standard a : α) :
    withDefault standard read (some (write a)) = some a := h a

end Field

/-! ## Records -/

open RetrievalKit.Field

theorem TokenUsage.roundTrips : Json.RoundTrips TokenUsage.toJson TokenUsage.ofJson? := by
  intro u
  -- Without the option the kernel compares the readers of two fields by running them on a word.
  simp -implicitDefEqProofs [toJson, ofJson?, required_some roundTrips_word32]

theorem Chunk.roundTrips : Json.RoundTrips Chunk.toJson Chunk.ofJson? := by
  intro c
  have husage := optional_map TokenUsage.roundTrips (fun _ => nofun) c.usage
  simp [toJson, ofJson?, required_some roundTrips_str, husage]

/-- The role of a message tells which fields are read. -/
theorem Message.ofJson?_toJson (m : Message) : ofJson? m.toJson = ofFields? m.role m.toJson := by
  have hrole : m.toJson.get? "role" = some (.str m.role) := by
    simp [toJson, metadataEntries, Json.get?, Json.ofEntries]
  show (required Json.asString? (m.toJson.get? "role") >>= fun role => ofFields? role m.toJson) = _
  rw [hrole, required_some roundTrips_str]
  rfl

theorem Message.roundTrips : Json.RoundTrips Message.toJson Message.ofJson? := by
  intro m
  rw [ofJson?_toJson]
  have hid (o : Option String) : optional Json.asString? (o.map .str) = some o :=
    optional_map roundTrips_str (fun _ => nofun) o
  cases m with
  | system content id =>
    simp [toJson, ofFields?, role, Message.content, id?, metadataEntries, responseMetadata?,
      required_some roundTrips_str, hid]
  | human content id =>
    simp [toJson, ofFields?, role, Message.content, id?, metadataEntries, responseMetadata?,
      required_some roundTrips_str, hid]
  | assistant content id metadata =>
    simp [toJson, ofFields?, role, Message.content, id?, metadataEntries, responseMetadata?,
      required_some roundTrips_str, hid, withDefault_unless roundTrips_obj]

theorem ChatRequest.roundTrips : Json.RoundTrips ChatRequest.toJson ChatRequest.ofJson? := by
  intro r
  have hmessages := required_some (roundTrips_list Message.roundTrips) r.messages
  have htemperature := optional_map roundTrips_float (fun _ => nofun) r.temperature
  have hmaxTokens := optional_map roundTrips_word32 (fun _ => nofun) r.maxTokens
  simp -implicitDefEqProofs [toJson, ofJson?, hmessages, htemperature, hmaxTokens,
    withDefault_unless roundTrips_strings]

theorem ChatResponse.roundTrips : Json.RoundTrips ChatResponse.toJson ChatResponse.ofJson? := by
  intro r
  have husage := optional_ofOption TokenUsage.roundTrips (fun _ => nofun) r.usage
  simp [toJson, ofJson?, required_some Message.roundTrips, husage]

theorem RunConfig.roundTrips : Json.RoundTrips RunConfig.toJson RunConfig.ofJson? := by
  intro c
  have hname (o : Option String) : optional Json.asString? (some (Json.ofOption .str o)) = some o :=
    optional_ofOption roundTrips_str (fun _ => nofun) o
  simp [toJson, ofJson?, withDefault_some roundTrips_strings, withDefault_some roundTrips_obj,
    hname]

theorem Document.roundTrips : Json.RoundTrips Document.toJson Document.ofJson? := by
  intro d
  simp [toJson, ofJson?, withDefault_some roundTrips_str, required_some roundTrips_str,
    withDefault_unless roundTrips_obj]

/-- **What is written as JSON is read back.**  This holds of messages of every role, with any
identifier and metadata, and of all that is made of them. -/
theorem Json.roundTrips_records :
    RoundTrips Message.toJson Message.ofJson? ∧ RoundTrips Chunk.toJson Chunk.ofJson? ∧
    RoundTrips ChatRequest.toJson ChatRequest.ofJson? ∧
    RoundTrips ChatResponse.toJson ChatResponse.ofJson? ∧
    RoundTrips TokenUsage.toJson TokenUsage.ofJson? ∧
    RoundTrips RunConfig.toJson RunConfig.ofJson? ∧
    RoundTrips Document.toJson Document.ofJson? :=
  ⟨Message.roundTrips, Chunk.roundTrips, ChatRequest.roundTrips, ChatResponse.roundTrips,
    TokenUsage.roundTrips, RunConfig.roundTrips, Document.roundTrips⟩

end RetrievalKit
