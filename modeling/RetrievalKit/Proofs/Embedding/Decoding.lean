import Mathlib.Data.List.Forall2
import RetrievalKit.Cohere.Embed
import RetrievalKit.HuggingFace.Embed
import RetrievalKit.Proofs.Wire.Action
import RetrievalKit.Proofs.Wire.Outcomes

/-!
# What an embedder reads from a reply

The vectors stand in one part of a reply, as an array of arrays of numbers.  An embedder answers
them as they stand, but it looks only at the two outer levels: what stands in place of a number is
read as zero.

* `EmbeddingService` — the services, with their requests and the part of a reply that counts;
* `IsVectorOf`, `IsMatrixOf` — an array of numbers and an array of such arrays, component by
  component;
* `Decodes` — the answer is what the part says, or an error if it says nothing;
* `FillsIn` — the part is an array of arrays, but not all of their items are numbers;
* `EmbeddingService.decode_eq_ok`, `decode_eq_error` — what becomes of a part;
* `EmbeddingService.embed_of_reply` — an embedder decodes a reply if and only if it has nothing to
  fill in.
-/

namespace RetrievalKit

/-! ## Vectors -/

/-- A JSON number and its value in single precision.  A whole number is a double before. -/
inductive Rounds : Json → Single → Prop
  | integer (n : Int) : Rounds (.int n) (Single.ofDouble (Double.ofInt n))
  | number (d : Double) : Rounds (.float d) (Single.ofDouble d)

/-- An array of numbers, and these numbers. -/
def IsVectorOf (row : Json) (v : Vector32) : Prop :=
  ∃ items, row = .arr items ∧ List.Forall₂ Rounds items v

/-- An array of arrays of numbers, and the vectors in order. -/
def IsMatrixOf (part : Option Json) (vs : List Vector32) : Prop :=
  ∃ rows, part = some (.arr rows) ∧ List.Forall₂ IsVectorOf rows vs

/-- The answer is what is picked from the vectors of a part; an embedding error if it has none, or
if there is nothing to pick. -/
inductive Decodes {β : Type} (part : Option Json) (pick : List Vector32 → Option β) :
    Except Error β → Prop
  | answer {vs : List Vector32} {a : β} (h : IsMatrixOf part vs) (ha : pick vs = some a) :
    Decodes part pick (.ok a)
  | refused {e : Error} (h : ∀ vs a, IsMatrixOf part vs → pick vs ≠ some a)
    (hkind : e.kind = .embedding) : Decodes part pick (.error e)

/-- A component as it is read: a number, or zero in place of anything else. -/
inductive ReadsAs (v : Json) : Single → Prop
  | number {x : Single} (h : Rounds v x) : ReadsAs v x
  | other (h : ∀ x, ¬ Rounds v x) : ReadsAs v (Single.ofDouble Double.zero)

/-- An array of anything, and the vector that is read from it. -/
def ReadsAsVector (row : Json) (v : Vector32) : Prop :=
  ∃ items, row = .arr items ∧ List.Forall₂ ReadsAs items v

/-- The part is an array of arrays. -/
def HasRows (part : Option Json) : Prop :=
  ∃ rows, part = some (.arr rows) ∧ ∀ row ∈ rows, ∃ items, row = .arr items

/-- The part is an array of arrays, and something in one of them is no number. -/
def FillsIn (part : Option Json) : Prop :=
  HasRows part ∧ ∃ rows items, part = some (.arr rows) ∧ .arr items ∈ rows ∧
    ∃ v ∈ items, ∀ x, ¬ Rounds v x

/-- What an answer has to do with a part. -/
structure Decoded {β : Type} (part : Option Json) (pick : List Vector32 → Option β)
    (r : Except Error β) : Prop where
  /-- An error is one of embedding. -/
  kind : ∀ e, r = .error e → e.kind = .embedding
  /-- An answer keeps the shape of the part, and every number in its place. -/
  shape : ∀ a, r = .ok a → ∃ rows vs, part = some (.arr rows) ∧
    List.Forall₂ ReadsAsVector rows vs ∧ pick vs = some a
  /-- It is no other than the part says, if there is nothing to fill in. -/
  faithful : Decodes part pick r ↔ ¬ FillsIn part
  /-- Something to fill in does not keep it from being an answer. -/
  fills : FillsIn part → ∃ a, r = .ok a

/-! ## Reading components -/

theorem readsAs_component (v : Json) :
    ReadsAs v (Single.ofDouble (v.asDouble?.getD Double.zero)) := by
  cases v with
  | int n =>
    have hvalue : (Json.int n).asDouble? = some (Double.ofInt n) := rfl
    rw [hvalue, Option.getD_some]
    exact .number (.integer n)
  | float d => exact .number (.number d)
  | _ => exact .other nofun

theorem readsAsVector_ofItems (items : List Json) :
    ReadsAsVector (.arr items) (Vector32.ofItems items) := by
  refine ⟨items, rfl, ?_⟩
  unfold Vector32.ofItems
  rw [List.forall₂_map_right_iff]
  exact List.forall₂_same.mpr fun v _ => readsAs_component v

theorem ReadsAsVector.isVectorOf {items : List Json} {v : Vector32}
    (h : ReadsAsVector (.arr items) v) (hnumbers : ∀ item ∈ items, ∃ x, Rounds item x) :
    IsVectorOf (.arr items) v := by
  obtain ⟨_, ⟨⟩, hreads⟩ := h
  refine ⟨items, rfl, ?_⟩
  induction hreads with
  | nil => exact .nil
  | cons hitem hrest ih =>
    obtain ⟨⟨x, hx⟩, hnumbers⟩ := List.forall_mem_cons.mp hnumbers
    cases hitem with
    | number h => exact .cons h (ih hnumbers)
    | other h => exact absurd hx (h x)

/-- What a relation says about its left side holds of every item on that side. -/
theorem forall_of_forall₂ {α β : Type} {R : α → β → Prop} {p : α → Prop}
    (hp : ∀ x y, R x y → p x) {xs : List α} {ys : List β} (h : List.Forall₂ R xs ys) :
    ∀ x ∈ xs, p x :=
  ((List.forall₂_and_left xs ys).mp (h.imp fun x y hxy => And.intro (hp x y hxy) hxy)).1

theorem IsVectorOf.exists_rounds {items : List Json} {v : Vector32}
    (h : IsVectorOf (.arr items) v) : ∀ item ∈ items, ∃ x, Rounds item x := by
  obtain ⟨_, ⟨⟩, hrounds⟩ := h
  exact forall_of_forall₂ (fun _ x hx => ⟨x, hx⟩) hrounds

theorem IsVectorOf.readsAs {row : Json} {v : Vector32} (h : IsVectorOf row v) :
    ReadsAsVector row v := by
  obtain ⟨items, hrow, hrounds⟩ := h
  exact ⟨items, hrow, hrounds.imp fun _ _ hx => .number hx⟩

theorem hasRows_of_reads {rows : List Json} {vs : List Vector32}
    (h : List.Forall₂ ReadsAsVector rows vs) : HasRows (some (.arr rows)) :=
  ⟨rows, rfl, forall_of_forall₂ (fun _ _ ⟨items, hrow, _⟩ => ⟨items, hrow⟩) h⟩

theorem IsMatrixOf.hasRows {part : Option Json} {vs : List Vector32} (h : IsMatrixOf part vs) :
    HasRows part := by
  obtain ⟨rows, rfl, hrows⟩ := h
  exact hasRows_of_reads (hrows.imp fun _ _ hv => hv.readsAs)

/-- An array of arrays of numbers has nothing to fill in. -/
theorem IsMatrixOf.not_fillsIn {part : Option Json} {vs : List Vector32} (h : IsMatrixOf part vs) :
    ¬ FillsIn part := by
  rintro ⟨-, rows, items, hrows, hitems, v, hv, hnone⟩
  obtain ⟨_, hpart, hvectors⟩ := h
  obtain ⟨⟩ := hrows.symm.trans hpart
  obtain ⟨vector, hvector⟩ := forall_of_forall₂ (fun _ v hv => Exists.intro v hv) hvectors _ hitems
  obtain ⟨x, hx⟩ := hvector.exists_rounds v hv
  exact hnone x hx

/-- If nothing is filled in, the vectors are those of the part. -/
theorem isMatrixOf_of_reads {rows : List Json} {vs : List Vector32}
    (h : List.Forall₂ ReadsAsVector rows vs) (hfull : ¬ FillsIn (some (.arr rows))) :
    IsMatrixOf (some (.arr rows)) vs := by
  have hnumbers : ∀ row ∈ rows, ∀ items, row = .arr items → ∀ v ∈ items, ∃ x, Rounds v x := by
    rintro row hrow items rfl v hv
    by_contra hnone
    exact hfull ⟨hasRows_of_reads h, rows, items, rfl, hrow, v, hv, not_exists.mp hnone⟩
  refine ⟨rows, rfl, ((List.forall₂_and_left rows vs).mpr ⟨hnumbers, h⟩).imp fun row v hrow => ?_⟩
  obtain ⟨hnumbers, items, rfl, hreads⟩ := hrow
  exact ReadsAsVector.isVectorOf ⟨items, rfl, hreads⟩ (hnumbers items rfl)

/-! ## Services -/

/-- A service that embeds texts, with its settings. -/
inductive EmbeddingService where
  | cohere (c : Cohere.EmbedConfig)
  | huggingFace (c : HuggingFace.EmbedConfig)

namespace EmbeddingService

variable {σ : Type}

def embedder (backend : Backend σ) : EmbeddingService → Embedder σ
  | .cohere c => Cohere.Embed.embedder c backend
  | .huggingFace c => HuggingFace.Embed.embedder c backend

/-- What is sent for documents. -/
def documentsRequest (texts : List String) : EmbeddingService → Request
  | .cohere c => Cohere.request c.baseUrl "embed" c.apiKey (Cohere.Embed.body c texts c.inputType)
  | .huggingFace c => HuggingFace.Embed.request c texts

/-- What is sent for a query. -/
def queryRequest (text : String) : EmbeddingService → Request
  | .cohere c =>
    Cohere.request c.baseUrl "embed" c.apiKey (Cohere.Embed.body c [text] c.queryInputType)
  | .huggingFace c => HuggingFace.Embed.request c [text]

/-- The part of a body in which the vectors stand. -/
def part (body : Json) : EmbeddingService → Option Json
  | .cohere _ => (body.get? "embeddings").bind (Json.get? "float")
  | .huggingFace _ =>
    match body with
    | .arr _ => some body
    | _ => body.get? "embeddings"

/-- How a service reads one vector. -/
def row : EmbeddingService → Json → Except Error Vector32
  | .cohere _ => Cohere.Embed.vector
  | .huggingFace _ => HuggingFace.Embed.vector

/-- The error about a part that is no array. -/
def noPart : EmbeddingService → Error
  | .cohere _ => ⟨.embedding, "missing embeddings.float"⟩
  | .huggingFace _ => ⟨.embedding, "unexpected HuggingFace response format"⟩

/-- The error about a query without a vector. -/
def noVector : EmbeddingService → Error
  | .cohere _ => ⟨.embedding, "empty response"⟩
  | .huggingFace _ => ⟨.embedding, "empty HuggingFace response"⟩

/-- What a service makes of the part. -/
def decode (s : EmbeddingService) (part : Option Json) : Except Error (List Vector32) :=
  match part.bind Json.asArray? with
  | some rows => rows.mapM s.row
  | none => .error s.noPart

/-- What is picked from the vectors, or an error if there is nothing. -/
def picked {β : Type} (pick : List Vector32 → Option β) (nothing : Error) (vs : List Vector32) :
    Except Error β :=
  match pick vs with
  | some a => .ok a
  | none => .error nothing

/-! ## Decoding -/

variable (s : EmbeddingService) {found : Option Json}

theorem row_of_array (items : List Json) : s.row (.arr items) = .ok (Vector32.ofItems items) := by
  cases s <;> rfl

theorem row_eq_ok {v : Json} {x : Vector32} (h : s.row v = .ok x) : ReadsAsVector v x := by
  cases v with
  | arr items =>
    rw [row_of_array] at h
    cases h
    exact readsAsVector_ofItems items
  | _ => cases s <;> cases h

theorem row_eq_error {v : Json} {e : Error} (h : s.row v = .error e) :
    e.kind = .embedding ∧ ∀ items, v ≠ .arr items := by
  cases v with
  | arr items =>
    rw [row_of_array] at h
    cases h
  | _ => cases s <;> cases h <;> exact ⟨rfl, nofun⟩

theorem decode_eq_ok {vs : List Vector32} (h : s.decode found = .ok vs) :
    ∃ rows, found = some (.arr rows) ∧ List.Forall₂ ReadsAsVector rows vs := by
  unfold decode at h
  split at h
  · rename_i rows hrows
    obtain ⟨v, hfound, harray⟩ := Option.bind_eq_some_iff.mp hrows
    obtain rfl := Json.asArray?_eq_some_iff.mp harray
    exact ⟨rows, hfound, forall₂_of_mapM (fun _ _ => s.row_eq_ok) h⟩
  · cases h

theorem decode_eq_error {e : Error} (h : s.decode found = .error e) :
    e.kind = .embedding ∧ ¬ HasRows found := by
  unfold decode at h
  split at h
  · rename_i rows hrows
    obtain ⟨v, hfound, harray⟩ := Option.bind_eq_some_iff.mp hrows
    obtain rfl := Json.asArray?_eq_some_iff.mp harray
    obtain ⟨row, hrow, herror⟩ := mapM_eq_error h
    obtain ⟨hkind, hnone⟩ := s.row_eq_error herror
    refine ⟨hkind, ?_⟩
    rintro ⟨rows', hrows', harrays⟩
    obtain ⟨⟩ := hfound.symm.trans hrows'
    obtain ⟨items, hitems⟩ := harrays row hrow
    exact hnone items hitems
  · rename_i hnone
    cases h
    refine ⟨by cases s <;> rfl, ?_⟩
    rintro ⟨rows, rfl, -⟩
    cases hnone

/-- What is picked from the vectors of a service, where only from no vectors nothing is picked. -/
theorem decoded_picked {β : Type} {pick : List Vector32 → Option β} {nothing : Error}
    (hpick : ∀ vs, pick vs = none → vs = []) (hnothing : nothing.kind = .embedding) :
    Decoded found pick (s.decode found >>= picked pick nothing) := by
  cases h : s.decode found with
  | error e =>
    obtain ⟨hkind, hrows⟩ := s.decode_eq_error h
    have hfull : ¬ FillsIn found := fun hfills => hrows hfills.1
    have hnone : ∀ vs a, IsMatrixOf found vs → pick vs ≠ some a := fun vs a hvs =>
      absurd hvs.hasRows hrows
    refine ⟨?_, nofun, iff_of_true (.refused hnone hkind) hfull, fun h => absurd h hfull⟩
    rintro _ ⟨⟩
    exact hkind
  | ok vs =>
    obtain ⟨rows, rfl, hrows⟩ := s.decode_eq_ok h
    show Decoded (some (.arr rows)) pick (picked pick nothing vs)
    unfold picked
    cases ha : pick vs with
    | some a =>
      refine ⟨nofun, ?_, ?_, fun _ => ⟨a, rfl⟩⟩
      · rintro _ ⟨⟩
        exact ⟨rows, vs, rfl, hrows, ha⟩
      · constructor
        · rintro ⟨hvs, -⟩
          exact hvs.not_fillsIn
        · exact fun hfull => .answer (isMatrixOf_of_reads hrows hfull) ha
    | none =>
      -- Only from no rows at all nothing is picked, and then nothing can be filled in.
      obtain rfl := hpick vs ha
      cases hrows
      have hfull : ¬ FillsIn (some (.arr [])) := by
        rintro ⟨-, _, items, ⟨⟩, hitems, -⟩
        cases hitems
      have hnone : ∀ vs a, IsMatrixOf (some (.arr [])) vs → pick vs ≠ some a := by
        rintro vs a ⟨_, ⟨⟩, ⟨⟩⟩
        rw [ha]
        nofun
      refine ⟨?_, nofun, iff_of_true (.refused hnone hnothing) hfull, fun h => absurd h hfull⟩
      rintro _ ⟨⟩
      exact hnothing

/-! ## Replies -/

section Replies

variable {reply : Reply} {w w' : σ} {backend : Backend σ}

theorem vectors_cohere (hstatus : reply.status < 400) (c : Cohere.EmbedConfig) :
    Cohere.Embed.vectors reply = (cohere c).decode ((cohere c).part reply.body) := by
  have hcheck : Cohere.checkReply "embed" .embedding reply = .ok () :=
    Reply.check_of_status hstatus _ _ _
  have hpart : ((reply.body.field "embeddings").field "float").asArray? =
      ((reply.body.get? "embeddings").bind (Json.get? "float")).bind Json.asArray? := by
    rw [Json.read_field Json.asArray? rfl, Json.read_field (Json.get? "float") rfl]
  unfold Cohere.Embed.vectors decode part
  rw [hcheck, hpart]
  rfl

theorem vectors_huggingFace (hstatus : reply.status < 400) (c : HuggingFace.EmbedConfig) :
    HuggingFace.Embed.vectors reply = (huggingFace c).decode ((huggingFace c).part reply.body) := by
  have hcheck := Reply.check_of_status hstatus "HuggingFace" .embedding Json.render
  have hpart : reply.body.asArray?.or ((reply.body.get? "embeddings").bind Json.asArray?) =
      ((huggingFace c).part reply.body).bind Json.asArray? := by
    unfold part
    cases reply.body <;> rfl
  unfold HuggingFace.Embed.vectors HuggingFace.Embed.vectorsOfBody decode
  rw [hcheck, hpart]
  rfl

theorem run_batch_cohere (hstatus : reply.status < 400) {c : Cohere.EmbedConfig}
    {texts : List String} (hne : texts ≠ []) {t : Cohere.InputType}
    (hreply : (backend.send (Cohere.request c.baseUrl "embed" c.apiKey
      (Cohere.Embed.body c texts t))).run w = (.ok reply, w')) :
    (Cohere.Embed.batch c backend texts t).run w =
      ((cohere c).decode ((cohere c).part reply.body), w') := by
  have hsome : ¬ texts.isEmpty = true := by simpa using hne
  unfold Cohere.Embed.batch
  rw [if_neg hsome, Action.run_bind_of_ok hreply, ← vectors_cohere hstatus]
  rfl

theorem run_batch_huggingFace (hstatus : reply.status < 400) {c : HuggingFace.EmbedConfig}
    {texts : List String} (hne : texts ≠ [])
    (hreply : (backend.send (HuggingFace.Embed.request c texts)).run w = (.ok reply, w')) :
    (HuggingFace.Embed.batch c backend texts).run w =
      ((huggingFace c).decode ((huggingFace c).part reply.body), w') := by
  have hsome : ¬ texts.isEmpty = true := by simpa using hne
  unfold HuggingFace.Embed.batch
  rw [if_neg hsome, Action.run_bind_of_ok hreply, ← vectors_huggingFace hstatus]
  rfl

theorem run_embedDocuments (hstatus : reply.status < 400) {texts : List String} (hne : texts ≠ [])
    (hreply : (backend.send (s.documentsRequest texts)).run w = (.ok reply, w')) :
    ((s.embedder backend).embedDocuments texts).run w = (s.decode (s.part reply.body), w') := by
  cases s with
  | cohere c => exact run_batch_cohere hstatus hne hreply
  | huggingFace c => exact run_batch_huggingFace hstatus hne hreply

/-- The last vector of a batch. -/
theorem run_last {batch : Action σ (List Vector32)} {r : Except Error (List Vector32)}
    (h : batch.run w = (r, w')) (nothing : Error) :
    (do
      let found ← batch
      match found.getLast? with
      | some v => pure v
      | none => throw nothing).run w = (r >>= picked List.getLast? nothing, w') := by
  rw [Action.run_bind, h]
  cases r with
  | error e => rfl
  | ok vs =>
    show (match vs.getLast? with
      | some v => (pure v : Action σ Vector32)
      | none => throw nothing).run w' = (picked List.getLast? nothing vs, w')
    unfold picked
    cases vs.getLast? <;> rfl

theorem run_embedQuery (hstatus : reply.status < 400) {text : String}
    (hreply : (backend.send (s.queryRequest text)).run w = (.ok reply, w')) :
    ((s.embedder backend).embedQuery text).run w =
      (s.decode (s.part reply.body) >>= picked List.getLast? s.noVector, w') := by
  cases s with
  | cohere c =>
    exact run_last (run_batch_cohere hstatus (List.cons_ne_nil text []) hreply) _
  | huggingFace c =>
    exact run_last (run_batch_huggingFace hstatus (List.cons_ne_nil text []) hreply) _

/-- **An embedder decodes a reply exactly, unless it has something to fill in.**  Of a reply that is
no failure only one part counts.  Where it is an array of arrays of numbers the answer has these
numbers in single precision, in their places; where it is no array of arrays the answer is an
embedding error.  In between, where something in the arrays is no number, the answer is neither:
there is a zero in its place.  Of a query the answer is the last vector. -/
theorem embed_of_reply (s : EmbeddingService) (backend : Backend σ) {reply : Reply}
    (hstatus : reply.status < 400) (w w' : σ) :
    (∀ texts, texts ≠ [] → (backend.send (s.documentsRequest texts)).run w = (.ok reply, w') →
      let answer := ((s.embedder backend).embedDocuments texts).run w
      answer.2 = w' ∧ Decoded (s.part reply.body) some answer.1) ∧
    ∀ text, (backend.send (s.queryRequest text)).run w = (.ok reply, w') →
      let answer := ((s.embedder backend).embedQuery text).run w
      answer.2 = w' ∧ Decoded (s.part reply.body) List.getLast? answer.1 := by
  constructor
  · intro texts hne hreply answer
    have hanswer : answer = (s.decode (s.part reply.body), w') :=
      s.run_embedDocuments hstatus hne hreply
    have hpicked : s.decode (s.part reply.body) >>= picked some s.noVector =
        s.decode (s.part reply.body) := by
      cases s.decode (s.part reply.body) <;> rfl
    rw [hanswer, ← hpicked]
    refine ⟨rfl, s.decoded_picked nofun ?_⟩
    cases s <;> rfl
  · intro text hreply answer
    have hanswer : answer =
        (s.decode (s.part reply.body) >>= picked List.getLast? s.noVector, w') :=
      s.run_embedQuery hstatus hreply
    rw [hanswer]
    refine ⟨rfl, s.decoded_picked (fun vs => List.getLast?_eq_none_iff.mp) ?_⟩
    cases s <;> rfl

/-- Two vectors of whole numbers, for documents and for a query. -/
theorem embed_of_reply_whole :
    let reply : Reply := ⟨200, .obj [("embeddings", .obj [("float",
      .arr [.arr [.int 1, .int 2], .arr [.int 3]])])]⟩
    let backend : Backend Unit := ⟨fun _ => pure reply, fun _ => pure []⟩
    let s := cohere (.new "key")
    Decodes (s.part reply.body) some (((s.embedder backend).embedDocuments ["a", "b"]).run ()).1 ∧
      Decodes (s.part reply.body) List.getLast?
        (((s.embedder backend).embedQuery "q").run ()).1 := by
  intro reply backend s
  have hfull : ¬ FillsIn (s.part reply.body) := by
    have hmatrix : IsMatrixOf (s.part reply.body)
        [[Single.ofDouble (.ofInt 1), Single.ofDouble (.ofInt 2)], [Single.ofDouble (.ofInt 3)]] :=
      ⟨_, rfl, .cons ⟨_, rfl, .cons (.integer 1) (.cons (.integer 2) .nil)⟩
        (.cons ⟨_, rfl, .cons (.integer 3) .nil⟩ .nil)⟩
    exact hmatrix.not_fillsIn
  have hstatus : reply.status < 400 := by decide
  obtain ⟨hdocuments, hquery⟩ := embed_of_reply s backend hstatus () ()
  obtain ⟨-, hdocuments⟩ := hdocuments ["a", "b"] (List.cons_ne_nil _ _) rfl
  obtain ⟨-, hquery⟩ := hquery "q" rfl
  exact ⟨hdocuments.faithful.mpr hfull, hquery.faithful.mpr hfull⟩

/-- A vector for each token, where one for the text is wanted, and a null where a number is: the
answer is no error, and has a zero in place of each. -/
theorem fills_in_nested :
    let tokens : Json := .arr [.arr [.arr [.int 1], .arr [.int 2]]]
    let hole : Json := .obj [("embeddings", .obj [("float", .arr [.arr [.null]])])]
    let backend : Json → Backend Unit := fun body => ⟨fun _ => pure ⟨200, body⟩, fun _ => pure []⟩
    let s := huggingFace ⟨"org/m", none, "http://hf", true⟩
    let t := cohere (.new "key")
    let zero := Single.ofDouble Double.zero
    ((s.embedder (backend tokens)).embedQuery "q").run () = (.ok [zero, zero], ()) ∧
      ¬ Decodes (s.part tokens) List.getLast? (.ok [zero, zero]) ∧
      ((t.embedder (backend hole)).embedDocuments ["a"]).run () = (.ok [[zero]], ()) ∧
      ¬ Decodes (t.part hole) some (.ok [[zero]]) := by
  intro tokens hole backend s t zero
  have hfills : ∀ item items, (∀ x, ¬ Rounds item x) →
      FillsIn (some (.arr [.arr (item :: items)])) := by
    intro item items hnone
    refine ⟨⟨_, rfl, fun row hrow => ?_⟩, _, _, rfl, List.mem_singleton_self _, item,
      List.mem_cons_self, hnone⟩
    exact ⟨_, List.mem_singleton.mp hrow⟩
  refine ⟨rfl, ?_, rfl, ?_⟩
  · rintro ⟨hvs, -⟩
    exact hvs.not_fillsIn (hfills _ _ nofun)
  · rintro ⟨hvs, -⟩
    exact hvs.not_fillsIn (hfills _ _ nofun)

end Replies

end EmbeddingService

end RetrievalKit
