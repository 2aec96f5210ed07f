import RetrievalKit.Proofs.Surreal.Operation
import RetrievalKit.Proofs.Surreal.Replies
import RetrievalKit.Wire.Retry

/-!
# Writing over a retrying backend

What adding documents leaves in the table when requests are repeated and replies may be lost.  A
record under the caller's identifier is written again in the same place; a record under a key of
the database's choice is created once more by every attempt that is executed.

* `Wrote` — what a table holds after documents were written to it some number of times;
* `wrote_performAll`, `Wrote.trans` — writing once, and writing again;
* `retryFrom_send` — a repeated request that succeeds was executed once, and once more for each
  reply that was lost;
* `Store.wrote_addDocuments` — the table after documents were added.
-/

namespace RetrievalKit.Surreal

/-! ## Written tables -/

/-- The record that documents leave under the caller's identifier: that of the last one. -/
def ownContent : List (Document × Vector32) → String → Option Json
  | [], _ => none
  | (d, vector) :: documents, id =>
    (ownContent documents id).or
      (if d.hasId = true ∧ d.id = id then some (Command.record d vector) else none)

/-- The records of the documents without identifier. -/
def newContents (documents : List (Document × Vector32)) : List Json :=
  (documents.filter fun d => !d.1.hasId).map fun d => Command.record d.1 d.2

/-- Documents were written a number of times to a table.  Each time created a record for each
document without identifier, under a key of its own; under the identifiers of the others there is
the record of the last one; nothing else has changed. -/
structure Wrote (documents : List (Document × Vector32)) (times : Nat)
    (created : List (String × Json)) (before after : Dict) : Prop where
  contents : created.map (·.2) = (List.replicate times (newContents documents)).flatten
  nodup : (created.map (·.1)).Nodup
  new : ∀ key ∈ created.map (·.1), Dict.get? key before = none
  table : ∀ key, Dict.get? key after =
    (ownContent documents key).or ((Dict.get? key created).or (Dict.get? key before))

theorem wrote_nil (times : Nat) (before : Dict) : Wrote [] times [] before before := by
  constructor
  · induction times with
    | zero => rfl
    | succ times ih => exact ih
  · exact List.nodup_nil
  · intro key hkey
    cases hkey
  · intro key
    rfl

section Writes

variable {documents : List (Document × Vector32)} {before middle after : Dict}

/-- Created keys are held afterwards. -/
theorem Wrote.get?_ne_none {times : Nat} {created : List (String × Json)}
    (h : Wrote documents times created before after) {key : String}
    (hkey : key ∈ created.map (·.1)) : Dict.get? key after ≠ none := by
  obtain ⟨content, hget⟩ := (Dict.mem_keys_iff key created).mp hkey
  rw [h.table key, hget]
  cases ownContent documents key with
  | none => simp
  | some own => simp

/-- Writing the same documents again. -/
theorem Wrote.trans {m n : Nat} {created created' : List (String × Json)}
    (h : Wrote documents m created before middle) (h' : Wrote documents n created' middle after) :
    Wrote documents (m + n) (created ++ created') before after := by
  -- What the first writing created is held when the second one chooses its keys.
  have hapart : ∀ key ∈ created.map (·.1), key ∉ created'.map (·.1) := fun key hkey hkey' =>
    h.get?_ne_none hkey (h'.new key hkey')
  constructor
  · rw [List.map_append, h.contents, h'.contents, ← List.flatten_append,
      List.replicate_append_replicate]
  · rw [List.map_append]
    refine List.nodup_append.mpr ⟨h.nodup, h'.nodup, ?_⟩
    intro key hkey key' hkey' heq
    exact hapart key hkey (heq ▸ hkey')
  · intro key hkey
    rw [List.map_append, List.mem_append] at hkey
    rcases hkey with hkey | hkey
    · exact h.new key hkey
    · have hnone := h'.new key hkey
      rw [h.table key, Option.or_eq_none_iff, Option.or_eq_none_iff] at hnone
      exact hnone.2.2
  · intro key
    rw [h'.table key, h.table key, Dict.get?_append]
    cases hown : ownContent documents key with
    | some own => rfl
    | none =>
      cases hsecond : Dict.get? key created' with
      | none => simp
      | some content =>
        have hmem : key ∈ created'.map (·.1) :=
          (Dict.mem_keys_iff key created').mpr ⟨content, hsecond⟩
        have hfirst : Dict.get? key created = none :=
          (Dict.get?_eq_none_iff key created).mpr fun hkey => hapart key hkey hmem
        rw [hfirst]
        rfl

theorem Wrote.cons_own {d : Document} {vector : Vector32} {created : List (String × Json)}
    (hid : d.hasId = true)
    (h : Wrote documents 1 created (before.insert d.id (Command.record d vector)) after) :
    Wrote ((d, vector) :: documents) 1 created before after := by
  have hnew : newContents ((d, vector) :: documents) = newContents documents := by
    unfold newContents
    rw [List.filter_cons_of_neg (by simp [hid])]
  have hbefore : ∀ key, Dict.get? key (before.insert d.id (Command.record d vector)) =
      (if d.hasId = true ∧ d.id = key then some (Command.record d vector) else none).or
        (Dict.get? key before) := by
    intro key
    rw [Dict.get?_insert]
    by_cases heq : d.id = key
    · rw [if_pos heq, if_pos ⟨hid, heq⟩]
      rfl
    · rw [if_neg heq, if_neg fun h => heq h.2]
      rfl
  constructor
  · rw [hnew]
    exact h.contents
  · exact h.nodup
  · intro key hkey
    have hnone := h.new key hkey
    rw [hbefore key, Option.or_eq_none_iff] at hnone
    exact hnone.2
  · intro key
    rw [h.table key, hbefore key, ownContent, Option.or_assoc]
    cases hcreated : Dict.get? key created with
    | none => rfl
    | some content =>
      have hnone := h.new key ((Dict.mem_keys_iff key created).mpr ⟨content, hcreated⟩)
      rw [hbefore key, Option.or_eq_none_iff] at hnone
      rw [hnone.1]
      rfl

theorem Wrote.cons_new {d : Document} {vector : Vector32} {created : List (String × Json)}
    {id : String} (hid : d.hasId = false) (hfree : Dict.get? id before = none)
    (h : Wrote documents 1 created (before.insert id (Command.record d vector)) after) :
    Wrote ((d, vector) :: documents) 1 ((id, Command.record d vector) :: created) before
      after := by
  have hnew : newContents ((d, vector) :: documents) =
      Command.record d vector :: newContents documents := by
    unfold newContents
    rw [List.filter_cons_of_pos (by simp [hid]), List.map_cons]
  have hown : ∀ key, ownContent ((d, vector) :: documents) key = ownContent documents key := by
    intro key
    rw [ownContent, if_neg (by simp [hid]), Option.or_none]
  have hid_new : id ∉ created.map (·.1) := by
    intro hmem
    have hnone := h.new id hmem
    rw [Dict.get?_insert_self] at hnone
    cases hnone
  constructor
  · have hcontents := h.contents
    simp only [List.replicate_one, List.flatten_singleton] at hcontents ⊢
    rw [List.map_cons, hcontents, hnew]
  · exact List.nodup_cons.mpr ⟨hid_new, h.nodup⟩
  · intro key hkey
    rcases List.mem_cons.mp hkey with rfl | hkey
    · exact hfree
    · have hnone := h.new key hkey
      rw [Dict.get?_insert] at hnone
      split at hnone
      · cases hnone
      · exact hnone
  · intro key
    rw [h.table key, hown key, Dict.get?_insert, Dict.get?]
    by_cases heq : id = key
    · have hnone : Dict.get? key created = none :=
        (Dict.get?_eq_none_iff key created).mpr fun hmem => hid_new (heq ▸ hmem)
      rw [if_pos heq, if_pos heq, hnone]
      rfl
    · rw [if_neg heq, if_neg heq]

end Writes

/-- Executing the writes of documents once. -/
theorem wrote_performAll (keys : KeyChoice) (name : String)
    (documents : List (Document × Vector32)) (db : Database) :
    let after := (performAll keys (documents.map (writeDeed name)) db).2
    (∃ created, Wrote documents 1 created (db.tables name) (after.tables name)) ∧
      SameElsewhere name db after := by
  induction documents generalizing db with
  | nil => exact ⟨⟨[], wrote_nil 1 _⟩, .refl name db⟩
  | cons document documents ih =>
    obtain ⟨d, vector⟩ := document
    obtain ⟨key, db', hperform, htable, helsewhere, hkey⟩ :=
      perform_writeDeed keys name d vector db
    obtain ⟨⟨created, hwrote⟩, hsame⟩ := ih db'
    rw [List.map_cons, performAll_cons, hperform]
    rw [htable] at hwrote
    refine ⟨?_, hsame.trans helsewhere⟩
    rcases hkey with ⟨hid, rfl⟩ | ⟨hid, -, hfree⟩
    · exact ⟨created, hwrote.cons_own hid⟩
    · exact ⟨_, hwrote.cons_new hid ((Dict.get?_eq_none_iff key _).mpr hfree)⟩

/-- The database after statements were executed a number of times. -/
def repeatAll (keys : KeyChoice) (deeds : List Deed) : Nat → Database → Database
  | 0, db => db
  | times + 1, db => repeatAll keys deeds times (performAll keys deeds db).2

theorem wrote_repeatAll (keys : KeyChoice) (name : String)
    (documents : List (Document × Vector32)) (times : Nat) (db : Database) :
    let after := repeatAll keys (documents.map (writeDeed name)) (times + 1) db
    (∃ created, Wrote documents (times + 1) created (db.tables name) (after.tables name)) ∧
      SameElsewhere name db after := by
  induction times generalizing db with
  | zero => exact wrote_performAll keys name documents db
  | succ times ih =>
    obtain ⟨⟨created, hwrote⟩, hsame⟩ := wrote_performAll keys name documents db
    obtain ⟨⟨created', hwrote'⟩, hsame'⟩ :=
      ih (performAll keys (documents.map (writeDeed name)) db).2
    have hboth := hwrote.trans hwrote'
    rw [Nat.add_comm 1 (times + 1)] at hboth
    exact ⟨⟨created ++ created', hboth⟩, hsame'.trans hsame⟩

/-! ## Attempts -/

/-- Whether the request is executed and its reply lost. -/
def Fate.isLost : Fate → Bool
  | .lost => true
  | _ => false

/-- The number of lost replies among attempts from a first one on. -/
def losses (fates : Nat → Fate) : Nat → Nat → Nat
  | _, 0 => 0
  | first, attempts + 1 =>
    (if (fates first).isLost then 1 else 0) + losses fates (first + 1) attempts

/-- A reply that reports a failure has no results. -/
theorem statementResults_of_isFailure {reply : Reply} (h : reply.isFailure = true)
    (results : List Json) : statementResults reply ≠ .ok results := by
  intro hresults
  obtain ⟨statements, hlists⟩ := exists_lists_of_ok hresults
  have hfailure : 400 ≤ reply.status := of_decide_eq_true h
  exact absurd hlists.status (Nat.not_lt.mpr hfailure)

section Attempts

variable {ω : Type} {keys : KeyChoice} {fates : Nat → Fate} {request : Request}
  {deeds : List Deed}

/-- One attempt: it is answered, or it does not succeed; a lost reply leaves the request
executed. -/
theorem run_send_cases (keys : KeyChoice) (fates : Nat → Fate)
    (hdeeds : request.deeds? = some deeds) (w : Hosted ω) :
    let r := ((Hosted.backend keys fates).send request).run w
    r.2.attempts = w.attempts + 1 ∧
      (fates w.attempts = .answered ∧ isTransientReply r.1 = false ∧
          r.2.database = repeatAll keys deeds 1 w.database ∨
        (∀ reply results, r.1 = .ok reply → statementResults reply ≠ .ok results) ∧
          r.2.database =
            repeatAll keys deeds (if (fates w.attempts).isLost then 1 else 0) w.database) := by
  have hexecuted : (answer keys request w.database).2 = repeatAll keys deeds 1 w.database := by
    unfold answer
    rw [hdeeds]
    rfl
  intro r
  have hr : r = ((Hosted.backend keys fates).send request).run w := rfl
  rw [Hosted.run_send] at hr
  cases hfate : fates w.attempts with
  | answered =>
    rw [hfate] at hr
    rw [hr]
    refine ⟨rfl, Or.inl ⟨rfl, ?_, hexecuted⟩⟩
    unfold answer
    rw [hdeeds]
    rfl
  | lost =>
    rw [hfate] at hr
    rw [hr]
    exact ⟨rfl, Or.inr ⟨(fun _ _ h => nomatch h), hexecuted⟩⟩
  | refused reply isFailure =>
    rw [hfate] at hr
    rw [hr]
    refine ⟨rfl, Or.inr ⟨fun reply' results h => ?_, rfl⟩⟩
    cases h
    exact statementResults_of_isFailure isFailure results
  | failed error =>
    rw [hfate] at hr
    rw [hr]
    exact ⟨rfl, Or.inr ⟨(fun _ _ h => nomatch h), rfl⟩⟩

theorem repeatAll_repeatAll (keys : KeyChoice) (deeds : List Deed) (m n : Nat) (db : Database) :
    repeatAll keys deeds n (repeatAll keys deeds m db) = repeatAll keys deeds (m + n) db := by
  induction m generalizing db with
  | zero => rw [Nat.zero_add]; rfl
  | succ m ih =>
    rw [Nat.succ_add]
    exact ih (performAll keys deeds db).2

/-- **A repeated request that succeeds was executed once, and once more for each lost reply.** -/
theorem retryFrom_send (hdeeds : request.deeds? = some deeds) (policy : RetryPolicy)
    (sleep : Nat → ω → ω) (left n : Nat) {w w' : Hosted ω} {reply : Reply}
    {results : List Json} (hresults : statementResults reply = .ok results)
    (hrun : (retryFrom policy (Hosted.sleep sleep) isTransientReply
      ((Hosted.backend keys fates).send request) n left).run w = (.ok reply, w')) :
    ∃ earlier, earlier ≤ left ∧ w'.attempts = w.attempts + (earlier + 1) ∧
      fates (w.attempts + earlier) = .answered ∧
      w'.database =
        repeatAll keys deeds (losses fates w.attempts earlier + 1) w.database := by
  induction left generalizing n w with
  | zero =>
    have hcases := run_send_cases keys fates hdeeds w
    rw [retryFrom] at hrun
    rw [hrun] at hcases
    obtain ⟨hattempts, ⟨hfate, -, hdb⟩ | ⟨hfailed, -⟩⟩ := hcases
    · exact ⟨0, Nat.le_refl 0, hattempts, hfate, hdb⟩
    · exact absurd hresults (hfailed reply results rfl)
  | succ left ih =>
    have hcases := run_send_cases keys fates hdeeds w
    generalize hr : ((Hosted.backend keys fates).send request).run w = r at hcases
    have hloop : (if isTransientReply r.1 then
        (retryFrom policy (Hosted.sleep sleep) isTransientReply
          ((Hosted.backend keys fates).send request) (n + 1) left).run
            (Hosted.sleep sleep (policy.delay n) r.2)
        else r) = (.ok reply, w') := by
      rw [← hr]
      exact hrun
    obtain ⟨hattempts, ⟨hfate, htransient, hdb⟩ | ⟨hfailed, hdb⟩⟩ := hcases
    · rw [if_neg (by rw [htransient]; exact Bool.false_ne_true)] at hloop
      rw [hloop] at hattempts hdb
      exact ⟨0, Nat.zero_le _, hattempts, hfate, hdb⟩
    · split at hloop
      -- The rest of the loop starts where the failed attempt ended; only a lost reply has
      -- changed the database by then.
      · obtain ⟨earlier, hle, hattempts', hfate, hdb'⟩ := ih (n + 1) hloop
        have hslept : (Hosted.sleep sleep (policy.delay n) r.2).attempts = w.attempts + 1 :=
          hattempts
        have hsleptdb : (Hosted.sleep sleep (policy.delay n) r.2).database =
          repeatAll keys deeds (if (fates w.attempts).isLost then 1 else 0) w.database := hdb
        rw [hslept] at hattempts' hfate hdb'
        rw [hsleptdb, repeatAll_repeatAll] at hdb'
        refine ⟨earlier + 1, by omega, by omega, ?_, ?_⟩
        · rw [← hfate]
          congr 1
          omega
        · rw [hdb', losses, Nat.add_assoc]
      · rw [hloop] at hfailed
        exact absurd hresults (hfailed reply results rfl)

/-- What a command that succeeds over a retrying backend was executed for. -/
theorem query_retrying_eq_ok {c : Config} {command : Command}
    (hdeeds : ∀ id, (callRequest c id command).deeds? = some deeds) {policy : RetryPolicy}
    {sleep : Nat → ω → ω} {w w' : Session (Hosted ω)} {results : List Json}
    (hrun : (query c ((Hosted.backend keys fates).retrying policy (Hosted.sleep sleep))
      command).run w = (.ok results, w')) :
    ∃ earlier, earlier ≤ policy.maxAttempts - 1 ∧
      w'.world.attempts = w.world.attempts + (earlier + 1) ∧
      fates (w.world.attempts + earlier) = .answered ∧
      w'.world.database = repeatAll keys deeds (losses fates w.world.attempts earlier + 1)
        w.world.database := by
  unfold query at hrun
  obtain ⟨id, w₁, htake, hrun⟩ := Action.run_bind_eq_ok hrun
  cases htake
  obtain ⟨reply, w₂, hsend, hrun⟩ := Action.run_bind_eq_ok hrun
  rw [Action.run_liftExcept, Prod.mk.injEq] at hrun
  obtain ⟨hresults, rfl⟩ := hrun
  rw [Session.run_lift, Prod.mk.injEq] at hsend
  obtain ⟨hreply, rfl⟩ := hsend
  exact retryFrom_send (hdeeds w.nextId) policy sleep (policy.maxAttempts - 1) 0 hresults
    (Prod.ext hreply rfl)

end Attempts

/-! ## Documents -/

/-- **What adding documents leaves behind when attempts are repeated.**  Whenever it succeeds,
every document without identifier has one new record for the attempt that was answered and one more
for each reply that was lost, under keys that were free; under each identifier of the caller there
is one record; nothing else has changed. -/
theorem Store.wrote_addDocuments {ω : Type} {c : Config} {keys : KeyChoice} {fates : Nat → Fate}
    {policy : RetryPolicy} {sleep : Nat → ω → ω} {s : Store (Hosted ω)}
    (hs : Store.ofConfig c ((Hosted.backend keys fates).retrying policy (Hosted.sleep sleep)) =
      .ok s) {e : Embedder ω} {documents : List Document} {w w' : Session (Hosted ω)}
    {ids : List String} (hrun : (s.addDocuments documents (Hosted.embedder e).inSession).run w =
      (.ok ids, w')) :
    ∃ vectors lost created, vectors.length = documents.length ∧
      Wrote (documents.zip vectors) (lost + 1) created (w.world.database.tables c.table)
        (w'.world.database.tables c.table) ∧
      SameElsewhere c.table w.world.database w'.world.database ∧
      (documents ≠ [] → ∃ earlier, earlier ≤ policy.maxAttempts - 1 ∧
        w'.world.attempts = w.world.attempts + (earlier + 1) ∧
        fates (w.world.attempts + earlier) = .answered ∧
        lost = losses fates w.world.attempts earlier) := by
  obtain ⟨-, hc, hb⟩ := Store.ofConfig_eq_ok hs
  unfold Store.addDocuments at hrun
  split at hrun
  · rename_i hempty
    rw [List.isEmpty_iff] at hempty
    cases hrun
    subst hempty
    exact ⟨[], 0, [], rfl, wrote_nil 1 _, .refl c.table w.world.database, fun h => absurd rfl h⟩
  · obtain ⟨vectors, w₁, hembed, hrun⟩ := Action.run_bind_eq_ok hrun
    have hw₁ : w₁.world.database = w.world.database ∧ w₁.world.attempts = w.world.attempts := by
      have hstate := congrArg Prod.snd hembed
      dsimp only at hstate
      rw [← hstate]
      exact ⟨rfl, rfl⟩
    split at hrun
    · rename_i hlength
      obtain ⟨u, w₂, hdimensions, hrun⟩ := Action.run_bind_eq_ok hrun
      rw [Action.run_liftExcept, Prod.mk.injEq] at hdimensions
      obtain ⟨-, rfl⟩ := hdimensions
      obtain ⟨results, w₃, hquery, hrun⟩ := Action.run_bind_eq_ok hrun
      rw [Action.run_liftExcept, Prod.mk.injEq] at hrun
      obtain ⟨-, rfl⟩ := hrun
      unfold Store.run at hquery
      rw [hc, hb] at hquery
      obtain ⟨earlier, hle, hattempts, hfate, hdb⟩ :=
        query_retrying_eq_ok (deeds?_add c (documents.zip vectors)) hquery
      rw [hw₁.2] at hattempts hfate hdb
      rw [hw₁.1] at hdb
      obtain ⟨⟨created, hwrote⟩, hsame⟩ := wrote_repeatAll keys c.table (documents.zip vectors)
        (losses fates w.world.attempts earlier) w.world.database
      rw [← hdb] at hwrote hsame
      exact ⟨vectors, _, created, hlength, hwrote, hsame,
        fun _ => ⟨earlier, hle, hattempts, hfate, rfl⟩⟩
    · cases hrun

/-! ## A lost reply -/

/-- A store whose first request is executed without a reply, and that makes a second attempt. -/
def lossyStore : Store (Hosted Unit) where
  config := .new "http://localhost:8000" "ns" "db" "documents"
  valid := by decide
  backend := (Hosted.backend .joined fun n => if n = 0 then .lost else .answered).retrying ⟨2, 0⟩
    (Hosted.sleep fun _ w => w)

/-- Adds a document without identifier to the empty table. -/
def lossyRun : Except Error (List String) × Session (Hosted Unit) :=
  (lossyStore.addDocuments [.ofContent "text"]
    (Hosted.embedder (.ofFunction fun _ => [])).inSession).run (.start ⟨.empty, 0, ()⟩)

/-- The document is stored as often as it was written. -/
theorem wrote_addDocuments_lossy :
    lossyRun.1 = .ok ["kk"] ∧ ∃ vectors lost created, vectors.length = 1 ∧
      Wrote ([Document.ofContent "text"].zip vectors) (lost + 1) created []
        (lossyRun.2.world.database.tables "documents") ∧
      SameElsewhere "documents" .empty lossyRun.2.world.database := by
  have hids : lossyRun.1 = .ok ["kk"] := by decide +kernel
  obtain ⟨vectors, lost, created, hlength, hwrote, hsame, -⟩ :=
    Store.wrote_addDocuments (Store.ofConfig_of_valid lossyStore.valid _)
      (Prod.ext hids rfl : lossyRun = (.ok ["kk"], lossyRun.2))
  exact ⟨hids, vectors, lost, created, hlength, hwrote, hsame⟩

/-- One document without identifier, added with success, leaves two records. -/
theorem addDocuments_creates_twice :
    lossyRun.1 = .ok ["kk"] ∧
      Dict.keys (lossyRun.2.world.database.tables "documents") = ["k", "kk"] := by
  decide +kernel

end RetrievalKit.Surreal
