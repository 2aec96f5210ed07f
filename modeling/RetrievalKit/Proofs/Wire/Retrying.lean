import RetrievalKit.Proofs.Wire.Simulation
import RetrievalKit.Wire.Bench
import RetrievalKit.Wire.Retry

/-!
# Retrying over scripts

Over a scripted provider a retrying backend takes the entries of its script in runs: up to so many
transient entries as there are retries, and the entry after them, which is the outcome.  A plain
backend needs only the last entry of each run to answer the same.

* `survivors` — the last entries of the runs;
* `Bench.Plays` — an action of a bench takes the next entry of its script;
* `Bench.Plays.run_retryFrom` — retried, it takes a run, and makes an attempt for each entry;
* `Bench.Retried` — what two benches have in common, one with a plain and one with a retrying
  backend;
* `Bench.agree_retrying` — every request keeps it so.
-/

namespace RetrievalKit

/-! ## Runs -/

section Runs

variable {α : Type} {isTransient : α → Bool}

/-- How many transient entries a run begins with, if it may have `left` of them. -/
def runLength (isTransient : α → Bool) (left : Nat) (entries : List α) : Nat :=
  ((entries.take left).takeWhile isTransient).length

/-- The last entries of the runs, when the first run may have `left` more transient entries. -/
def survivorsFrom (isTransient : α → Bool) (retries : Nat) : Nat → List α → List α
  | _, [] => []
  | 0, r :: rest => r :: survivorsFrom isTransient retries retries rest
  | left + 1, r :: rest =>
    if isTransient r then survivorsFrom isTransient retries left rest
    else r :: survivorsFrom isTransient retries retries rest

/-- The last entries of the runs.  A run has up to `retries` transient entries, and the entry after
them; if there is none, nothing of the run is left. -/
def survivors (isTransient : α → Bool) (retries : Nat) (entries : List α) : List α :=
  survivorsFrom isTransient retries retries entries

@[simp] theorem runLength_nil (left : Nat) : runLength isTransient left [] = 0 := by
  simp [runLength]

@[simp] theorem runLength_zero (entries : List α) : runLength isTransient 0 entries = 0 := by
  simp [runLength]

theorem runLength_cons (left : Nat) (r : α) (rest : List α) :
    runLength isTransient (left + 1) (r :: rest) =
      if isTransient r then runLength isTransient left rest + 1 else 0 := by
  unfold runLength
  split <;> simp_all

theorem runLength_le (left : Nat) (entries : List α) :
    runLength isTransient left entries ≤ left := by
  have hwhile : ((entries.take left).takeWhile isTransient).length ≤ (entries.take left).length :=
    (List.takeWhile_sublist isTransient).length_le
  have htake : (entries.take left).length ≤ left := List.length_take_le left entries
  exact Nat.le_trans hwhile htake

/-- After a run the next one begins. -/
theorem survivorsFrom_eq (retries left : Nat) (entries : List α) :
    survivorsFrom isTransient retries left entries =
      match entries.drop (runLength isTransient left entries) with
      | [] => []
      | r :: rest => r :: survivors isTransient retries rest := by
  induction left generalizing entries with
  | zero => cases entries <;> simp [survivorsFrom, survivors]
  | succ left ih =>
    cases entries with
    | nil => simp [survivorsFrom]
    | cons r rest =>
      rw [survivorsFrom, runLength_cons]
      split
      · rw [ih, List.drop_succ_cons]
      · rfl

theorem headD_survivors (retries : Nat) (entries : List α) (last : α) :
    (survivors isTransient retries entries).headD last =
      (entries.drop (runLength isTransient retries entries)).headD last := by
  rw [survivors, survivorsFrom_eq]
  cases entries.drop (runLength isTransient retries entries) <;> simp

theorem tail_survivors (retries : Nat) (entries : List α) :
    (survivors isTransient retries entries).tail =
      survivors isTransient retries
        (entries.drop (runLength isTransient retries entries + 1)) := by
  rw [survivors, survivorsFrom_eq, ← List.drop_drop]
  cases entries.drop (runLength isTransient retries entries) with
  | nil => simp [survivors, survivorsFrom]
  | cons r rest => simp

/-- Zeros are transient, and a run may begin with two: the third one ends its run, the next run is a
one alone, the run after it ends with the five, and the last zero waits for an entry in vain. -/
example : survivors (· == 0) 2 [0, 0, 0, 1, 0, 5, 0] = [0, 1, 5] := by decide

end Runs

/-! ## Attempts -/

/-- A request in the log of a bench, without its time. -/
structure Attempt where
  slot : Nat
  request : Request
  streamed : Bool

/-- A script after `n` more attempts, of a stream or not. -/
def Script.after (streamed : Bool) (n : Nat) (s : Script) : Script :=
  if streamed then { s with streams := s.streams.drop n }
  else { s with replies := s.replies.drop n }

/-- An attempt takes nothing from a list that is empty. -/
theorem Script.after_of_replies {s : Script} (h : s.replies = []) (n : Nat) :
    s.after false n = s := by
  cases s
  simp_all [after]

theorem Script.after_of_streams {s : Script} (h : s.streams = []) (n : Nat) :
    s.after true n = s := by
  cases s
  simp_all [after]

theorem Script.after_after (streamed : Bool) (m n : Nat) (s : Script) :
    (s.after streamed m).after streamed n = s.after streamed (m + n) := by
  cases streamed <;> simp [after]

namespace Bench

/-- What was sent, oldest first. -/
def attempts (b : Bench) : List Attempt := b.log.map fun s => ⟨s.slot, s.request, s.streamed⟩

/-- Between two benches one attempt was made `n` times, and nothing else. -/
structure Made (a : Attempt) (n : Nat) (b b' : Bench) : Prop where
  attempts : b'.attempts = b.attempts ++ List.replicate n a
  script_self : b'.script a.slot = (b.script a.slot).after a.streamed n
  script_of_ne : ∀ slot, slot ≠ a.slot → b'.script slot = b.script slot

theorem Made.trans {a : Attempt} {m n : Nat} {b b' b'' : Bench} (h : Made a m b b')
    (h' : Made a n b' b'') : Made a (m + n) b b'' where
  attempts := by
    rw [h'.attempts, h.attempts, List.append_assoc, List.replicate_append_replicate]
  script_self := by rw [h'.script_self, h.script_self, Script.after_after]
  script_of_ne slot hne := by rw [h'.script_of_ne slot hne, h.script_of_ne slot hne]

/-- Waiting is no attempt. -/
theorem Made.sleep {a : Attempt} {n : Nat} {b b' : Bench} (h : Made a n b b')
    (milliseconds : Nat) : Made a n b (b'.sleep milliseconds) :=
  ⟨h.attempts, h.script_self, h.script_of_ne⟩

theorem script_setScript_of_ne {slot other : Nat} (h : other ≠ slot) (b : Bench) (s : Script) :
    (b.setScript slot s).script other = b.script other := by
  simp [script, setScript, List.getD_eq_getElem?_getD, List.getElem?_set_ne h.symm]

theorem script_setScript_self {slot : Nat} {b : Bench} (h : b.script slot ≠ .empty) (s : Script) :
    (b.setScript slot s).script slot = s := by
  have hlt : slot < b.scripts.length := by
    refine Nat.lt_of_not_le fun hge => h ?_
    simp [script, List.getD_eq_getElem?_getD, List.getElem?_eq_none hge]
  simp [script, setScript, List.getD_eq_getElem?_getD, hlt]

/-- The bench after an attempt that took an entry. -/
theorem made_setScript {a : Attempt} {b : Bench} (h : b.script a.slot ≠ .empty) :
    Made a 1 b ((b.record a.slot a.request a.streamed).setScript a.slot
      ((b.script a.slot).after a.streamed 1)) where
  attempts := by simp [Bench.attempts, record, setScript]
  script_self := script_setScript_self (b := b.record a.slot a.request a.streamed) h _
  script_of_ne slot hne := script_setScript_of_ne hne (b.record a.slot a.request a.streamed) _

/-- The bench after an attempt that found no entry. -/
theorem made_record {a : Attempt} {b : Bench}
    (h : (b.script a.slot).after a.streamed 1 = b.script a.slot) :
    Made a 1 b (b.record a.slot a.request a.streamed) where
  attempts := by simp [Bench.attempts, record]
  script_self := h.symm
  script_of_ne _ _ := rfl

end Bench

/-! ## Actions of a bench -/

/-- The script that keeps the last entry of each run under a policy. -/
def Script.surviving (policy : RetryPolicy) (s : Script) : Script :=
  { s with
    replies := survivors isTransientReply (policy.maxAttempts - 1) s.replies
    streams := survivors isTransientOpening (policy.maxAttempts - 1) s.streams }

namespace Bench

variable {α : Type}

/-- An action makes one attempt, and its outcome is the next entry of a script, or `last` if there
is none. -/
structure Plays (isTransient : Except Error α → Bool) (act : Action Bench α) (a : Attempt)
    (entries : Script → List (Except Error α)) (last : Except Error α) : Prop where
  run : ∀ b, ∃ b', act.run b = ((entries (b.script a.slot)).headD last, b') ∧ Made a 1 b b'
  last_settled : isTransient last = false
  entries_after : ∀ n (s : Script), entries (s.after a.streamed n) = (entries s).drop n
  entries_surviving : ∀ (policy : RetryPolicy) (s : Script), entries (s.surviving policy) =
    survivors isTransient (policy.maxAttempts - 1) (entries s)
  after_surviving : ∀ (policy : RetryPolicy) (s : Script), (s.surviving policy).after a.streamed 1 =
    (s.after a.streamed (runLength isTransient (policy.maxAttempts - 1) (entries s) + 1)).surviving
      policy

theorem plays_send (slot : Nat) (request : Request) :
    Plays isTransientReply (send slot request) ⟨slot, request, false⟩ Script.replies
      (.error exhausted) where
  run b := by
    have hscript : (b.record slot request false).script slot = b.script slot := rfl
    cases h : (b.script slot).replies with
    | nil =>
      refine ⟨b.record slot request false, ?_, made_record (a := ⟨slot, request, false⟩) ?_⟩
      · simp [send, hscript, h]
      · exact Script.after_of_replies h 1
    | cons r rest =>
      refine ⟨_, ?_, made_setScript (a := ⟨slot, request, false⟩) ?_⟩
      · simp [send, hscript, h, Script.after]
      · intro hempty
        simp [hempty, Script.empty] at h
  last_settled := rfl
  entries_after n s := rfl
  entries_surviving policy s := rfl
  after_surviving policy s := by
    simp [Script.surviving, Script.after, tail_survivors]

theorem plays_sendStream (slot : Nat) (request : Request) :
    Plays isTransientOpening (sendStream slot request) ⟨slot, request, true⟩ Script.streams
      (.ok []) where
  run b := by
    have hscript : (b.record slot request true).script slot = b.script slot := rfl
    cases h : (b.script slot).streams with
    | nil =>
      refine ⟨b.record slot request true, ?_, made_record (a := ⟨slot, request, true⟩) ?_⟩
      · simp [sendStream, hscript, h]
      · exact Script.after_of_streams h 1
    | cons r rest =>
      refine ⟨_, ?_, made_setScript (a := ⟨slot, request, true⟩) ?_⟩
      · simp [sendStream, hscript, h, Script.after]
      · intro hempty
        simp [hempty, Script.empty] at h
  last_settled := rfl
  entries_after n s := rfl
  entries_surviving policy s := rfl
  after_surviving policy s := by
    simp [Script.surviving, Script.after, tail_survivors]

section Plays

variable {isTransient : Except Error α → Bool} {act : Action Bench α} {a : Attempt}
  {entries : Script → List (Except Error α)} {last : Except Error α}

/-- **A retried action takes a run.**  Its outcome is the last entry of the run, and it makes one
attempt for each entry. -/
theorem Plays.run_retryFrom (h : Plays isTransient act a entries last) (policy : RetryPolicy)
    (n left : Nat) (b : Bench) :
    let run := runLength isTransient left (entries (b.script a.slot))
    ∃ b', (retryFrom policy sleep isTransient act n left).run b =
        (((entries (b.script a.slot)).drop run).headD last, b') ∧ Made a (run + 1) b b' := by
  -- Induction on the attempts that are left: each takes the entry at the front of the script.
  induction left generalizing n b with
  | zero => simpa [retryFrom] using h.run b
  | succ left ih =>
    obtain ⟨b', hrun, hmade⟩ := h.run b
    have hentries : entries (b'.script a.slot) = (entries (b.script a.slot)).drop 1 := by
      rw [hmade.script_self, h.entries_after]
    have hretry : (retryFrom policy sleep isTransient act n (left + 1)).run b =
        if isTransient ((entries (b.script a.slot)).headD last) then
          (retryFrom policy sleep isTransient act (n + 1) left).run (b'.sleep (policy.delay n))
        else ((entries (b.script a.slot)).headD last, b') := by
      simp [retryFrom, hrun]
    cases hscript : entries (b.script a.slot) with
    | nil =>
      refine ⟨b', ?_, by simpa using hmade⟩
      rw [hretry, hscript]
      simp [h.last_settled]
    | cons r rest =>
      rw [hscript, List.headD_cons] at hretry
      rw [hretry, runLength_cons]
      split
      · obtain ⟨b'', hrest, hmade'⟩ := ih (n + 1) (b'.sleep (policy.delay n))
        have hsleep : entries ((b'.sleep (policy.delay n)).script a.slot) = rest := by
          show entries (b'.script a.slot) = rest
          rw [hentries, hscript, List.drop_one, List.tail_cons]
        rw [hsleep] at hrest hmade'
        refine ⟨b'', by simpa using hrest, ?_⟩
        have htrans := (hmade.sleep (policy.delay n)).trans hmade'
        rwa [Nat.add_comm 1] at htrans
      · exact ⟨b', by simp, hmade⟩

end Plays

/-! ## Two benches -/

/-- The bench whose scripts keep the last entry of each run. -/
def surviving (policies : Nat → RetryPolicy) (b : Bench) : Bench :=
  { b with scripts := b.scripts.mapIdx fun slot s => s.surviving (policies slot) }

theorem script_surviving (policies : Nat → RetryPolicy) (b : Bench) (slot : Nat) :
    (b.surviving policies).script slot = (b.script slot).surviving (policies slot) := by
  have hempty : Script.empty.surviving (policies slot) = .empty := by
    simp [Script.surviving, Script.empty, survivors, survivorsFrom]
  unfold surviving script
  rw [List.getD_eq_getElem?_getD, List.getD_eq_getElem?_getD, List.getElem?_mapIdx]
  cases b.scripts[slot]? with
  | none => exact hempty.symm
  | some s => rfl

/-- A plain bench and a retried one that began alike, with `before` sent: the plain one has still to
say what survives of the other's scripts, and what the plain one sent once the other sent once or
more, as often as its policy allows. -/
structure Retried (policies : Nat → RetryPolicy) (before : List Attempt) (plain retried : Bench) :
    Prop where
  script : ∀ slot, plain.script slot = (retried.script slot).surviving (policies slot)
  attempts : ∃ sent : List (Attempt × Nat), plain.attempts = before ++ sent.map (·.1) ∧
    retried.attempts = before ++ sent.flatMap (fun e => List.replicate e.2 e.1) ∧
    ∀ e ∈ sent, 1 ≤ e.2 ∧ e.2 ≤ max 1 (policies e.1.slot).maxAttempts

theorem retried_surviving (policies : Nat → RetryPolicy) (b : Bench) :
    Retried policies b.attempts (b.surviving policies) b where
  script := script_surviving policies b
  attempts := ⟨[], by simp [surviving, Bench.attempts], by simp, by simp⟩

variable {policies : Nat → RetryPolicy} {before : List Attempt}

/-- An attempt of the plain bench, and a run of the other. -/
theorem Retried.made {a : Attempt} {n : Nat} {plain plain' retried retried' : Bench}
    (h : Retried policies before plain retried) (hplain : Made a 1 plain plain')
    (hretried : Made a n retried retried')
    (hscript : plain'.script a.slot = (retried'.script a.slot).surviving (policies a.slot))
    (hpos : 1 ≤ n) (hmax : n ≤ max 1 (policies a.slot).maxAttempts) :
    Retried policies before plain' retried' where
  script slot := by
    by_cases hslot : slot = a.slot
    · rw [hslot, hscript]
    · rw [hplain.script_of_ne slot hslot, hretried.script_of_ne slot hslot, h.script slot]
  attempts := by
    obtain ⟨sent, hsent, hrepeated, hbounds⟩ := h.attempts
    refine ⟨sent ++ [(a, n)], ?_, ?_, ?_⟩
    · simp [hplain.attempts, hsent]
    · simp [hretried.attempts, hrepeated]
    · intro e he
      rcases List.mem_append.mp he with he | he
      · exact hbounds e he
      · rw [List.mem_singleton.mp he]
        exact ⟨hpos, hmax⟩

/-- **A plain action and the retried one answer the same** where the plain one reads what survives
of the other's script. -/
theorem Plays.agree {isTransient : Except Error α → Bool} {act : Action Bench α} {a : Attempt}
    {entries : Script → List (Except Error α)} {last : Except Error α}
    (h : Plays isTransient act a entries last) :
    Action.Agree (Retried policies before) act
      (retry (policies a.slot) sleep isTransient act) := by
  intro plain retried hbenches
  obtain ⟨plain', hplain, hmade⟩ := h.run plain
  obtain ⟨retried', hretried, hmade'⟩ :=
    h.run_retryFrom (policies a.slot) 0 ((policies a.slot).maxAttempts - 1) retried
  have hentries : entries (plain.script a.slot) =
      survivors isTransient ((policies a.slot).maxAttempts - 1)
        (entries (retried.script a.slot)) := by
    rw [hbenches.script a.slot, h.entries_surviving]
  have hscript : plain'.script a.slot =
      (retried'.script a.slot).surviving (policies a.slot) := by
    rw [hmade.script_self, hbenches.script a.slot, h.after_surviving, hmade'.script_self]
  have hrun : runLength isTransient ((policies a.slot).maxAttempts - 1)
      (entries (retried.script a.slot)) ≤ (policies a.slot).maxAttempts - 1 := runLength_le _ _
  have hsame : Retried policies before plain' retried' :=
    hbenches.made hmade hmade' hscript (by omega) (by omega)
  unfold retry
  show (act.run plain).1 = (ExceptT.run (retryFrom _ _ _ _ _ _) retried).1 ∧
    Retried policies before (act.run plain).2 (ExceptT.run (retryFrom _ _ _ _ _ _) retried).2
  rw [hplain, hretried, hentries, headD_survivors]
  exact ⟨rfl, hsame⟩

/-- Every provider of the plain bench answers as a retrying one of the other. -/
theorem agree_retrying (slot : Nat) :
    Backend.Agree (Retried policies before) (backend slot)
      ((backend slot).retrying (policies slot) sleep) where
  send request := (plays_send slot request).agree
  sendStream request := (plays_sendStream slot request).agree

end Bench

end RetrievalKit
