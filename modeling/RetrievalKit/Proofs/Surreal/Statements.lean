import RetrievalKit.Surreal.Rpc

/-!
# Replies as lists of statements

A reply that is no failure as a whole lists what became of each statement.  Its results count only
if every statement succeeded; the first one that failed is the error that the reply stands for.

* `Lists` — the statements of a reply that is no failure as a whole;
* `Failed` — a statement of the list that did not succeed;
* `statementResults_eq_ok_iff` — which replies have results, and what these are;
* `statementResults_of_failed` — the error of a reply with a failed statement.
-/

namespace RetrievalKit.Surreal

/-- The statements that a reply lists: its status reports no error, no more does its body, and the
result is their list. -/
structure Lists (reply : Reply) (statements : List Json) : Prop where
  status : reply.status < 400
  noError : reply.body.get? "error" = none
  result : reply.body.get? "result" = some (.arr statements)

/-- The statement has a status, and it is not that of success. -/
def Failed (statement : Json) : Prop :=
  ∃ status, statement.get? "status" = some (.str status) ∧ status ≠ "OK"

/-- What the database says about a statement that failed. -/
def serverMessage (statement : Json) : String :=
  match statement.field "result" with
  | .str s => s
  | v => v.render

/-- The error that the failure of statement `i` stands for. -/
def statementError (statement : Json) (i : Nat) : Error :=
  ⟨.vectorStore, "SurrealDB statement " ++ toString i ++ " failed: " ++ serverMessage statement⟩

/-! ## One statement -/

theorem statementResult_of_failed {statement : Json} (h : Failed statement) (i : Nat) :
    statementResult statement i = .error (statementError statement i) := by
  obtain ⟨status, hstatus, hne⟩ := h
  unfold statementResult
  simp only [hstatus, Option.bind_some, Json.asString?, Option.getD_some, if_neg hne]
  rfl

theorem statementResult_of_not_failed {statement : Json} (h : ¬ Failed statement) (i : Nat) :
    statementResult statement i = .ok (statement.field "result") := by
  have hstatus : ((statement.get? "status").bind Json.asString?).getD "OK" = "OK" := by
    cases hfound : (statement.get? "status").bind Json.asString? with
    | none => rfl
    | some status =>
      obtain ⟨v, hv, hstring⟩ := Option.bind_eq_some_iff.mp hfound
      rw [Json.asString?_eq_some_iff.mp hstring] at hv
      exact Decidable.byContradiction fun hne => h ⟨status, hv, hne⟩
  unfold statementResult
  simp only [hstatus, if_true]

/-! ## All statements -/

/-- The results of statements, the first of which has number `n`. -/
def resultsFrom (n : Nat) (statements : List Json) : Except Error (List Json) :=
  (statements.zipIdx n).mapM fun (s, i) => statementResult s i

theorem resultsFrom_cons_of_failed {statement : Json} (h : Failed statement) (n : Nat)
    (statements : List Json) :
    resultsFrom n (statement :: statements) = .error (statementError statement n) := by
  unfold resultsFrom
  rw [List.zipIdx_cons, List.mapM_cons]
  dsimp only
  rw [statementResult_of_failed h]
  rfl

theorem resultsFrom_cons_of_not_failed {statement : Json} (h : ¬ Failed statement) (n : Nat)
    (statements : List Json) :
    resultsFrom n (statement :: statements) =
      (resultsFrom (n + 1) statements).map (statement.field "result" :: ·) := by
  unfold resultsFrom
  rw [List.zipIdx_cons, List.mapM_cons]
  dsimp only
  rw [statementResult_of_not_failed h]
  cases (statements.zipIdx (n + 1)).mapM fun (s, i) => statementResult s i with
  | error err => rfl
  | ok results => rfl

/-- If no statement failed, the results are those of the statements. -/
theorem resultsFrom_of_not_failed {statements : List Json}
    (h : ∀ statement ∈ statements, ¬ Failed statement) (n : Nat) :
    resultsFrom n statements = .ok (statements.map (Json.field "result")) := by
  induction statements generalizing n with
  | nil => rfl
  | cons statement statements ih =>
    rw [resultsFrom_cons_of_not_failed (h statement List.mem_cons_self),
      ih fun other hother => h other (List.mem_cons_of_mem statement hother)]
    rfl

/-- The first failed statement decides, whatever those after it returned. -/
theorem resultsFrom_of_failed {before : List Json} {failed : Json}
    (hbefore : ∀ statement ∈ before, ¬ Failed statement) (hfailed : Failed failed)
    (after : List Json) (n : Nat) :
    resultsFrom n (before ++ failed :: after) =
      .error (statementError failed (n + before.length)) := by
  induction before generalizing n with
  | nil => exact resultsFrom_cons_of_failed hfailed n after
  | cons statement before ih =>
    have hindex : n + (statement :: before).length = n + 1 + before.length := by
      rw [List.length_cons]
      omega
    rw [List.cons_append,
      resultsFrom_cons_of_not_failed (hbefore statement List.mem_cons_self),
      ih fun other hother => hbefore other (List.mem_cons_of_mem statement hother), hindex]
    rfl

/-- A list with a failed statement has a first one. -/
theorem exists_first_failed {statements : List Json} (h : ∃ s ∈ statements, Failed s) :
    ∃ before failed after, statements = before ++ failed :: after ∧
      (∀ statement ∈ before, ¬ Failed statement) ∧ Failed failed := by
  induction statements with
  | nil =>
    obtain ⟨s, hs, -⟩ := h
    cases hs
  | cons statement statements ih =>
    rcases Classical.em (Failed statement) with hfailed | hnot
    · exact ⟨[], statement, statements, rfl, nofun, hfailed⟩
    · have hrest : ∃ s ∈ statements, Failed s := by
        obtain ⟨s, hs, hfailed⟩ := h
        rcases List.mem_cons.mp hs with rfl | hs
        · exact absurd hfailed hnot
        · exact ⟨s, hs, hfailed⟩
      obtain ⟨before, failed, after, rfl, hbefore, hfailed⟩ := ih hrest
      exact ⟨statement :: before, failed, after, rfl,
        List.forall_mem_cons.mpr ⟨hnot, hbefore⟩, hfailed⟩

/-! ## Replies -/

theorem replyError?_eq_none_iff {reply : Reply} :
    replyError? reply = none ↔ reply.status < 400 ∧ reply.body.get? "error" = none := by
  unfold replyError? Reply.tooManyRequests Reply.isFailure
  split
  · refine ⟨nofun, fun h => ?_⟩
    omega
  · split
    · refine ⟨nofun, fun h => ?_⟩
      omega
    · cases reply.body.get? "error" with
      | some e => simp
      | none => simp

/-- The results of a reply that lists its statements are theirs. -/
theorem statementResults_of_lists {reply : Reply} {statements : List Json}
    (h : Lists reply statements) : statementResults reply = resultsFrom 0 statements := by
  unfold statementResults
  rw [replyError?_eq_none_iff.mpr ⟨h.status, h.noError⟩, h.result]
  rfl

/-- A reply that lists no statements has no results. -/
theorem exists_lists_of_ok {reply : Reply} {results : List Json}
    (h : statementResults reply = .ok results) : ∃ statements, Lists reply statements := by
  unfold statementResults at h
  split at h
  · cases h
  · rename_i hnone
    split at h
    · rename_i statements harray
      obtain ⟨v, hv, hitems⟩ := Option.bind_eq_some_iff.mp harray
      obtain ⟨hstatus, herror⟩ := replyError?_eq_none_iff.mp hnone
      cases v with
      | arr items =>
        cases hitems
        exact ⟨statements, hstatus, herror, hv⟩
      | _ => cases hitems
    · cases h

/-- **A reply has results if and only if it lists statements and none of them failed**; then they
are the results of the statements, one for each. -/
theorem statementResults_eq_ok_iff {reply : Reply} {results : List Json} :
    statementResults reply = .ok results ↔
      ∃ statements, Lists reply statements ∧ (∀ statement ∈ statements, ¬ Failed statement) ∧
        results = statements.map (Json.field "result") := by
  constructor
  · intro h
    obtain ⟨statements, hlists⟩ := exists_lists_of_ok h
    rw [statementResults_of_lists hlists] at h
    by_cases hfailed : ∃ s ∈ statements, Failed s
    · obtain ⟨before, failed, after, rfl, hbefore, hfailed⟩ := exists_first_failed hfailed
      rw [resultsFrom_of_failed hbefore hfailed] at h
      cases h
    · have hnone : ∀ statement ∈ statements, ¬ Failed statement :=
        fun statement hmem hs => hfailed ⟨statement, hmem, hs⟩
      rw [resultsFrom_of_not_failed hnone] at h
      cases h
      exact ⟨statements, hlists, hnone, rfl⟩
  · rintro ⟨statements, hlists, hnone, rfl⟩
    rw [statementResults_of_lists hlists, resultsFrom_of_not_failed hnone]

/-- **The first failed statement is the error of a reply that lists its statements.** -/
theorem statementResults_of_failed {reply : Reply} {before after : List Json} {failed : Json}
    (h : Lists reply (before ++ failed :: after))
    (hbefore : ∀ statement ∈ before, ¬ Failed statement) (hfailed : Failed failed) :
    statementResults reply = .error (statementError failed before.length) := by
  rw [statementResults_of_lists h, resultsFrom_of_failed hbefore hfailed, Nat.zero_add]

end RetrievalKit.Surreal
