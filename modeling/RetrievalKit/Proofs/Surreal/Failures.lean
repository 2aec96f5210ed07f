import RetrievalKit.Proofs.Surreal.Sending
import RetrievalKit.Proofs.Surreal.Statements

/-!
# Operations and failed statements

An operation that has got a reply succeeds only if every statement did.  The batch that is written
in part is an error for its first statement that failed, not a success with fewer documents.

* `Store.run_perform_of_reply` — an operation answers by what its reply stands for;
* `Store.perform_of_reply` — so no failed statement is taken for success.
-/

namespace RetrievalKit.Surreal

variable {σ : Type} {s : Store σ} {e : Embedder σ} {op : Operation} {w w' : Session (Logged σ)}
  {outcome : Except Error Answer} {request : Request} {reply : Reply}

/-- An operation that has got a reply answers by what the reply stands for. -/
theorem Store.run_perform_of_reply
    (hrun : (s.logging.perform e.unlogged.inSession op).run w = (outcome, w'))
    (hreply : w'.world.exchanges = w.world.exchanges ++ [⟨request, .ok reply⟩]) :
    outcome = statementResults reply >>= op.decode := by
  rw [run_perform_logging] at hrun
  cases hidle : op.isIdle with
  | true =>
    rw [hidle, if_pos rfl] at hrun
    cases hrun
    cases List.append_right_eq_self.mp hreply.symm
  | false =>
    rw [hidle, if_neg Bool.false_ne_true] at hrun
    dsimp only at hrun
    cases hchecked : op.checked s.config ((op.embedding e).run w.world.world).1 with
    | error err =>
      rw [hchecked] at hrun
      cases hrun
      cases List.append_right_eq_self.mp hreply.symm
    | ok vectors =>
      rw [hchecked] at hrun
      cases hrun
      have hexchange := List.append_cancel_left hreply
      rw [List.singleton_inj, Exchange.mk.injEq] at hexchange
      rw [hexchange.2]
      rfl

/-- **No failed statement is ever taken for success.**  Whatever reply the one request of an
operation gets, its results count if and only if the reply lists statements none of which failed,
and then there is one for each statement; otherwise the operation is an error.  If statements
failed, the error names the first of them with what the database says about it.  The log that shows
the reply changes nothing. -/
theorem Store.perform_of_reply
    (hrun : (s.logging.perform e.unlogged.inSession op).run w = (outcome, w'))
    (hreply : w'.world.exchanges = w.world.exchanges ++ [⟨request, .ok reply⟩]) :
    (s.perform e.inSession op).run w.unlogged = (outcome, w'.unlogged) ∧
    (∀ results, statementResults reply = .ok results ↔
      ∃ statements, Lists reply statements ∧ (∀ statement ∈ statements, ¬ Failed statement) ∧
        results = statements.map (Json.field "result")) ∧
    (∀ results, statementResults reply = .ok results → outcome = op.decode results) ∧
    ((∀ results, statementResults reply ≠ .ok results) → ∃ err, outcome = .error err) ∧
    ∀ statements, Lists reply statements → (∃ statement ∈ statements, Failed statement) →
      ∃ before failed after, statements = before ++ failed :: after ∧
        (∀ statement ∈ before, ¬ Failed statement) ∧ Failed failed ∧
        outcome = .error ⟨.vectorStore, "SurrealDB statement " ++ toString before.length ++
          " failed: " ++ serverMessage failed⟩ := by
  have houtcome := run_perform_of_reply hrun hreply
  have hplain := s.run_perform_unlogged e op w
  rw [hrun] at hplain
  refine ⟨hplain, fun results => statementResults_eq_ok_iff, ?_, ?_, ?_⟩
  · intro results hresults
    rw [houtcome, hresults]
    rfl
  · intro hnone
    cases hresults : statementResults reply with
    | error err => exact ⟨err, by rw [houtcome, hresults]; rfl⟩
    | ok results => exact absurd hresults (hnone results)
  · intro statements hlists hsome
    obtain ⟨before, failed, after, rfl, hbefore, hfailed⟩ := exists_first_failed hsome
    refine ⟨before, failed, after, rfl, hbefore, hfailed, ?_⟩
    rw [houtcome, statementResults_of_failed hlists hbefore hfailed]
    rfl

/-- Two documents of which the second could not be written. -/
theorem perform_of_reply_partial :
    let c := Config.new "http://localhost:8000" "ns" "db" "documents"
    let written := Json.obj [("result", .arr []), ("status", .str "OK")]
    let refused := Json.obj [("result", .str "record exists"), ("status", .str "ERR")]
    let reply : Reply := ⟨200, .obj [("result", .arr [written, refused])]⟩
    let b : Backend Unit := ⟨fun _ => pure reply, fun _ => pure []⟩
    let e : Embedder Unit := .ofFunction fun _ => []
    let op := Operation.addDocuments [.ofContent "one", .ofContent "two"]
    let w : Session (Logged Unit) := .start ⟨(), []⟩
    ∃ s outcome w' request, Store.ofConfig c b = .ok s ∧
      (s.logging.perform e.unlogged.inSession op).run w = (outcome, w') ∧
      w'.world.exchanges = w.world.exchanges ++ [⟨request, .ok reply⟩] ∧
      outcome = .error ⟨.vectorStore, "SurrealDB statement 1 failed: record exists"⟩ := by
  intro c written refused reply b e op w
  have hvalid : c.validate = .ok () := by decide
  have hwritten : ¬ Failed written := by
    rintro ⟨status, hstatus, hne⟩
    cases hstatus
    exact hne rfl
  have hrefused : Failed refused := ⟨"ERR", rfl, by decide⟩
  have hlists : Lists reply [written, refused] := ⟨by decide, rfl, rfl⟩
  let s : Store Unit := ⟨c, hvalid, b⟩
  let request := callRequest c 1 (op.command c [[], []])
  have hrun : (s.logging.perform e.unlogged.inSession op).run w =
      (_, ⟨⟨(), [⟨request, .ok reply⟩]⟩, 2⟩) := rfl
  obtain ⟨-, -, -, -, hfirst⟩ := Store.perform_of_reply hrun rfl
  obtain ⟨before, failed, after, hsplit, hbefore, hfailed, houtcome⟩ :=
    hfirst _ hlists ⟨refused, List.mem_cons_of_mem _ List.mem_cons_self, hrefused⟩
  refine ⟨s, _, _, request, Store.ofConfig_of_valid hvalid b, hrun, rfl, ?_⟩
  rw [houtcome, Except.error.injEq, Error.mk.injEq]
  -- The failed statement is neither the first nor a third one.
  rcases before with _ | ⟨first, _ | ⟨second, rest⟩⟩
  · cases hsplit
    exact absurd hfailed hwritten
  · cases hsplit
    exact ⟨rfl, by decide⟩
  · simp at hsplit

end RetrievalKit.Surreal
