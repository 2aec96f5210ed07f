import RetrievalKit.Proofs.Json.Dict
import RetrievalKit.Proofs.Surreal.QueryText
import RetrievalKit.Surreal.Rpc

/-!
# Statements on records

The statements that a database executes on records, as it reads them from the tokens of a text.
They name the parameters that hold the table, the key of the record and its content.

* `Query.clause`, `Query.read?` — a statement as tokens, and back;
* `Statement.feed_text` — the text of each statement that a store sends on records reads as the
  statement with the same number;
* `Command.statementsOf_text` — the text of a command reads as its statements in order;
* `Request.query?` — the text and the variables that a request carries.
-/

namespace RetrievalKit

namespace Surreal

/-- A statement on records, with the names of its parameters. -/
inductive Query where
  | upsert (table key content : String)
  | create (table content : String)
  | delete (table key : String)
  | fetch (table key : String)
  deriving DecidableEq, Repr

namespace Query

/-- The tokens of a statement, without the semicolon. -/
def clause : Query → List Token
  | .upsert table key content =>
    [.word "UPSERT", .word "type", .mark ':', .mark ':', .word "thing", .mark '(',
     .parameter table, .mark ',', .parameter key, .mark ')', .word "CONTENT", .parameter content,
     .word "RETURN", .word "id"]
  | .create table content =>
    [.word "CREATE", .word "type", .mark ':', .mark ':', .word "table", .mark '(',
     .parameter table, .mark ')', .word "CONTENT", .parameter content, .word "RETURN", .word "id"]
  | .delete table key =>
    [.word "DELETE", .word "type", .mark ':', .mark ':', .word "thing", .mark '(',
     .parameter table, .mark ',', .parameter key, .mark ')']
  | .fetch table key =>
    [.word "SELECT", .word "id", .mark ',', .word "text", .mark ',', .word "metadata",
     .word "FROM", .word "type", .mark ':', .mark ':', .word "thing", .mark '(',
     .parameter table, .mark ',', .parameter key, .mark ')']

/-- The statement that the tokens form, if they form one. -/
def read? : List Token → Option Query
  | [.word "UPSERT", .word "type", .mark ':', .mark ':', .word "thing", .mark '(',
     .parameter table, .mark ',', .parameter key, .mark ')', .word "CONTENT", .parameter content,
     .word "RETURN", .word "id"] => some (.upsert table key content)
  | [.word "CREATE", .word "type", .mark ':', .mark ':', .word "table", .mark '(',
     .parameter table, .mark ')', .word "CONTENT", .parameter content, .word "RETURN",
     .word "id"] => some (.create table content)
  | [.word "DELETE", .word "type", .mark ':', .mark ':', .word "thing", .mark '(',
     .parameter table, .mark ',', .parameter key, .mark ')'] => some (.delete table key)
  | [.word "SELECT", .word "id", .mark ',', .word "text", .mark ',', .word "metadata",
     .word "FROM", .word "type", .mark ':', .mark ':', .word "thing", .mark '(',
     .parameter table, .mark ',', .parameter key, .mark ')'] => some (.fetch table key)
  | _ => none

theorem read?_clause (q : Query) : read? q.clause = some q := by
  cases q with
  | upsert table key content => rfl
  | create table content => rfl
  | delete table key => rfl
  | fetch table key => rfl

theorem semicolon_not_mem_clause (q : Query) : Token.mark ';' ∉ q.clause := by
  cases q <;> simp [clause]

/-- The names of the parameters of a statement. -/
def names : Query → List String
  | .upsert table key content => [table, key, content]
  | .create table content => [table, content]
  | .delete table key => [table, key]
  | .fetch table key => [table, key]

theorem parametersOf_clause (q : Query) : parametersOf q.clause = q.names := by
  cases q <;> rfl

end Query

/-! ## The texts of a store -/

/-- The decimal digits of a number may stand in a name. -/
theorem isIdentifierChar_of_mem_digits {i : Nat} {c : Char} (h : c ∈ (toString i).toList) :
    isIdentifierChar c = true := by
  rw [Nat.toString_eq_ofList_toDigits, String.toList_ofList] at h
  have hd : c.isDigit = true := Nat.isDigit_of_mem_toDigits (by decide) (by decide) h
  simp [isIdentifierChar, Char.isAlphanum, hd]

theorem isIdentifierChar_numbered {base : String} (hbase : base.toList.all isIdentifierChar = true)
    (i : Nat) : ∀ c ∈ (base ++ toString i).toList, isIdentifierChar c = true := by
  intro c hc
  rw [String.toList_append] at hc
  rcases List.mem_append.mp hc with hc | hc
  · exact List.all_eq_true.mp hbase c hc
  · exact isIdentifierChar_of_mem_digits hc

theorem isIdentifierChar_idVariable (i : Nat) :
    ∀ c ∈ (idVariable i).toList, isIdentifierChar c = true :=
  isIdentifierChar_numbered (by decide) i

theorem isIdentifierChar_contentVariable (i : Nat) :
    ∀ c ∈ (contentVariable i).toList, isIdentifierChar c = true :=
  isIdentifierChar_numbered (by decide) i

/-- A parameter in the middle of a text: a beginning up to the dollar sign, the name, and the
rest. -/
theorem Lexer.feed_name {l last : Lexer} {start rest : List Char} {ts us : List Token}
    {name : String} (hstart : l.feed start = (parameter [], ts))
    (hname : ∀ c ∈ name.toList, isIdentifierChar c = true)
    (hrest : (parameter name.toList).feed rest = (last, us)) :
    l.feed (start ++ (name.toList ++ rest)) = (last, ts ++ us) := by
  have hname' : (parameter []).feed name.toList = (parameter name.toList, []) :=
    feed_parameter [] hname
  rw [feed_append, hstart, feed_append, hname', hrest]
  rfl

/-- The end of a statement that answers the record's name, after the parameter before it. -/
theorem Lexer.feed_return (name : String) :
    (parameter name.toList).feed " RETURN id;\n".toList =
      (ready, [.parameter name, .word "RETURN", .word "id", .mark ';']) := by
  have hread : (parameter name.toList).feed " RETURN id;\n".toList =
      (ready, [.parameter (String.ofList name.toList), .word "RETURN", .word "id",
        .mark ';']) := rfl
  rw [hread, String.ofList_toList]

/-- The end of a statement on a key, after the parameter with the key. -/
theorem Lexer.feed_closing (name : String) :
    (parameter name.toList).feed ");\n".toList =
      (ready, [.parameter name, .mark ')', .mark ';']) := by
  have hread : (parameter name.toList).feed ");\n".toList =
      (ready, [.parameter (String.ofList name.toList), .mark ')', .mark ';']) := rfl
  rw [hread, String.ofList_toList]

/-- The statement on records that a store sends. -/
def Statement.query? : Statement → Option Query
  | .upsert i => some (.upsert "tb" (idVariable i) (contentVariable i))
  | .create i => some (.create "tb" (contentVariable i))
  | .delete i => some (.delete "tb" (idVariable i))
  | .fetch i => some (.fetch "tb" (idVariable i))
  | _ => none

/-- **The text of a statement on records reads as that statement.** -/
theorem Statement.feed_text {s : Statement} {q : Query} (h : s.query? = some q) :
    Lexer.ready.feed s.text.toList = (.ready, q.clause ++ [.mark ';']) := by
  cases s with
  | defineIndex table dimension distance => cases h
  | removeTable table => cases h
  | nearest distance keys => cases h
  | upsert i =>
    cases h
    have htext : (Statement.upsert i).text = "UPSERT type::thing($tb, $" ++ idVariable i ++
      ") CONTENT $" ++ contentVariable i ++ " RETURN id;\n" := rfl
    have hstart : Lexer.ready.feed "UPSERT type::thing($tb, $".toList =
      (.parameter [], [.word "UPSERT", .word "type", .mark ':', .mark ':', .word "thing",
        .mark '(', .parameter "tb", .mark ',']) := rfl
    have hmiddle : (Lexer.parameter (idVariable i).toList).feed ") CONTENT $".toList =
      (.parameter [], [.parameter (String.ofList (idVariable i).toList), .mark ')',
        .word "CONTENT"]) := rfl
    rw [String.ofList_toList] at hmiddle
    rw [htext]
    simp only [String.toList_append, List.append_assoc]
    have hread := Lexer.feed_name hstart (isIdentifierChar_idVariable i)
      (Lexer.feed_name hmiddle (isIdentifierChar_contentVariable i) (Lexer.feed_return _))
    exact hread
  | create i =>
    cases h
    have htext : (Statement.create i).text = "CREATE type::table($tb) CONTENT $" ++
      contentVariable i ++ " RETURN id;\n" := rfl
    have hstart : Lexer.ready.feed "CREATE type::table($tb) CONTENT $".toList =
      (.parameter [], [.word "CREATE", .word "type", .mark ':', .mark ':', .word "table",
        .mark '(', .parameter "tb", .mark ')', .word "CONTENT"]) := rfl
    rw [htext]
    simp only [String.toList_append, List.append_assoc]
    have hread := Lexer.feed_name hstart (isIdentifierChar_contentVariable i) (Lexer.feed_return _)
    exact hread
  | delete i =>
    cases h
    have htext : (Statement.delete i).text = "DELETE type::thing($tb, $" ++ idVariable i ++
      ");\n" := rfl
    have hstart : Lexer.ready.feed "DELETE type::thing($tb, $".toList =
      (.parameter [], [.word "DELETE", .word "type", .mark ':', .mark ':', .word "thing",
        .mark '(', .parameter "tb", .mark ',']) := rfl
    rw [htext]
    simp only [String.toList_append, List.append_assoc]
    have hread := Lexer.feed_name hstart (isIdentifierChar_idVariable i) (Lexer.feed_closing _)
    exact hread
  | fetch i =>
    cases h
    have htext : (Statement.fetch i).text = "SELECT id, text, metadata FROM type::thing($tb, $" ++
      idVariable i ++ ");\n" := rfl
    have hstart : Lexer.ready.feed "SELECT id, text, metadata FROM type::thing($tb, $".toList =
      (.parameter [], [.word "SELECT", .word "id", .mark ',', .word "text", .mark ',',
        .word "metadata", .word "FROM", .word "type", .mark ':', .mark ':', .word "thing",
        .mark '(', .parameter "tb", .mark ',']) := rfl
    rw [htext]
    simp only [String.toList_append, List.append_assoc]
    have hread := Lexer.feed_name hstart (isIdentifierChar_idVariable i) (Lexer.feed_closing _)
    exact hread

/-- **The text of a command on records reads as its statements in order.** -/
theorem Command.statementsOf_text {c : Command} {queries : List Query}
    (h : c.statements.map Statement.query? = queries.map some) :
    statementsOf c.text = queries.map Query.clause ∧
      tokens c.text = queries.flatMap fun q => q.clause ++ [.mark ';'] := by
  unfold Command.text
  have hget : ∀ s ∈ c.statements, ∃ q, s.query? = some q := by
    intro s hs
    have hmem : s.query? ∈ queries.map some := by
      rw [← h]
      exact List.mem_map_of_mem hs
    obtain ⟨q, _, hq⟩ := List.mem_map.mp hmem
    exact ⟨q, hq.symm⟩
  have hread := statementsOf_join Statement.text
    (fun s => ((s.query?.map Query.clause).getD [])) c.statements
    (fun s hs => by
      obtain ⟨q, hq⟩ := hget s hs
      simp only [hq, Option.map_some, Option.getD_some]
      exact Statement.feed_text hq)
    (fun s hs => by
      obtain ⟨q, hq⟩ := hget s hs
      simp only [hq, Option.map_some, Option.getD_some]
      exact q.semicolon_not_mem_clause)
  have hmap : ∀ {β : Type} (f : List Token → β), c.statements.map
      (fun s => f ((s.query?.map Query.clause).getD [])) = queries.map (f ∘ Query.clause) := by
    intro β f
    have := congrArg (List.map fun q : Option Query => f ((q.map Query.clause).getD [])) h
    simpa [Function.comp_def] using this
  refine ⟨hread.1.trans (hmap id), hread.2.trans ?_⟩
  rw [List.flatMap_def, List.flatMap_def, hmap fun ts => ts ++ [Token.mark ';']]
  rfl

/-- The statement that writes document `i`: under its identifier if it has one. -/
def Query.write (d : Document) (i : Nat) : Query :=
  if d.hasId then .upsert "tb" (idVariable i) (contentVariable i)
  else .create "tb" (contentVariable i)

theorem statementsOf_add (c : Config) (documents : List (Document × Vector32)) :
    let queries := documents.zipIdx.map fun (d, i) => Query.write d.1 i
    statementsOf (Command.add c documents).text = queries.map Query.clause ∧
      tokens (Command.add c documents).text =
        queries.flatMap fun q => q.clause ++ [.mark ';'] := by
  intro queries
  apply Command.statementsOf_text
  show List.map Statement.query? (List.map _ _) = List.map some (List.map _ _)
  rw [List.map_map, List.map_map]
  apply List.map_congr_left
  intro entry _
  show Statement.query? (Command.writeStatement entry.1.1 entry.2) =
    some (Query.write entry.1.1 entry.2)
  unfold Command.writeStatement Query.write
  split
  · rfl
  · rfl

/-- Statements on given keys, one for each number. -/
theorem statementsOf_numbered {statement : Nat → Statement} {query : Nat → Query}
    (h : ∀ i, (statement i).query? = some (query i)) (n : Nat) (bindings : Dict) :
    let text := Command.text ⟨(List.range n).map statement, bindings⟩
    statementsOf text = (List.range n).map (fun i => (query i).clause) ∧
      tokens text = (List.range n).flatMap fun i => (query i).clause ++ [.mark ';'] := by
  intro text
  have hstatements : ((List.range n).map statement).map Statement.query? =
      ((List.range n).map query).map some := by
    rw [List.map_map, List.map_map]
    exact List.map_congr_left fun i _ => h i
  have hread := Command.statementsOf_text (c := ⟨(List.range n).map statement, bindings⟩)
    hstatements
  rw [List.map_map, List.flatMap_map] at hread
  exact hread

end Surreal

/-! ## Requests -/

/-- The text and the variables of the query that a request carries. -/
def Request.query? (r : Request) : Option (String × Dict) :=
  match r.body.get? "method", r.body.get? "params" with
  | some (.str "query"), some (.arr [.str text, .obj bindings]) => some (text, bindings)
  | _, _ => none

namespace Surreal

theorem query?_callRequest (c : Config) (id : Nat) (command : Command) :
    (callRequest c id command).query? = some (command.text, command.bindings) := by
  have hnames : (["id", "method", "params"] : List String).Nodup := by decide
  have hmethod : (callRequest c id command).body.get? "method" = some (.str "query") :=
    Dict.get?_ofList_of_mem hnames (List.mem_cons_of_mem _ List.mem_cons_self)
  have hparams : (callRequest c id command).body.get? "params" =
      some (.arr [.str command.text, .obj command.bindings]) :=
    Dict.get?_ofList_of_mem hnames
      (List.mem_cons_of_mem _ (List.mem_cons_of_mem _ List.mem_cons_self))
  unfold Request.query?
  rw [hmethod, hparams]
  rfl

end Surreal

end RetrievalKit
