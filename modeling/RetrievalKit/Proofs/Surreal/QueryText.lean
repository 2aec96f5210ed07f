import RetrievalKit.Surreal.Command

/-!
# The text of a query

How a database reads the text of a query: as names, parameters and marks, in statements that end
with a semicolon.  A parameter is a dollar sign with the name that follows it.

* `tokens` — the tokens of a text, read character by character by `Lexer.step`;
* `statementsOf` — the tokens of each statement;
* `parametersOf` — the names of the parameters among some tokens;
* `Lexer.feed_append` — a text is read piece by piece;
* `Lexer.feed_parameter` — the name of a parameter is all that is read of it;
* `Lexer.feed_of_no_dollar` — a text without a dollar sign has no parameters;
* `parametersIn_name` — the parameters of a text, from the first one on.
-/

namespace RetrievalKit.Surreal

/-- A token of a query. -/
inductive Token where
  | parameter (name : String)
  | word (text : String)
  | mark (c : Char)
  deriving DecidableEq, Repr

/-- The name, if the token is a parameter. -/
def Token.parameter? : Token → Option String
  | .parameter name => some name
  | _ => none

/-- The names of the parameters among some tokens. -/
def parametersOf (ts : List Token) : List String := ts.filterMap Token.parameter?

@[simp] theorem parametersOf_append (ts us : List Token) :
    parametersOf (ts ++ us) = parametersOf ts ++ parametersOf us :=
  List.filterMap_append

/-! ## Reading tokens -/

/-- The token at hand while a text is read. -/
inductive Lexer where
  | ready
  | word (held : List Char)
  | parameter (held : List Char)
  deriving DecidableEq, Repr

namespace Lexer

/-- The token at hand, when it ends. -/
def close : Lexer → List Token
  | .ready => []
  | .word held => [.word (String.ofList held)]
  | .parameter held => [.parameter (String.ofList held)]

/-- One more character of a name. -/
def extend (c : Char) : Lexer → Lexer
  | .ready => .word [c]
  | .word held => .word (held ++ [c])
  | .parameter held => .parameter (held ++ [c])

def isBlank (c : Char) : Bool := c == ' ' || c == '\t' || c == '\n' || c == '\r'

/-- Takes one character; answers the tokens that it completes. -/
def step (l : Lexer) (c : Char) : Lexer × List Token :=
  if isIdentifierChar c then (l.extend c, [])
  else if c = '$' then (.parameter [], l.close)
  else if isBlank c then (.ready, l.close)
  else (.ready, l.close ++ [.mark c])

/-- Takes some characters; answers the tokens that they complete. -/
def feed (l : Lexer) : List Char → Lexer × List Token
  | [] => (l, [])
  | c :: cs =>
    let (l, ts) := l.step c
    let (l, later) := feed l cs
    (l, ts ++ later)

theorem feed_append (l : Lexer) (cs ds : List Char) :
    l.feed (cs ++ ds) =
      (((l.feed cs).1.feed ds).1, (l.feed cs).2 ++ ((l.feed cs).1.feed ds).2) := by
  induction cs generalizing l with
  | nil => simp [feed]
  | cons c cs ih => simp [feed, ih, List.append_assoc]

/-- A text is read in two parts if no token is at hand between them. -/
theorem feed_append_of_ready {l : Lexer} {cs : List Char} {ts : List Token}
    (h : l.feed cs = (.ready, ts)) (ds : List Char) :
    l.feed (cs ++ ds) = ((ready.feed ds).1, ts ++ (ready.feed ds).2) := by
  rw [feed_append, h]

/-- The name of a parameter is all that is read of it. -/
theorem feed_parameter (held : List Char) {cs : List Char}
    (h : ∀ c ∈ cs, isIdentifierChar c = true) :
    (parameter held).feed cs = (parameter (held ++ cs), []) := by
  induction cs generalizing held with
  | nil => simp [feed]
  | cons c cs ih =>
    have hc : isIdentifierChar c = true := h c List.mem_cons_self
    have hcs := ih (held ++ [c]) fun d hd => h d (List.mem_cons_of_mem c hd)
    simp only [feed, step, hc, if_true, extend, hcs, List.append_assoc, List.singleton_append,
      List.nil_append]

/-- The token at hand is no parameter. -/
def IsQuiet : Lexer → Prop
  | .parameter _ => False
  | _ => True

theorem IsQuiet.close {l : Lexer} (h : l.IsQuiet) : parametersOf l.close = [] := by
  cases l with
  | ready => rfl
  | word held => rfl
  | parameter held => exact h.elim

theorem IsQuiet.step {l : Lexer} (h : l.IsQuiet) {c : Char} (hc : c ≠ '$') :
    (l.step c).1.IsQuiet ∧ parametersOf (l.step c).2 = [] := by
  unfold Lexer.step
  split
  · refine ⟨?_, rfl⟩
    cases l with
    | ready => trivial
    | word held => trivial
    | parameter held => exact h.elim
  · split
    · exact ⟨trivial, h.close⟩
    · refine ⟨trivial, ?_⟩
      rw [parametersOf_append, h.close]
      rfl

/-- A text without a dollar sign has no parameters. -/
theorem feed_of_no_dollar {l : Lexer} (h : l.IsQuiet) {cs : List Char} (hcs : '$' ∉ cs) :
    (l.feed cs).1.IsQuiet ∧ parametersOf (l.feed cs).2 = [] := by
  induction cs generalizing l with
  | nil => exact ⟨h, rfl⟩
  | cons c cs ih =>
    simp only [List.mem_cons, not_or] at hcs
    obtain ⟨hquiet, hnone⟩ := h.step (Ne.symm hcs.1)
    obtain ⟨hrest, hnone'⟩ := ih hquiet hcs.2
    refine ⟨hrest, ?_⟩
    show parametersOf ((l.step c).2 ++ ((l.step c).1.feed cs).2) = []
    rw [parametersOf_append, hnone, hnone']
    rfl

end Lexer

/-- The tokens of a text. -/
def tokens (text : String) : List Token :=
  let r := Lexer.ready.feed text.toList
  r.2 ++ r.1.close

/-! ## Parameters -/

/-- A character that may not stand in a name ends the token at hand. -/
theorem Lexer.feed_of_break (l : Lexer) {c : Char} (hc : isIdentifierChar c = false)
    (cs : List Char) :
    l.feed (c :: cs) =
      ((ready.feed (c :: cs)).1, l.close ++ (ready.feed (c :: cs)).2) := by
  unfold feed step
  simp only [hc, Bool.false_eq_true, if_false]
  split
  · simp [close]
  · split <;> simp [close]

/-- The names of the parameters of a text. -/
def parametersIn (text : List Char) : List String :=
  parametersOf ((Lexer.ready.feed text).2 ++ (Lexer.ready.feed text).1.close)

theorem parametersOf_tokens (text : String) :
    parametersOf (tokens text) = parametersIn text.toList := rfl

theorem parametersIn_of_no_dollar {text : List Char} (h : '$' ∉ text) : parametersIn text = [] := by
  obtain ⟨hquiet, hnone⟩ := Lexer.feed_of_no_dollar (l := .ready) trivial h
  unfold parametersIn
  rw [parametersOf_append, hnone, hquiet.close]
  rfl

/-- The first parameter of a text: a beginning without parameters, a dollar sign, the name, and
a rest that does not continue the name. -/
theorem parametersIn_name {start rest : List Char} {name : String} (hstart : '$' ∉ start)
    (hname : ∀ c ∈ name.toList, isIdentifierChar c = true)
    (hrest : ∀ c ∈ rest.head?, isIdentifierChar c = false) :
    parametersIn (start ++ '$' :: (name.toList ++ rest)) = name :: parametersIn rest := by
  obtain ⟨hquiet, hnone⟩ := Lexer.feed_of_no_dollar (l := .ready) trivial hstart
  have hread : (Lexer.parameter []).feed name.toList = (.parameter name.toList, []) :=
    Lexer.feed_parameter [] hname
  have hdollar (l : Lexer) : l.feed ('$' :: (name.toList ++ rest)) =
      (((Lexer.parameter name.toList).feed rest).1,
        l.close ++ ((Lexer.parameter name.toList).feed rest).2) := by
    show (((Lexer.parameter []).feed (name.toList ++ rest)).1,
      l.close ++ ((Lexer.parameter []).feed (name.toList ++ rest)).2) = _
    rw [Lexer.feed_append, hread]
    rfl
  have hafter : parametersOf (((Lexer.parameter name.toList).feed rest).2 ++
      ((Lexer.parameter name.toList).feed rest).1.close) = name :: parametersIn rest := by
    cases rest with
    | nil =>
      show [String.ofList name.toList] = [name]
      rw [String.ofList_toList]
    | cons c rest =>
      rw [Lexer.feed_of_break _ (hrest c rfl), List.append_assoc, parametersOf_append]
      show String.ofList name.toList :: parametersIn (c :: rest) = _
      rw [String.ofList_toList]
  unfold parametersIn at hafter ⊢
  rw [Lexer.feed_append, hdollar, List.append_assoc, List.append_assoc, parametersOf_append,
    parametersOf_append, hnone, hquiet.close, hafter]
  rfl

/-! ## Statements -/

/-- The tokens of each statement, after the tokens `held` of the first one. -/
def statementsFrom (held : List Token) : List Token → List (List Token)
  | [] => if held.isEmpty then [] else [held]
  | t :: ts =>
    if t = .mark ';' then held :: statementsFrom [] ts else statementsFrom (held ++ [t]) ts

/-- The tokens of each statement of a text. -/
def statementsOf (text : String) : List (List Token) := statementsFrom [] (tokens text)

theorem statementsFrom_append {clause : List Token} (h : Token.mark ';' ∉ clause)
    (held ts : List Token) :
    statementsFrom held (clause ++ .mark ';' :: ts) =
      (held ++ clause) :: statementsFrom [] ts := by
  induction clause generalizing held with
  | nil => simp [statementsFrom]
  | cons t clause ih =>
    simp only [List.mem_cons, not_or] at h
    rw [List.cons_append, statementsFrom, if_neg (Ne.symm h.1), ih h.2, List.append_assoc]
    rfl

/-- Texts that end their statements, one after the other, are read one after the other. -/
theorem statementsOf_join {α : Type} (text : α → String) (clause : α → List Token)
    (items : List α)
    (hread : ∀ a ∈ items, Lexer.ready.feed (text a).toList = (.ready, clause a ++ [.mark ';']))
    (hclause : ∀ a ∈ items, Token.mark ';' ∉ clause a) :
    statementsOf (String.join (items.map text)) = items.map clause ∧
      tokens (String.join (items.map text)) = items.flatMap fun a => clause a ++ [.mark ';'] := by
  have hfeed : Lexer.ready.feed (String.join (items.map text)).toList =
      (.ready, items.flatMap fun a => clause a ++ [.mark ';']) := by
    clear hclause
    rw [String.toList_join, List.flatMap_map]
    induction items with
    | nil => rfl
    | cons a items ih =>
      rw [List.flatMap_cons, Lexer.feed_append_of_ready (hread a List.mem_cons_self),
        ih fun b hb => hread b (List.mem_cons_of_mem a hb), List.flatMap_cons]
  have htokens : tokens (String.join (items.map text)) =
      items.flatMap fun a => clause a ++ [.mark ';'] := by
    unfold tokens
    rw [hfeed]
    exact List.append_nil _
  refine ⟨?_, htokens⟩
  unfold statementsOf
  rw [htokens]
  clear hfeed htokens hread
  induction items with
  | nil => rfl
  | cons a items ih =>
    rw [List.flatMap_cons, List.append_assoc, List.singleton_append,
      statementsFrom_append (hclause a List.mem_cons_self), List.nil_append,
      ih fun b hb => hclause b (List.mem_cons_of_mem a hb), List.map_cons]

end RetrievalKit.Surreal
