import RetrievalKit.Sse.Decoder

/-!
# Lines and events of a whole text

What the decoder does character by character, said of a text as a whole.

* `completeLines` — the lines of a text that have ended; `LineState.feed_start` proves that reading
  the text one character at a time yields them;
* `dispatched` — the events of a list of lines; `feedValues_nil` proves that reading one line at a
  time yields them.
-/

namespace RetrievalKit.Sse

/-! ## Lines -/

/-- A text with every line end written as a line feed.  A carriage return at the very end is no
line end yet. -/
def lineFeeds : List Char → List Char
  | [] => []
  | ['\r'] => []
  | '\r' :: '\n' :: rest => '\n' :: lineFeeds rest
  | '\r' :: rest => '\n' :: lineFeeds rest
  | c :: rest => c :: lineFeeds rest

/-- The lines of a text that have ended. -/
def completeLines (text : List Char) : List (List Char) :=
  ((lineFeeds text).splitOn '\n').dropLast

/-- Takes some characters; answers the lines that they complete. -/
def LineState.feed (s : LineState) : List Char → LineState × List (List Char)
  | [] => (s, [])
  | c :: rest =>
    let r := s.step c
    let later := r.1.feed rest
    (later.1, r.2.toList ++ later.2)

theorem lineFeeds_return {rest : List Char} (hne : rest ≠ []) (hno : ∀ r, rest ≠ '\n' :: r) :
    lineFeeds ('\r' :: rest) = '\n' :: lineFeeds rest :=
  lineFeeds.eq_4 rest hne hno

theorem lineFeeds_cons {c : Char} (hc : c ≠ '\r') (rest : List Char) :
    lineFeeds (c :: rest) = c :: lineFeeds rest :=
  lineFeeds.eq_5 c rest (fun h _ => hc h) (fun _ h _ => hc h) hc

theorem splitOn_dropLast_cons {line : List Char} (h : '\n' ∉ line) (rest : List Char) :
    ((line ++ '\n' :: rest).splitOn '\n').dropLast = line :: (rest.splitOn '\n').dropLast := by
  rw [List.splitOn_append_cons_self_of_not_mem h,
    List.dropLast_cons_of_ne_nil (List.splitOn_ne_nil '\n' rest)]

theorem splitOn_dropLast_of_not_mem {line : List Char} (h : '\n' ∉ line) :
    (line.splitOn '\n').dropLast = [] := by
  rw [List.splitOn_eq_singleton h]
  rfl

/-- A held carriage return ends its line with the next character; unless that is a line feed, it
is read as the first character of the next line. -/
theorem LineState.feed_afterReturn (held : List Char) {c : Char} (hc : c ≠ '\n')
    (rest : List Char) :
    (LineState.feed ⟨held, true⟩ (c :: rest)).2 =
      held.reverse :: (LineState.feed .start (c :: rest)).2 := by
  by_cases hr : c = '\r'
  · subst hr
    rfl
  · simp [LineState.feed, LineState.step, LineState.start, LineState.line, hc, hr]

/-- The lines that end, when part of the first one has arrived already. -/
theorem LineState.feed_eq (held text : List Char) (h : '\n' ∉ held) :
    (LineState.feed ⟨held, false⟩ text).2 =
      ((held.reverse ++ lineFeeds text).splitOn '\n').dropLast := by
  have hrev : '\n' ∉ held.reverse := by simpa using h
  induction text using lineFeeds.induct generalizing held with
  | case1 =>
    rw [lineFeeds, List.append_nil, splitOn_dropLast_of_not_mem hrev]
    rfl
  | case2 =>
    rw [lineFeeds, List.append_nil, splitOn_dropLast_of_not_mem hrev]
    rfl
  | case3 rest ih =>
    rw [lineFeeds, splitOn_dropLast_cons hrev]
    exact congrArg (held.reverse :: ·) (ih [] List.not_mem_nil List.not_mem_nil)
  | case4 rest hne hno ih =>
    rw [lineFeeds_return hne hno, splitOn_dropLast_cons hrev]
    cases rest with
    | nil => exact absurd rfl hne
    | cons c rest =>
      have hc : c ≠ '\n' := fun heq => hno rest (by rw [heq])
      exact (LineState.feed_afterReturn held hc rest).trans
        (congrArg (held.reverse :: ·) (ih [] List.not_mem_nil List.not_mem_nil))
  | case5 c rest _ _ hc ih =>
    rw [lineFeeds_cons hc]
    by_cases hlf : c = '\n'
    · subst hlf
      rw [splitOn_dropLast_cons hrev]
      exact congrArg (held.reverse :: ·) (ih [] List.not_mem_nil List.not_mem_nil)
    · have hheld : '\n' ∉ c :: held := by simp [h, Ne.symm hlf]
      have hstep : LineState.step ⟨held, false⟩ c = (⟨c :: held, false⟩, none) := by
        simp [LineState.step, hlf, show c ≠ '\r' from hc]
      have hnext := ih (c :: held) hheld (by simpa [and_comm] using hheld)
      rw [List.reverse_cons, List.append_assoc] at hnext
      rw [LineState.feed, hstep]
      exact hnext

/-- Reading a text one character at a time yields the lines that have ended. -/
theorem LineState.feed_start (text : List Char) :
    (LineState.feed .start text).2 = completeLines text :=
  LineState.feed_eq [] text List.not_mem_nil

/-! ## Events -/

/-- The event of the lines before a blank one: their data, unless there are none. -/
def eventOf? (block : List (List Char)) : Option String :=
  let values := block.filterMap dataValue?
  if values.isEmpty then none else some (String.ofList (List.intercalate ['\n'] values))

/-- The events of a list of lines: one for each block that a blank line ends, if it has data. -/
def dispatched (lines : List (List Char)) : List String :=
  ((lines.splitOnP List.isEmpty).dropLast).filterMap eventOf?

/-- Takes some lines with the values collected before them; answers the events they dispatch. -/
def feedValues (values : List (List Char)) :
    List (List Char) → List (List Char) × List String
  | [] => (values, [])
  | line :: rest =>
    let r := stepLine values line
    let later := feedValues r.1 rest
    (later.1, r.2.toList ++ later.2)

theorem stepLine_blank (block : List (List Char)) :
    stepLine (block.filterMap dataValue?) [] = ([], eventOf? block) := by
  unfold stepLine eventOf?
  rw [if_pos List.isEmpty_nil]
  dsimp only
  split
  · rfl
  · rfl

theorem stepLine_of_ne_nil (block : List (List Char)) {line : List Char} (h : line ≠ []) :
    stepLine (block.filterMap dataValue?) line =
      ((block ++ [line]).filterMap dataValue?, none) := by
  rw [stepLine, if_neg (by simpa using h), List.filterMap_append]
  cases hvalue : dataValue? line with
  | none => simp [hvalue]
  | some value => simp [hvalue]

/-- The events of some lines, when those of a block that has not ended have arrived already. -/
theorem feedValues_eq (block lines : List (List Char)) (h : ∀ line ∈ block, line.isEmpty = false) :
    (feedValues (block.filterMap dataValue?) lines).2 = dispatched (block ++ lines) := by
  induction lines generalizing block with
  | nil =>
    rw [dispatched, List.append_nil, List.splitOnP_eq_singleton h]
    rfl
  | cons line rest ih =>
    by_cases hline : line = []
    · subst hline
      have hrest := ih [] fun _ h => (List.not_mem_nil h).elim
      rw [feedValues, stepLine_blank, dispatched,
        List.splitOnP_append_cons_of_forall_mem h [] rfl,
        List.dropLast_cons_of_ne_nil (List.splitOnP_ne_nil _ _), List.filterMap_cons]
      dsimp only
      rw [List.filterMap_nil] at hrest
      rw [hrest]
      cases eventOf? block with
      | none => rfl
      | some event => rfl
    · have hblock : ∀ l ∈ block ++ [line], l.isEmpty = false := by
        intro l hl
        rcases List.mem_append.mp hl with hl | hl
        · exact h l hl
        · rw [List.mem_singleton.mp hl]
          simpa using hline
      have hrest := ih (block ++ [line]) hblock
      rw [List.append_assoc] at hrest
      rw [feedValues, stepLine_of_ne_nil block hline]
      exact hrest

/-- Reading lines one at a time yields their events. -/
theorem feedValues_nil (lines : List (List Char)) : (feedValues [] lines).2 = dispatched lines :=
  feedValues_eq [] lines fun _ h => (List.not_mem_nil h).elim

end RetrievalKit.Sse
