import RetrievalKit.Proofs.Sse.Characters
import RetrievalKit.Proofs.Sse.Lines

/-!
# The events of a sequence of bytes

The decoder holds back the bytes of a character that is not complete, the characters of a line that
has not ended and the lines of an event without its blank line.  What it yields is nevertheless a
matter of the bytes as a whole.

* `Decoder.feed_snd` — the decoder reads characters, of these lines, and of these events;
* `eventsFrom_chunks` — chunks are read like their concatenation;
* `events_of_isText` — the events of a stream are those of the lines of its text that have ended,
  and what the decoder says of the bytes behind the text.
-/

namespace RetrievalKit.Sse

/-- The decoder reads characters, of these lines, and of these events. -/
theorem Decoder.feed_snd (d : Decoder) (bytes : List UInt8) :
    (d.feed bytes).2 =
      (feedValues d.values (d.line.feed (d.utf8.feed bytes).2).2).2 := by
  induction bytes generalizing d with
  | nil => rfl
  | cons byte rest ih =>
    rw [Decoder.feed, Decoder.step, Utf8.State.feed]
    rcases d.utf8.step byte with ⟨utf8, _ | c⟩
    · exact ih { d with utf8 := utf8 }
    · dsimp only [Decoder.stepChar]
      rw [Option.toList_some, List.singleton_append, LineState.feed]
      rcases d.line.step c with ⟨line, _ | ended⟩
      · exact ih { d with utf8 := utf8, line := line }
      · exact congrArg ((stepLine d.values ended).2.toList ++ ·)
          (ih ⟨utf8, line, (stepLine d.values ended).1⟩)

theorem Decoder.stepChar_utf8 (d : Decoder) (c : Char) : (d.stepChar c).1.utf8 = d.utf8 := by
  unfold Decoder.stepChar
  split
  · rfl
  · rfl

theorem Decoder.feed_utf8 (d : Decoder) (bytes : List UInt8) :
    (d.feed bytes).1.utf8 = (d.utf8.feed bytes).1 := by
  induction bytes generalizing d with
  | nil => rfl
  | cons byte rest ih =>
    rw [Decoder.feed, Decoder.step, Utf8.State.feed]
    rcases d.utf8.step byte with ⟨utf8, _ | c⟩
    · exact ih { d with utf8 := utf8 }
    · have hrest := ih (Decoder.stepChar { d with utf8 := utf8 } c).1
      rw [Decoder.stepChar_utf8] at hrest
      exact hrest

/-- Chunks are read like their concatenation. -/
theorem eventsFrom_chunks (d : Decoder) (chunks : List (List UInt8)) :
    eventsFrom d (chunks.map .ok) = eventsFrom d [.ok chunks.flatten] := by
  induction chunks generalizing d with
  | nil => rfl
  | cons chunk chunks ih =>
    simp only [List.map_cons, List.flatten_cons, eventsFrom, ih, Decoder.feed_append,
      List.map_append, List.append_assoc]

/-- What the decoder says of bytes that are no text, at the end of a stream. -/
def leftover (rest : List UInt8) : List (Except Error String) :=
  ((Utf8.State.feed .ready rest).1.complaint?.map fun text =>
    .error (readError ("UTF8 error: " ++ text))).toList

/-- **The events of a stream**: those of the lines of its text that have ended, and what the
decoder says of the bytes behind the text. -/
theorem events_of_isText {chunks : List (List UInt8)} {text : List Char} {rest : List UInt8}
    (h : Utf8.IsText chunks.flatten text rest) :
    events (chunks.map .ok) = (dispatched (completeLines text)).map .ok ++ leftover rest := by
  have hbytes : Utf8.State.feed .ready chunks.flatten =
      ((Utf8.State.feed .ready rest).1, text) := Utf8.State.feed_of_isText h
  have hevents : (Decoder.start.feed chunks.flatten).2 = dispatched (completeLines text) := by
    rw [Decoder.feed_snd]
    show (feedValues [] (LineState.start.feed (Utf8.State.feed .ready chunks.flatten).2).2).2 = _
    rw [hbytes, LineState.feed_start, feedValues_nil]
  have hutf8 : (Decoder.start.feed chunks.flatten).1.utf8 = (Utf8.State.feed .ready rest).1 := by
    rw [Decoder.feed_utf8]
    show (Utf8.State.feed .ready chunks.flatten).1 = _
    rw [hbytes]
  rw [events, eventsFrom_chunks]
  show (Decoder.start.feed chunks.flatten).2.map .ok ++
    eventsFrom (Decoder.start.feed chunks.flatten).1 [] = _
  rw [hevents, eventsFrom, hutf8]
  rfl

/-- The bytes of an event with one line of data. -/
def eventBytes (data : String) : List UInt8 :=
  ("data:" ++ data ++ "\n\n").toList.flatMap String.utf8EncodeChar

end RetrievalKit.Sse
