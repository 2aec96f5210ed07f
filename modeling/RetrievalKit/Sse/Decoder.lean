import RetrievalKit.Sse.Utf8
import RetrievalKit.Wire.Basic

/-!
# Server-sent events

A stream of bytes is a text of lines; a line ends with a line feed, a carriage return, or both.
Lines of the form `data: …` collect, and a blank line dispatches them as one event, joined by
line feeds.  Without any such line nothing is dispatched, and an event that no blank line ends is
lost.

The decoder works byte by byte, so that the division of the bytes into pieces cannot matter.

* `Decoder.step` — one byte, and the event it completes;
* `Decoder.feed` — some bytes;
* `events` — a whole stream of pieces, with the error that ends it, if any.
-/

namespace RetrievalKit.Sse

/-! ## Lines -/

/-- The part of a line that has arrived, last character first. -/
structure LineState where
  held : List Char
  /-- Whether a carriage return has arrived that a line feed may still belong to. -/
  afterReturn : Bool
  deriving DecidableEq, Repr

namespace LineState

def start : LineState := ⟨[], false⟩

/-- The line that has arrived. -/
def line (s : LineState) : List Char := s.held.reverse

/-- Takes one character; answers the line that it completes.  A carriage return completes its
line only with the character after it. -/
def step (s : LineState) (c : Char) : LineState × Option (List Char) :=
  if s.afterReturn then
    if c = '\n' then (start, some s.line)
    else if c = '\r' then (⟨[], true⟩, some s.line)
    else (⟨[c], false⟩, some s.line)
  else if c = '\n' then (start, some s.line)
  else if c = '\r' then (⟨s.held, true⟩, none)
  else (⟨c :: s.held, false⟩, none)

end LineState

/-! ## Events -/

/-- The value of a data line: what follows the colon, without one space. -/
def dataValue? (line : List Char) : Option (List Char) :=
  let name := line.takeWhile (· != ':')
  let value := match line.dropWhile (· != ':') with
    | ':' :: ' ' :: rest => rest
    | ':' :: rest => rest
    | rest => rest
  if name = "data".toList then some value else none

/-- Takes one line with the values collected before it; answers the event that it dispatches.
Lines of other names and comments collect nothing. -/
def stepLine (values : List (List Char)) (line : List Char) :
    List (List Char) × Option String :=
  if line.isEmpty then
    if values.isEmpty then ([], none)
    else ([], some (String.ofList (List.intercalate ['\n'] values)))
  else match dataValue? line with
    | some value => (values ++ [value], none)
    | none => (values, none)

/-! ## Decoding -/

/-- The state of decoding: of characters, of lines, and of the event at hand. -/
structure Decoder where
  utf8 : Utf8.State
  line : LineState
  values : List (List Char)
  deriving DecidableEq, Repr

namespace Decoder

def start : Decoder := ⟨.ready, .start, []⟩

/-- Takes one character; answers the event that it completes. -/
def stepChar (d : Decoder) (c : Char) : Decoder × Option String :=
  match d.line.step c with
  | (line, none) => ({ d with line := line }, none)
  | (line, some text) =>
    let (values, event) := stepLine d.values text
    ({ d with line := line, values := values }, event)

/-- Takes one byte; answers the event that it completes. -/
def step (d : Decoder) (byte : UInt8) : Decoder × Option String :=
  match d.utf8.step byte with
  | (utf8, none) => ({ d with utf8 := utf8 }, none)
  | (utf8, some c) => stepChar { d with utf8 := utf8 } c

/-- Takes some bytes; answers the events that they complete. -/
def feed (d : Decoder) : List UInt8 → Decoder × List String
  | [] => (d, [])
  | byte :: rest =>
    let (d, event) := d.step byte
    let (d, later) := feed d rest
    (d, event.toList ++ later)

theorem feed_append (d : Decoder) (xs ys : List UInt8) :
    d.feed (xs ++ ys) =
      (((d.feed xs).1.feed ys).1, (d.feed xs).2 ++ ((d.feed xs).1.feed ys).2) := by
  induction xs generalizing d with
  | nil => simp [feed]
  | cons x xs ih => simp [feed, ih, List.append_assoc]

end Decoder

/-- The error of a stream that cannot be read on. -/
def readError (text : String) : Error := ⟨.model, "SSE parse error: " ++ text⟩

/-- The events of a stream from a state of decoding on. -/
def eventsFrom (d : Decoder) : List Piece → List (Except Error String)
  | [] => (d.utf8.complaint?.map fun text => .error (readError ("UTF8 error: " ++ text))).toList
  | .error e :: _ => [.error (readError ("Transport error: " ++ e.message))]
  | .ok bytes :: rest =>
    let (d, events) := d.feed bytes
    events.map .ok ++ eventsFrom d rest

/-- The events of a stream.  An error in place of a piece ends it; bytes that are no text are
reported when the stream ends. -/
def events (pieces : List Piece) : List (Except Error String) := eventsFrom .start pieces

end RetrievalKit.Sse
