import RetrievalKit.Json.Printer

/-!
# Record identifiers

The database names a record by its table and a key.  In text the key stands after a colon, bare
or inside one pair of quotes: angle brackets `⟨…⟩` or grave accents.  In JSON the name may also
be an object with the key under `id`.

* `RecordId.angled`, `graved`, `bare` — the three written forms;
* `RecordId.key?` — reading the key from any of the forms.
-/

namespace RetrievalKit.Surreal.RecordId

/-- The grave accent. -/
def grave : Char := Char.ofNat 0x60

/-- A record name with the key in angle brackets. -/
def angled (table key : String) : String := table ++ ":⟨" ++ key ++ "⟩"

/-- A record name with the key between grave accents. -/
def graved (table key : String) : String :=
  table ++ ":" ++ String.singleton grave ++ key ++ String.singleton grave

/-- A record name with the bare key. -/
def bare (table key : String) : String := table ++ ":" ++ key

/-- The text after the first colon, or all of it when there is none. -/
def afterColon (s : List Char) : List Char :=
  match s.dropWhile (· != ':') with
  | _ :: key => key
  | [] => s

/-- The text between a pair of quotes that encloses it. -/
def between? (opening closing : Char) : List Char → Option (List Char)
  | [] => none
  | c :: cs =>
    if c = opening ∧ cs.getLast? = some closing then some cs.dropLast else none

/-- Removes one pair of quotes. -/
def unquote (s : List Char) : List Char :=
  ((between? '⟨' '⟩' s).or (between? grave grave s)).getD s

/-- The key of a record name in text. -/
def keyOfText (s : String) : String := String.ofList (unquote (afterColon s.toList))

/-- The key of a record name in JSON.  Under `id` a text is the key itself, and any other value
counts by its JSON text. -/
def key? : Json → Option String
  | .str s => some (keyOfText s)
  | .obj fields =>
    match Dict.get? "id" fields with
    | some (.str s) => some s
    | some v => some v.render
    | none => none
  | _ => none

end RetrievalKit.Surreal.RecordId
