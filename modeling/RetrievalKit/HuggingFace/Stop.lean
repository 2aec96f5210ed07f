/-!
# Stop sequences

Generated text ends where a stop sequence begins.

* `cutAtStop` — a text up to the earliest place at which a stop sequence occurs;
* `stripStops` — a text without the stop sequences at its end, each tried once in order.
-/

namespace RetrievalKit.HuggingFace

/-- The text before the earliest stop sequence, and whether there is one. -/
def cutAtStop (stops : List (List Char)) : List Char → List Char × Bool
  | [] => ([], false)
  | c :: cs =>
    if stops.any fun stop => stop.isPrefixOf (c :: cs) then ([], true)
    else
      let (before, stopped) := cutAtStop stops cs
      (c :: before, stopped)

/-- The text without one sequence at its end. -/
def stripStop (text stop : List Char) : List Char :=
  if stop.isSuffixOf text then text.take (text.length - stop.length) else text

/-- The text without the sequences at its end: each in turn, once. -/
def stripStops (stops : List (List Char)) (text : List Char) : List Char :=
  stops.foldl stripStop text

end RetrievalKit.HuggingFace
