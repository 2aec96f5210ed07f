import RetrievalKit.Text.Unprinted

/-!
# Quoted texts

A text inside a message stands in double quotes.  Quotes, backslashes and the usual controls are
written with a backslash; every other character without a printed form is written by its number.
-/

namespace RetrievalKit.Text

/-- A character inside quotes. -/
def quotedChar (c : Char) : List Char :=
  if c = '"' then ['\\', '"']
  else if c = '\\' then ['\\', '\\']
  else if c = '\n' then ['\\', 'n']
  else if c = '\r' then ['\\', 'r']
  else if c = '\t' then ['\\', 't']
  else if c.toNat = 0 then ['\\', '0']
  else if isUnprinted c then ['\\', 'u', '\x7b'] ++ Nat.toDigits 16 c.toNat ++ ['\x7d']
  else [c]

/-- The text in quotes. -/
def quoted (s : String) : String :=
  String.ofList ('"' :: s.toList.flatMap quotedChar ++ ['"'])

/-- Several texts in quotes, as a bracketed list. -/
def quotedList (items : List String) : String :=
  "[" ++ ", ".intercalate (items.map quoted) ++ "]"

end RetrievalKit.Text
