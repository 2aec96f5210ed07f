import RetrievalKit.Json.Basic
import RetrievalKit.Numeric.Decimal

/-!
# Writing JSON

The compact form: no blanks, the fields of an object in ascending order of their keys, characters
outside ASCII as they are.  A double is written with the fewest digits that denote it: with a
point when its magnitude is zero or at least `10 ^ (-5)` and below `10 ^ 16`, in scientific form
with a signed exponent otherwise, and never without a mark that tells it from an integer.
-/

namespace RetrievalKit.Json

/-! ## Numbers -/

/-- Where positional notation is used, in digits before the point: from `lowest` up to
`highest`. -/
structure PointRange where
  lowest : Int
  highest : Int

/-- Doubles have positional notation from `10 ^ (-5)` up to `10 ^ 16`, the end excluded. -/
def pointRange : PointRange := ⟨-4, 16⟩

/-- Digits with a point after the first `point` of them; zeros fill the gaps, and at least one
digit stands on either side. -/
def positional (digits : List Char) (point : Int) : List Char :=
  if point ≤ 0 then "0.".toList ++ List.replicate point.natAbs '0' ++ digits
  else
    let n := point.toNat
    let whole := digits.take n ++ List.replicate (n - digits.length) '0'
    let rest := digits.drop n
    whole ++ '.' :: (if rest.isEmpty then ['0'] else rest)

/-- One digit before the point, and the exponent with its sign. -/
def scientific (digits : List Char) (point : Int) : List Char :=
  let e := point - 1
  let mark := if e < 0 then "e-".toList else "e+".toList
  let mantissa := match digits with
    | [] => ['0']
    | [d] => [d]
    | d :: rest => d :: '.' :: rest
  mantissa ++ mark ++ Nat.toDigits 10 e.natAbs

/-- The text of a double. -/
def doubleText (d : Double) : List Char :=
  let sign := if d.neg then ['-'] else []
  if d.code = 0 then sign ++ "0.0".toList
  else
    let short := d.shortest
    let digits := Nat.toDigits 10 short.significand
    let point := (digits.length : Int) + short.exponent
    if pointRange.lowest ≤ point ∧ point ≤ pointRange.highest then sign ++ positional digits point
    else sign ++ scientific digits point

/-! ## Strings -/

/-- A hexadecimal digit, in lower case. -/
def hexDigit (n : Nat) : Char := Nat.digitChar n

/-- A character inside a string: quotes, backslashes and control characters are escaped. -/
def charText (c : Char) : List Char :=
  if c = '"' then ['\\', '"']
  else if c = '\\' then ['\\', '\\']
  else if 0x20 ≤ c.toNat then [c]
  else if c = '\n' then ['\\', 'n']
  else if c = '\r' then ['\\', 'r']
  else if c = '\t' then ['\\', 't']
  else if c.toNat = 8 then ['\\', 'b']
  else if c.toNat = 12 then ['\\', 'f']
  else ['\\', 'u', '0', '0', hexDigit (c.toNat / 16), hexDigit (c.toNat % 16)]

/-- A string with its quotes. -/
def stringText (s : String) : List Char := '"' :: s.toList.flatMap charText ++ ['"']

/-! ## Values -/

mutual

/-- The text of a value. -/
def chars : Json → List Char
  | .null => "null".toList
  | .bool true => "true".toList
  | .bool false => "false".toList
  | .int n => (toString n).toList
  | .float d => doubleText d
  | .str s => stringText s
  | .arr items => '[' :: itemChars items
  | .obj fields => '\x7b' :: fieldChars fields

/-- Items with commas between them, and the closing bracket. -/
def itemChars : List Json → List Char
  | [] => [']']
  | [v] => chars v ++ [']']
  | v :: w :: rest => chars v ++ ',' :: itemChars (w :: rest)

/-- Fields with commas between them, and the closing brace. -/
def fieldChars : List (String × Json) → List Char
  | [] => ['\x7d']
  | [(k, v)] => stringText k ++ ':' :: chars v ++ ['\x7d']
  | (k, v) :: f :: rest => stringText k ++ ':' :: chars v ++ ',' :: fieldChars (f :: rest)

end

/-- The compact text of a value. -/
def render (v : Json) : String := String.ofList (chars v)

end RetrievalKit.Json
