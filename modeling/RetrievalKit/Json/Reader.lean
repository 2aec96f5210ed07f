import RetrievalKit.Json.Basic
import RetrievalKit.Numeric.Decimal

/-!
# Reading JSON

The strict grammar: one value with blanks around it and nothing else, no leading zeros, no raw
control characters in strings, escapes for characters outside the basic plane only as a pair of
surrogates.  At most 127 containers may be nested.  Of several fields with one key the last
counts.

Each reader takes a text and answers what it read with the rest of the text.  Numbers without a
fraction or exponent are integers as long as they fit a signed or unsigned 64-bit word; all
others, `-0` among them, are doubles, and one beyond the finite doubles is refused.

`Json.parse?` is the entry; the amount of work is bounded by the length of the text.
-/

namespace RetrievalKit.Json

/-- Drops blanks: space, tab, line feed and carriage return. -/
def skipBlanks (s : List Char) : List Char :=
  s.dropWhile fun c => c == ' ' || c == '\t' || c == '\n' || c == '\r'

/-- Removes a given beginning. -/
def expect? : List Char → List Char → Option (List Char)
  | [], s => some s
  | e :: es, c :: cs => if e = c then expect? es cs else none
  | _ :: _, [] => none

/-! ## Numbers -/

/-- The value of a decimal digit. -/
def digitValue (c : Char) : Nat := c.toNat - '0'.toNat

/-- Appends digits to a number while it stays below `2 ^ 64`; answers the digits left over. -/
def appendDigits : Nat → List Char → Nat × List Char
  | n, [] => (n, [])
  | n, c :: cs =>
    if n * 10 + digitValue c < Nat.pow 2 64 then appendDigits (n * 10 + digitValue c) cs
    else (n, c :: cs)

/-- A numeral cut into its parts. -/
structure Numeral where
  neg : Bool
  whole : List Char
  /-- Digits after the point, if there is a point. -/
  fraction : Option (List Char)
  /-- The exponent, if one is written. -/
  exponent : Option Int

/-- Reads at least one digit. -/
def digits? (s : List Char) : Option (List Char × List Char) :=
  let ds := s.takeWhile Char.isDigit
  if ds.isEmpty then none else some (ds, s.dropWhile Char.isDigit)

/-- The value of a list of digits. -/
def digitsValue (ds : List Char) : Nat := ds.foldl (fun n c => n * 10 + digitValue c) 0

/-- Reads the part after the point, if a point follows. -/
def fraction? : List Char → Option (Option (List Char) × List Char)
  | '.' :: s => (digits? s).map fun (ds, rest) => (some ds, rest)
  | s => some (none, s)

/-- Reads the exponent after its mark: a sign, then digits. -/
def exponentValue? (s : List Char) : Option (Int × List Char) :=
  let (neg, s) := match s with
    | '-' :: r => (true, r)
    | '+' :: r => (false, r)
    | r => (false, r)
  (digits? s).map fun (ds, rest) =>
    (if neg then -(digitsValue ds : Int) else digitsValue ds, rest)

/-- Reads the exponent, if its mark follows. -/
def exponent? : List Char → Option (Option Int × List Char)
  | c :: s =>
    if c = 'e' ∨ c = 'E' then (exponentValue? s).map fun (e, rest) => (some e, rest)
    else some (none, c :: s)
  | [] => some (none, [])

/-- Reads a numeral; a zero in front stands alone. -/
def numeral? (s : List Char) : Option (Numeral × List Char) := do
  let (neg, s) := match s with
    | '-' :: r => (true, r)
    | r => (false, r)
  let (whole, s) ← digits? s
  if whole.head? = some '0' ∧ whole.length ≠ 1 then none
  else
    let (fraction, s) ← fraction? s
    let (exponent, s) ← exponent? s
    some (⟨neg, whole, fraction, exponent⟩, s)

namespace Numeral

/-- The numeral as a decimal with a significand below `2 ^ 64`.  Digits of the whole part that
do not fit raise the exponent; those of the fraction are dropped. -/
def toDecimal (n : Numeral) : Decimal :=
  let (high, beyond) := appendDigits 0 n.whole
  let fraction := n.fraction.getD []
  let (significand, unused) := appendDigits high fraction
  let places : Int := (fraction.length - unused.length : Nat)
  ⟨significand, (beyond.length : Int) - places + n.exponent.getD 0⟩

/-- The integer a numeral without fraction and exponent denotes, if it fits a 64-bit word; a
negative zero is no integer. -/
def toInt? (n : Numeral) : Option Int :=
  let value := digitsValue n.whole
  if n.fraction.isSome ∨ n.exponent.isSome then none
  else if n.neg then
    if value ≠ 0 ∧ value ≤ Nat.pow 2 63 then some (-(value : Int)) else none
  else if value < Nat.pow 2 64 then some value
  else none

/-- The value of a numeral; `none` beyond the finite doubles. -/
def toJson? (n : Numeral) : Option Json :=
  match n.toInt? with
  | some i => some (.int i)
  | none => (n.toDecimal.toDouble? n.neg).map .float

end Numeral

/-! ## Strings -/

/-- The value of a hexadecimal digit. -/
def hexValue? (c : Char) : Option Nat :=
  if c.isDigit then some (c.toNat - '0'.toNat)
  else if 'a' ≤ c ∧ c ≤ 'f' then some (c.toNat - 'a'.toNat + 10)
  else if 'A' ≤ c ∧ c ≤ 'F' then some (c.toNat - 'A'.toNat + 10)
  else none

/-- Reads four hexadecimal digits. -/
def unit? : List Char → Option (Nat × List Char)
  | a :: b :: c :: d :: rest => do
    let a ← hexValue? a
    let b ← hexValue? b
    let c ← hexValue? c
    let d ← hexValue? d
    some (a * 4096 + b * 256 + c * 16 + d, rest)
  | _ => none

/-- The character of an escape made of a backslash and one letter. -/
def simpleEscape? : Char → Option Char
  | '"' => some '"'
  | '\\' => some '\\'
  | '/' => some '/'
  | 'b' => some (Char.ofNat 8)
  | 'f' => some (Char.ofNat 12)
  | 'n' => some '\n'
  | 'r' => some '\r'
  | 't' => some '\t'
  | _ => none

/-- Reads the rest of a numeric escape: one unit, or two that form a surrogate pair. -/
def unicodeEscape? (s : List Char) : Option (Char × List Char) := do
  let (high, s) ← unit? s
  if 0xD800 ≤ high ∧ high < 0xDC00 then
    let s ← expect? ['\\', 'u'] s
    let (low, s) ← unit? s
    if 0xDC00 ≤ low ∧ low < 0xE000 then
      some (Char.ofNat (0x10000 + (high - 0xD800) * 0x400 + (low - 0xDC00)), s)
    else none
  else if 0xDC00 ≤ high ∧ high < 0xE000 then none
  else some (Char.ofNat high, s)

/-- Reads an escape after its backslash. -/
def escape? : List Char → Option (Char × List Char)
  | 'u' :: s => unicodeEscape? s
  | c :: s => (simpleEscape? c).map fun d => (d, s)
  | [] => none

/-- Reads string contents up to the closing quote. -/
def contents? : Nat → List Char → Option (List Char × List Char)
  | 0, _ => none
  | _ + 1, [] => none
  | _ + 1, '"' :: s => some ([], s)
  | fuel + 1, '\\' :: s => do
    let (c, s) ← escape? s
    let (cs, s) ← contents? fuel s
    some (c :: cs, s)
  | fuel + 1, c :: s =>
    if c.toNat < 0x20 then none
    else do
      let (cs, s) ← contents? fuel s
      some (c :: cs, s)

/-- Reads a string after its opening quote. -/
def string? (s : List Char) : Option (String × List Char) :=
  (contents? (s.length + 1) s).map fun (cs, rest) => (String.ofList cs, rest)

/-! ## Values -/

/-- How many containers may be nested. -/
def maxDepth : Nat := 127

mutual

/-- Reads a value; `depth` more containers may be opened. -/
def value? : Nat → Nat → List Char → Option (Json × List Char)
  | 0, _, _ => none
  | fuel + 1, depth, s =>
    match skipBlanks s with
    | 'n' :: r => (expect? "ull".toList r).map fun r => (.null, r)
    | 't' :: r => (expect? "rue".toList r).map fun r => (.bool true, r)
    | 'f' :: r => (expect? "alse".toList r).map fun r => (.bool false, r)
    | '"' :: r => (string? r).map fun (t, r) => (.str t, r)
    | '[' :: r =>
      match depth, skipBlanks r with
      | 0, _ => none
      | _ + 1, ']' :: r => some (.arr [], r)
      | depth + 1, r => (items? fuel depth r).map fun (items, r) => (.arr items, r)
    | '\x7b' :: r =>
      match depth, skipBlanks r with
      | 0, _ => none
      | _ + 1, '\x7d' :: r => some (.obj [], r)
      | depth + 1, r => (fields? fuel depth r).map fun (fields, r) => (ofEntries fields, r)
    | r => do
      let (n, r) ← numeral? r
      let v ← n.toJson?
      some (v, r)

/-- Reads the items of an array and its closing bracket. -/
def items? : Nat → Nat → List Char → Option (List Json × List Char)
  | 0, _, _ => none
  | fuel + 1, depth, s => do
    let (v, s) ← value? fuel depth s
    match skipBlanks s with
    | ',' :: s =>
      let (vs, s) ← items? fuel depth s
      some (v :: vs, s)
    | ']' :: s => some ([v], s)
    | _ => none

/-- Reads the fields of an object, in the order they are written, and its closing brace. -/
def fields? : Nat → Nat → List Char → Option (List (String × Json) × List Char)
  | 0, _, _ => none
  | fuel + 1, depth, s =>
    match skipBlanks s with
    | '"' :: s => do
      let (k, s) ← string? s
      let s ← expect? [':'] (skipBlanks s)
      let (v, s) ← value? fuel depth s
      match skipBlanks s with
      | ',' :: s =>
        let (rest, s) ← fields? fuel depth s
        some ((k, v) :: rest, s)
      | '\x7d' :: s => some ([(k, v)], s)
      | _ => none
    | _ => none

end

/-- The value a text denotes, if it is a JSON text. -/
def parse? (text : String) : Option Json :=
  let s := text.toList
  match value? (2 * s.length + 2) maxDepth s with
  | some (v, rest) => if (skipBlanks rest).isEmpty then some v else none
  | none => none

end RetrievalKit.Json
