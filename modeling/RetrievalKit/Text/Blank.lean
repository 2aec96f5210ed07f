/-!
# Blank texts

The characters that count as blank are those with the White_Space property of Unicode, 25 in all;
a text of blanks only is blank.
-/

namespace RetrievalKit.Text

/-- The ranges of blank characters, both ends included. -/
def blankRanges : List (Nat × Nat) :=
  [(0x9, 0xD), (0x20, 0x20), (0x85, 0x85), (0xA0, 0xA0), (0x1680, 0x1680), (0x2000, 0x200A),
   (0x2028, 0x2029), (0x202F, 0x202F), (0x205F, 0x205F), (0x3000, 0x3000)]

def isBlankChar (c : Char) : Bool :=
  blankRanges.any fun r => decide (r.1 ≤ c.toNat) && decide (c.toNat ≤ r.2)

/-- Whether a text has blanks only. -/
def isBlank (s : String) : Bool := s.toList.all isBlankChar

end RetrievalKit.Text
