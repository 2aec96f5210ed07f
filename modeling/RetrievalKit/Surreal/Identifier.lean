/-!
# Identifiers

What may stand in the text of a statement: a letter or underscore of ASCII, then letters, digits
and underscores.  A path is a sequence of identifiers with dots between them.
-/

namespace RetrievalKit.Surreal

def isIdentifierStart (c : Char) : Bool := c.isAlpha || c == '_'

def isIdentifierChar (c : Char) : Bool := c.isAlphanum || c == '_'

/-- Whether the characters form an identifier. -/
def isIdentifier : List Char → Bool
  | [] => false
  | c :: cs => isIdentifierStart c && cs.all isIdentifierChar

/-- The pieces of a text between the occurrences of a character, one more than there are
occurrences. -/
def splitAtChar (sep : Char) : List Char → List (List Char)
  | [] => [[]]
  | c :: cs =>
    match splitAtChar sep cs with
    | [] => [[]]
    | piece :: rest => if c = sep then [] :: piece :: rest else (c :: piece) :: rest

theorem splitAtChar_ne_nil (sep : Char) (cs : List Char) : splitAtChar sep cs ≠ [] := by
  cases cs with
  | nil => simp [splitAtChar]
  | cons c cs =>
    simp only [splitAtChar]
    split
    · simp
    · split <;> simp

/-- Whether the characters form a path. -/
def isPath (cs : List Char) : Bool := (splitAtChar '.' cs).all isIdentifier

end RetrievalKit.Surreal
