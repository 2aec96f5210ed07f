import Mathlib.Computability.Language
import RetrievalKit.Proofs.Surreal.Parameters

/-!
# The grammar of paths

What the check of a key accepts, as a language.  The check takes a text apart at its dots and
scans each piece; the grammar puts identifiers together.

* `identifiers`, `paths` — the two languages, over ASCII and nothing else;
* `mem_identifiers` — the scan of an identifier accepts the words of its language;
* `mem_paths` — a key is accepted if and only if it is a word of the grammar: no piece is empty,
  and no other character gets in.
-/

namespace RetrievalKit.Surreal

open Language
open scoped Computability

/-! ## The languages -/

/-- The words of one character of some kind. -/
def oneOf (kind : Char → Prop) : Language Char := {cs | ∃ c, kind c ∧ cs = [c]}

/-- `A` to `Z`, `a` to `z` and the underscore. -/
def IsLetter (c : Char) : Prop := 'A' ≤ c ∧ c ≤ 'Z' ∨ 'a' ≤ c ∧ c ≤ 'z' ∨ c = '_'

/-- `0` to `9`. -/
def IsNumeral (c : Char) : Prop := '0' ≤ c ∧ c ≤ '9'

/-- A letter, then letters and digits. -/
def identifiers : Language Char :=
  oneOf IsLetter * (oneOf IsLetter + oneOf IsNumeral)∗

/-- An identifier, then identifiers that each follow a dot. -/
def paths : Language Char := identifiers * (oneOf (· = '.') * identifiers)∗

theorem mem_oneOf_kstar {kind : Char → Prop} {cs : List Char} :
    cs ∈ (oneOf kind)∗ ↔ ∀ c ∈ cs, kind c := by
  rw [mem_kstar]
  constructor
  · rintro ⟨words, rfl, hwords⟩ c hc
    obtain ⟨word, hword, hc⟩ := List.mem_flatten.mp hc
    obtain ⟨d, hd, rfl⟩ := hwords word hword
    rwa [List.mem_singleton.mp hc]
  · intro h
    refine ⟨cs.map ([·]), by simp [← List.flatMap_def], fun word hword => ?_⟩
    obtain ⟨c, hc, rfl⟩ := List.mem_map.mp hword
    exact ⟨c, h c hc, rfl⟩

theorem oneOf_add (kind other : Char → Prop) :
    oneOf kind + oneOf other = oneOf fun c => kind c ∨ other c := by
  ext cs
  rw [mem_add]
  constructor
  · rintro (⟨c, hc, rfl⟩ | ⟨c, hc, rfl⟩)
    · exact ⟨c, Or.inl hc, rfl⟩
    · exact ⟨c, Or.inr hc, rfl⟩
  · rintro ⟨c, hc | hc, rfl⟩
    · exact Or.inl ⟨c, hc, rfl⟩
    · exact Or.inr ⟨c, hc, rfl⟩

/-! ## Identifiers -/

theorem isIdentifierStart_iff {c : Char} : isIdentifierStart c = true ↔ IsLetter c := by
  unfold isIdentifierStart IsLetter Char.isAlpha Char.isUpper Char.isLower
  simp only [Bool.or_eq_true, Bool.and_eq_true, decide_eq_true_eq, beq_iff_eq, or_assoc, ge_iff_le,
    Char.le_def]

theorem isIdentifierChar_iff {c : Char} :
    isIdentifierChar c = true ↔ IsLetter c ∨ IsNumeral c := by
  have hstart : isIdentifierChar c = true ↔ isIdentifierStart c = true ∨ c.isDigit = true := by
    unfold isIdentifierChar isIdentifierStart Char.isAlphanum
    simp only [Bool.or_eq_true, or_right_comm]
  have hdigit : c.isDigit = true ↔ IsNumeral c := by
    unfold IsNumeral Char.isDigit
    simp only [Bool.and_eq_true, decide_eq_true_eq, ge_iff_le, Char.le_def]
  rw [hstart, isIdentifierStart_iff, hdigit]

/-- **The scan of an identifier accepts the words of its language.** -/
theorem mem_identifiers {cs : List Char} : cs ∈ identifiers ↔ isIdentifier cs = true := by
  unfold identifiers
  rw [oneOf_add, mem_mul]
  constructor
  · rintro ⟨_, ⟨c, hc, rfl⟩, rest, hrest, rfl⟩
    rw [mem_oneOf_kstar] at hrest
    have hall : rest.all isIdentifierChar = true :=
      List.all_eq_true.mpr fun d hd => isIdentifierChar_iff.mpr (hrest d hd)
    rw [List.singleton_append, isIdentifier, isIdentifierStart_iff.mpr hc, hall]
    rfl
  · intro h
    cases cs with
    | nil => cases h
    | cons c rest =>
      rw [isIdentifier, Bool.and_eq_true] at h
      obtain ⟨hstart, hrest⟩ := h
      refine ⟨[c], ⟨c, isIdentifierStart_iff.mp hstart, rfl⟩, rest, ?_, rfl⟩
      rw [mem_oneOf_kstar]
      exact fun d hd => isIdentifierChar_iff.mp (List.all_eq_true.mp hrest d hd)

/-! ## Paths -/

theorem splitAtChar_eq_splitOn (sep : Char) (cs : List Char) :
    splitAtChar sep cs = cs.splitOn sep := by
  induction cs with
  | nil => rfl
  | cons c cs ih =>
    rw [splitAtChar, ih, List.splitOn_cons_eq_if_modifyHead]
    cases hsplit : cs.splitOn sep with
    | nil => exact absurd hsplit (List.splitOn_ne_nil sep cs)
    | cons piece rest => simp only [beq_iff_eq, List.modifyHead_cons]

theorem intercalate_dot (first : List Char) (later : List (List Char)) :
    ['.'].intercalate (first :: later) = first ++ (later.map ('.' :: ·)).flatten := by
  induction later generalizing first with
  | nil => simp
  | cons second later ih =>
    rw [List.intercalate_cons_cons, ih, List.map_cons, List.flatten_cons, List.append_assoc]
    rfl

/-- A key is accepted if it is made of identifiers with a dot between each two of them. -/
theorem isPath_iff_intercalate {cs : List Char} : isPath cs = true ↔
    ∃ first later, (∀ piece ∈ first :: later, isIdentifier piece = true) ∧
      cs = ['.'].intercalate (first :: later) := by
  unfold isPath
  rw [splitAtChar_eq_splitOn, List.all_eq_true]
  constructor
  · intro h
    obtain ⟨first, later, hpieces⟩ := List.exists_cons_of_ne_nil (List.splitOn_ne_nil '.' cs)
    refine ⟨first, later, by rwa [← hpieces], ?_⟩
    rw [← hpieces, List.intercalate_splitOn]
  · rintro ⟨first, later, hpieces, rfl⟩
    -- No piece has a dot in it, so the text comes apart where it was put together.
    have hdot : isIdentifierChar '.' = false := by decide
    have hfree : ∀ piece ∈ first :: later, '.' ∉ piece := fun piece hpiece =>
      not_mem_identifier hdot (hpieces piece hpiece)
    rw [List.splitOn_intercalate '.' hfree (List.cons_ne_nil first later)]
    exact hpieces

theorem mem_dotted_kstar {cs : List Char} : cs ∈ (oneOf (· = '.') * identifiers)∗ ↔
    ∃ later : List (List Char), (∀ piece ∈ later, isIdentifier piece = true) ∧
      cs = (later.map ('.' :: ·)).flatten := by
  rw [mem_kstar]
  constructor
  · rintro ⟨words, rfl, hwords⟩
    induction words with
    | nil => exact ⟨[], by simp, rfl⟩
    | cons word words ih =>
      obtain ⟨later, hlater, hflat⟩ := ih fun w hw => hwords w (List.mem_cons_of_mem _ hw)
      obtain ⟨_, ⟨_, rfl, rfl⟩, piece, hpiece, rfl⟩ := hwords word List.mem_cons_self
      refine ⟨piece :: later, ?_, ?_⟩
      · exact List.forall_mem_cons.mpr ⟨mem_identifiers.mp hpiece, hlater⟩
      · rw [List.flatten_cons, hflat]
        rfl
  · rintro ⟨later, hlater, rfl⟩
    refine ⟨later.map ('.' :: ·), rfl, fun word hword => ?_⟩
    obtain ⟨piece, hpiece, rfl⟩ := List.mem_map.mp hword
    exact ⟨['.'], ⟨'.', rfl, rfl⟩, piece, mem_identifiers.mpr (hlater piece hpiece), rfl⟩

/-- **The check of a key accepts the words of the grammar.** -/
theorem mem_paths {cs : List Char} : cs ∈ paths ↔ isPath cs = true := by
  unfold paths
  rw [isPath_iff_intercalate, mem_mul]
  constructor
  · rintro ⟨first, hfirst, _, hrest, rfl⟩
    obtain ⟨later, hlater, rfl⟩ := mem_dotted_kstar.mp hrest
    refine ⟨first, later, ?_, (intercalate_dot first later).symm⟩
    exact List.forall_mem_cons.mpr ⟨mem_identifiers.mp hfirst, hlater⟩
  · rintro ⟨first, later, hpieces, rfl⟩
    obtain ⟨hfirst, hlater⟩ := List.forall_mem_cons.mp hpieces
    exact ⟨first, mem_identifiers.mpr hfirst, _, mem_dotted_kstar.mpr ⟨later, hlater, rfl⟩,
      (intercalate_dot first later).symm⟩

end RetrievalKit.Surreal
