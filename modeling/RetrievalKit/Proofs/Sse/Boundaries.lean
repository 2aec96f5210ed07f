import RetrievalKit.Proofs.Sse.Characters

/-!
# Character boundaries

A text that is looked for among bytes is found between characters only, for no byte that begins a
character continues one.

* `encode` — the bytes of a text;
* `exists_lead` — the first byte of a character, and the bytes that continue it;
* `prefix_of_encode_prefix` — a text whose bytes begin those of another one is its beginning;
* `encode_prefix_drop_iff` — the places at which the bytes of a text occur among those of another
  one are the boundaries at which the text itself does.
-/

namespace RetrievalKit.Utf8

open String (utf8EncodeChar)

variable {part text : List Char}

/-- The bytes of a text. -/
def encode (text : List Char) : List UInt8 :=
  text.flatMap utf8EncodeChar

theorem encode_cons (c : Char) (text : List Char) :
    encode (c :: text) = utf8EncodeChar c ++ encode text := List.flatMap_cons

theorem encode_append (front back : List Char) :
    encode (front ++ back) = encode front ++ encode back := List.flatMap_append

theorem encode_ne_nil (h : text ≠ []) : encode text ≠ [] := by
  obtain ⟨c, rest, rfl⟩ := List.exists_cons_of_ne_nil h
  rw [encode_cons]
  exact List.append_ne_nil_of_left_ne_nil (utf8EncodeChar_ne_nil c) _

/-- A byte that continues a character. -/
def Continues (byte : UInt8) : Prop :=
  0x80 ≤ byte.toNat ∧ byte.toNat ≤ 0xBF

theorem not_continues {byte : UInt8} (h : byte.toNat < 0x80 ∨ 0xBF < byte.toNat) :
    ¬ Continues byte := by
  rintro ⟨hlow, hhigh⟩
  omega

/-- The narrower bounds of a second byte are bounds of a byte that continues. -/
theorem continues_of_bounds {byte : UInt8} {low high : Nat}
    (h : low ≤ byte.toNat ∧ byte.toNat ≤ high) (hlow : 0x80 ≤ low) (hhigh : high ≤ 0xBF) :
    Continues byte :=
  ⟨Nat.le_trans hlow h.1, Nat.le_trans h.2 hhigh⟩

theorem Sequence.exists_lead {bytes : List UInt8} {v : Nat} (h : Sequence bytes v) :
    ∃ lead tail, bytes = lead :: tail ∧ ¬ Continues lead ∧ ∀ byte ∈ tail, Continues byte := by
  cases h with
  | @one a _ ha hv => exact ⟨a, [], rfl, not_continues (Or.inl ha), by simp⟩
  | @two a b _ ha hb hv =>
    have hb : Continues b := hb
    exact ⟨a, [b], rfl, not_continues (by omega), by simp [hb]⟩
  | @three a b c _ ha hb hc hv =>
    have hb : Continues b := continues_of_bounds hb (by split <;> omega) (by split <;> omega)
    have hc : Continues c := hc
    exact ⟨a, [b, c], rfl, not_continues (by omega), by simp [hb, hc]⟩
  | @four a b c d _ ha hb hc hd hv =>
    have hb : Continues b := continues_of_bounds hb (by split <;> omega) (by split <;> omega)
    have hc : Continues c := hc
    have hd : Continues d := hd
    exact ⟨a, [b, c, d], rfl, not_continues (by omega), by simp [hb, hc, hd]⟩

/-- A character has a first byte, which continues none, and bytes that continue it. -/
theorem exists_lead (c : Char) :
    ∃ lead tail, utf8EncodeChar c = lead :: tail ∧ ¬ Continues lead ∧
      ∀ byte ∈ tail, Continues byte :=
  (sequence_encoding c.valid).exists_lead

/-- A text whose bytes begin those of another one is its beginning. -/
theorem prefix_of_encode_prefix (h : encode part <+: encode text) : part <+: text := by
  obtain ⟨rest, hrest⟩ := h
  have hpart : State.feed .ready (encode text) =
      ((State.feed .ready rest).1, part ++ (State.feed .ready rest).2) := by
    rw [← hrest]
    exact State.feed_flatMap_append part rest
  have htext : (State.feed .ready (encode text)).2 = text := by
    rw [← List.append_nil (encode text), encode, State.feed_flatMap_append]
    exact List.append_nil text
  rw [hpart] at htext
  exact ⟨(State.feed .ready rest).2, htext⟩

theorem length_encode_le (h : part <+: text) : (encode part).length ≤ (encode text).length := by
  obtain ⟨rest, rfl⟩ := h
  rw [encode_append, List.length_append]
  omega

/-- The bytes of a text begin with one that continues no character, so they occur at a boundary. -/
theorem exists_of_encode_prefix_drop (hne : part ≠ []) {i : Nat}
    (h : encode part <+: (encode text).drop i) :
    ∃ k, part <+: text.drop k ∧ i = (encode (text.take k)).length := by
  have hbytes := encode_ne_nil hne
  obtain ⟨first, part', rfl⟩ := List.exists_cons_of_ne_nil hne
  obtain ⟨lead, tail, hfirst, hlead, -⟩ := exists_lead first
  induction text generalizing i with
  | nil =>
    rw [show encode [] = [] from rfl, List.drop_nil] at h
    exact absurd (List.prefix_nil.mp h) hbytes
  | cons c text ih =>
    by_cases hzero : i = 0
    · subst hzero
      exact ⟨0, prefix_of_encode_prefix h, rfl⟩
    rw [encode_cons c, List.drop_append] at h
    by_cases hinside : i < (utf8EncodeChar c).length
    · -- inside the character there are only bytes that continue it
      obtain ⟨lead', tail', hc, -, htail⟩ := exists_lead c
      obtain ⟨j, rfl⟩ := Nat.exists_eq_succ_of_ne_zero hzero
      rw [hc, List.length_cons] at hinside
      have hj : j < tail'.length := by omega
      rw [hc, List.drop_succ_cons, List.drop_eq_getElem_cons hj, encode_cons, hfirst,
        List.cons_append, List.cons_append, List.cons_prefix_cons] at h
      exact absurd (h.1 ▸ htail _ (List.getElem_mem hj)) hlead
    · rw [List.drop_eq_nil_of_le (Nat.le_of_not_lt hinside), List.nil_append] at h
      obtain ⟨k, hpart, hk⟩ := ih h
      refine ⟨k + 1, hpart, ?_⟩
      rw [List.take_succ_cons, encode_cons, List.length_append]
      omega

/-- **Bytes of a text occur at the boundaries at which the text does.** -/
theorem encode_prefix_drop_iff (hne : part ≠ []) (i : Nat) :
    encode part <+: (encode text).drop i ↔
      ∃ k, part <+: text.drop k ∧ i = (encode (text.take k)).length := by
  refine ⟨exists_of_encode_prefix_drop hne, ?_⟩
  rintro ⟨k, ⟨rest, hrest⟩, rfl⟩
  have htext : encode text = encode (text.take k) ++ encode (text.drop k) := by
    rw [← encode_append, List.take_append_drop]
  rw [htext, List.drop_left, ← hrest, encode_append]
  exact List.prefix_append _ _

end RetrievalKit.Utf8
