import RetrievalKit.Sse.Utf8

/-!
# The characters in a sequence of bytes

What the incremental decoder of UTF-8 makes of bytes, said of the bytes as a whole.

* `IsText` — bytes are the encoding of a text, as the standard library writes it, and a rest that
  does not begin with a character; `exists_isText` proves that all bytes are;
* `Sequence` — the bytes that encode a code point, by the table of UTF-8;
  `sequence_encoding` and `encoding_of_sequence` prove that these are the library's encodings;
* `feed_of_isText` — the decoder reads that text and stays at the rest.
-/

namespace RetrievalKit.Utf8

open String (utf8EncodeChar)

/-- Bytes are the encoding of a text, followed by a rest that does not begin with a character. -/
structure IsText (bytes : List UInt8) (text : List Char) (rest : List UInt8) : Prop where
  bytes_eq : bytes = text.flatMap utf8EncodeChar ++ rest
  undecodable : ∀ c : Char, ¬ utf8EncodeChar c <+: rest

theorem utf8EncodeChar_ne_nil (c : Char) : utf8EncodeChar c ≠ [] := by
  unfold utf8EncodeChar
  dsimp only
  split
  · exact List.cons_ne_nil _ _
  · split
    · exact List.cons_ne_nil _ _
    · split
      · exact List.cons_ne_nil _ _
      · exact List.cons_ne_nil _ _

/-- All bytes are a text and a rest. -/
theorem exists_isText (bytes : List UInt8) : ∃ text rest, IsText bytes text rest := by
  induction hn : bytes.length using Nat.strongRecOn generalizing bytes with
  | _ n ih =>
    by_cases hchar : ∃ c : Char, utf8EncodeChar c <+: bytes
    · obtain ⟨c, tail, rfl⟩ := hchar
      have hshorter : tail.length < n := by
        have := List.length_pos_iff.mpr (utf8EncodeChar_ne_nil c)
        rw [List.length_append] at hn
        omega
      obtain ⟨text, rest, h⟩ := ih tail.length hshorter tail rfl
      exact ⟨c :: text, rest, by rw [List.flatMap_cons, List.append_assoc, ← h.bytes_eq],
        h.undecodable⟩
    · exact ⟨[], bytes, rfl, fun c hc => hchar ⟨c, hc⟩⟩

/-! ## The table -/

/-- The bytes that encode a code point. -/
inductive Sequence : List UInt8 → Nat → Prop
  | one {a : UInt8} {v : Nat} (ha : a.toNat < 0x80) (hv : v = a.toNat) : Sequence [a] v
  | two {a b : UInt8} {v : Nat} (ha : 0xC2 ≤ a.toNat ∧ a.toNat ≤ 0xDF)
    (hb : 0x80 ≤ b.toNat ∧ b.toNat ≤ 0xBF)
    (hv : v = (a.toNat - 0xC0) * 64 + (b.toNat - 0x80)) : Sequence [a, b] v
  | three {a b c : UInt8} {v : Nat} (ha : 0xE0 ≤ a.toNat ∧ a.toNat ≤ 0xEF)
    (hb : (if a.toNat = 0xE0 then 0xA0 else 0x80) ≤ b.toNat ∧
      b.toNat ≤ if a.toNat = 0xED then 0x9F else 0xBF)
    (hc : 0x80 ≤ c.toNat ∧ c.toNat ≤ 0xBF)
    (hv : v = ((a.toNat - 0xE0) * 64 + (b.toNat - 0x80)) * 64 + (c.toNat - 0x80)) :
    Sequence [a, b, c] v
  | four {a b c d : UInt8} {v : Nat} (ha : 0xF0 ≤ a.toNat ∧ a.toNat ≤ 0xF4)
    (hb : (if a.toNat = 0xF0 then 0x90 else 0x80) ≤ b.toNat ∧
      b.toNat ≤ if a.toNat = 0xF4 then 0x8F else 0xBF)
    (hc : 0x80 ≤ c.toNat ∧ c.toNat ≤ 0xBF) (hd : 0x80 ≤ d.toNat ∧ d.toNat ≤ 0xBF)
    (hv : v = (((a.toNat - 0xF0) * 64 + (b.toNat - 0x80)) * 64 + (c.toNat - 0x80)) * 64 +
      (d.toNat - 0x80)) : Sequence [a, b, c, d] v

theorem toNat_ofNat_of_lt {n : Nat} (h : n < 256) : (UInt8.ofNat n).toNat = n := by
  rw [UInt8.toNat_ofNat', Nat.mod_eq_of_lt h]

theorem toNat_ofNat {v : Nat} (h : v.isValidChar) : (Char.ofNat v).toNat = v := by
  unfold Char.ofNat
  rw [dif_pos h]
  rfl

theorem ofNat_eq_of_toNat {a : UInt8} {n : Nat} (h : n = a.toNat) : UInt8.ofNat n = a := by
  rw [h, UInt8.ofNat_toNat]

/-- The encoding of a code point as the library computes it. -/
def encoding (v : Nat) : List UInt8 :=
  if v ≤ 127 then [.ofNat v]
  else if v ≤ 2047 then [.ofNat (v / 64 % 32 + 192), .ofNat (v % 64 + 128)]
  else if v ≤ 65535 then
    [.ofNat (v / 4096 % 16 + 224), .ofNat (v / 64 % 64 + 128), .ofNat (v % 64 + 128)]
  else
    [.ofNat (v / 262144 % 8 + 240), .ofNat (v / 4096 % 64 + 128), .ofNat (v / 64 % 64 + 128),
      .ofNat (v % 64 + 128)]

theorem utf8EncodeChar_eq (c : Char) : utf8EncodeChar c = encoding c.toNat := rfl

/-- The library's encodings are in the table. -/
theorem sequence_encoding {v : Nat} (h : v < 0xD800 ∨ 0xDFFF < v ∧ v < 0x110000) :
    Sequence (encoding v) v := by
  unfold encoding
  split
  · have ha := toNat_ofNat_of_lt (n := v) (by omega)
    exact .one (by omega) (by omega)
  · split
    · have ha := toNat_ofNat_of_lt (n := v / 64 % 32 + 192) (by omega)
      have hb := toNat_ofNat_of_lt (n := v % 64 + 128) (by omega)
      exact .two (by omega) (by omega) (by omega)
    · split
      · have ha := toNat_ofNat_of_lt (n := v / 4096 % 16 + 224) (by omega)
        have hb := toNat_ofNat_of_lt (n := v / 64 % 64 + 128) (by omega)
        have hc := toNat_ofNat_of_lt (n := v % 64 + 128) (by omega)
        refine .three (by omega) ⟨?_, ?_⟩ (by omega) (by omega)
        · split <;> omega
        · split <;> omega
      · have ha := toNat_ofNat_of_lt (n := v / 262144 % 8 + 240) (by omega)
        have hb := toNat_ofNat_of_lt (n := v / 4096 % 64 + 128) (by omega)
        have hc := toNat_ofNat_of_lt (n := v / 64 % 64 + 128) (by omega)
        have hd := toNat_ofNat_of_lt (n := v % 64 + 128) (by omega)
        refine .four (by omega) ⟨?_, ?_⟩ (by omega) (by omega) (by omega)
        · split <;> omega
        · split <;> omega

/-- A code point of the table is that of a character. -/
theorem Sequence.isValidChar {bytes : List UInt8} {v : Nat} (h : Sequence bytes v) :
    v.isValidChar := by
  show v < 0xD800 ∨ 0xDFFF < v ∧ v < 0x110000
  cases h with
  | one ha hv => omega
  | two ha hb hv => omega
  | three ha hb hc hv =>
    obtain ⟨hlow, hhigh⟩ := hb
    split at hlow
    · split at hhigh <;> omega
    · split at hhigh <;> omega
  | four ha hb hc hd hv =>
    obtain ⟨hlow, hhigh⟩ := hb
    split at hlow
    · split at hhigh <;> omega
    · split at hhigh <;> omega

/-- A sequence of the table is the library's encoding. -/
theorem encoding_of_sequence {bytes : List UInt8} {v : Nat} (h : Sequence bytes v) :
    encoding v = bytes := by
  unfold encoding
  cases h with
  | one ha hv => rw [if_pos (by omega), ofNat_eq_of_toNat hv]
  | @two a b _ ha hb hv =>
    have h1 : UInt8.ofNat (v / 64 % 32 + 192) = a := ofNat_eq_of_toNat (by omega)
    have h2 : UInt8.ofNat (v % 64 + 128) = b := ofNat_eq_of_toNat (by omega)
    rw [if_neg (by omega), if_pos (by omega), h1, h2]
  | @three a b c _ ha hb hc hv =>
    have hlow : 0x80 ≤ b.toNat ∧ 2047 < v := by
      have := hb.1
      split at this <;> omega
    have hhigh : b.toNat ≤ 0xBF := by
      have := hb.2
      split at this <;> omega
    have h1 : UInt8.ofNat (v / 4096 % 16 + 224) = a := ofNat_eq_of_toNat (by omega)
    have h2 : UInt8.ofNat (v / 64 % 64 + 128) = b := ofNat_eq_of_toNat (by omega)
    have h3 : UInt8.ofNat (v % 64 + 128) = c := ofNat_eq_of_toNat (by omega)
    rw [if_neg (by omega), if_neg (by omega), if_pos (by omega), h1, h2, h3]
  | @four a b c d _ ha hb hc hd hv =>
    have hlow : 0x80 ≤ b.toNat ∧ 65535 < v := by
      have := hb.1
      split at this <;> omega
    have hhigh : b.toNat ≤ 0xBF := by
      have := hb.2
      split at this <;> omega
    have h1 : UInt8.ofNat (v / 262144 % 8 + 240) = a := ofNat_eq_of_toNat (by omega)
    have h2 : UInt8.ofNat (v / 4096 % 64 + 128) = b := ofNat_eq_of_toNat (by omega)
    have h3 : UInt8.ofNat (v / 64 % 64 + 128) = c := ofNat_eq_of_toNat (by omega)
    have h4 : UInt8.ofNat (v % 64 + 128) = d := ofNat_eq_of_toNat (by omega)
    rw [if_neg (by omega), if_neg (by omega), if_neg (by omega), h1, h2, h3, h4]

theorem utf8EncodeChar_ofNat {bytes : List UInt8} {v : Nat} (h : Sequence bytes v) :
    utf8EncodeChar (Char.ofNat v) = bytes := by
  rw [utf8EncodeChar_eq, toNat_ofNat h.isValidChar, encoding_of_sequence h]

/-! ## The decoder -/

namespace State

/-- Takes some bytes; answers the characters that they complete. -/
def feed (s : State) : List UInt8 → State × List Char
  | [] => (s, [])
  | byte :: rest =>
    let r := s.step byte
    let later := r.1.feed rest
    (later.1, r.2.toList ++ later.2)

theorem lead_two {a : Nat} (h : 0xC2 ≤ a ∧ a ≤ 0xDF) :
    lead a = .inside 1 (a - 0xC0) 0x80 0xBF 1 := if_pos h

theorem lead_three {a : Nat} (h : 0xE0 ≤ a ∧ a ≤ 0xEF) :
    lead a = .inside 1 (a - 0xE0) (if a = 0xE0 then 0xA0 else 0x80)
      (if a = 0xED then 0x9F else 0xBF) 2 := by
  unfold lead
  rw [if_neg (by omega)]
  by_cases h0 : a = 0xE0
  · simp [h0]
  · by_cases hd : a = 0xED
    · simp [hd]
    · rw [if_neg h0, if_neg hd, if_pos (by omega), if_neg h0, if_neg hd]

theorem lead_four {a : Nat} (h : 0xF0 ≤ a ∧ a ≤ 0xF4) :
    lead a = .inside 1 (a - 0xF0) (if a = 0xF0 then 0x90 else 0x80)
      (if a = 0xF4 then 0x8F else 0xBF) 3 := by
  unfold lead
  rw [if_neg (by omega), if_neg (by omega), if_neg (by omega), if_neg (by omega)]
  by_cases h0 : a = 0xF0
  · simp [h0]
  · by_cases h4 : a = 0xF4
    · simp [h4]
    · rw [if_neg h0, if_pos (by omega), if_neg h0, if_neg h4]

theorem lead_broken {a : Nat} (h : a < 0xC2 ∨ 0xF4 < a) : lead a = .broken 1 := by
  unfold lead
  rw [if_neg (by omega), if_neg (by omega), if_neg (by omega), if_neg (by omega),
    if_neg (by omega), if_neg (by omega), if_neg (by omega)]

/-! One byte at a time. -/

section Feed

variable {byte : UInt8} {seen value low high left : Nat}

theorem feed_ascii (h : byte.toNat < 0x80) (rest : List UInt8) :
    feed .ready (byte :: rest) =
      ((feed .ready rest).1, Char.ofNat byte.toNat :: (feed .ready rest).2) := by
  simp [feed, step, h]

theorem feed_lead (h : 0x80 ≤ byte.toNat) (rest : List UInt8) :
    feed .ready (byte :: rest) = feed (lead byte.toNat) rest := by
  simp [feed, step, Nat.not_lt.mpr h]

theorem feed_last (h : low ≤ byte.toNat ∧ byte.toNat ≤ high) (rest : List UInt8) :
    feed (.inside seen value low high 1) (byte :: rest) =
      ((feed .ready rest).1,
        Char.ofNat (value * 64 + (byte.toNat - 0x80)) :: (feed .ready rest).2) := by
  simp [feed, step, h]

theorem feed_more (h : low ≤ byte.toNat ∧ byte.toNat ≤ high) (rest : List UInt8) :
    feed (.inside seen value low high (left + 2)) (byte :: rest) =
      feed (.inside (seen + 1) (value * 64 + (byte.toNat - 0x80)) 0x80 0xBF (left + 1)) rest := by
  simp [feed, step, h]

theorem feed_broken (n : Nat) (rest : List UInt8) : (feed (.broken n) rest).2 = [] := by
  induction rest with
  | nil => rfl
  | cons byte rest ih => exact ih

theorem feed_outside (h : ¬ (low ≤ byte.toNat ∧ byte.toNat ≤ high)) (rest : List UInt8) :
    (feed (.inside seen value low high left) (byte :: rest)).2 = [] := by
  simp [feed, step, h, feed_broken]

/-- Inside a character the next byte is one that may follow, or nothing is read any more. -/
theorem next_or_feed_eq_nil (seen value low high left : Nat) (bytes : List UInt8) :
    (∃ byte rest, bytes = byte :: rest ∧ low ≤ byte.toNat ∧ byte.toNat ≤ high) ∨
      (feed (.inside seen value low high left) bytes).2 = [] := by
  cases bytes with
  | nil => exact Or.inr rfl
  | cons byte rest =>
    by_cases h : low ≤ byte.toNat ∧ byte.toNat ≤ high
    · exact Or.inl ⟨byte, rest, rfl, h⟩
    · exact Or.inr (feed_outside h rest)

end Feed

/-- The decoder reads the sequences of the table. -/
theorem feed_sequence {bytes : List UInt8} {v : Nat} (h : Sequence bytes v)
    (rest : List UInt8) :
    feed .ready (bytes ++ rest) =
      ((feed .ready rest).1, Char.ofNat v :: (feed .ready rest).2) := by
  cases h with
  | one ha hv => rw [hv]; exact feed_ascii ha rest
  | two ha hb hv =>
    rw [List.cons_append, feed_lead (by omega), lead_two ha, hv]
    exact feed_last hb rest
  | three ha hb hc hv =>
    rw [List.cons_append, feed_lead (by omega), lead_three ha, List.cons_append,
      feed_more hb, hv]
    exact feed_last hc rest
  | four ha hb hc hd hv =>
    rw [List.cons_append, feed_lead (by omega), lead_four ha, List.cons_append, feed_more hb,
      List.cons_append, feed_more hc, hv]
    exact feed_last hd rest

/-- Bytes that begin with no sequence of the table yield no character. -/
theorem sequence_or_feed_eq_nil (bytes : List UInt8) :
    (∃ front v rest, Sequence front v ∧ bytes = front ++ rest) ∨ (feed .ready bytes).2 = [] := by
  cases bytes with
  | nil => exact Or.inr rfl
  | cons a bytes =>
    by_cases h1 : a.toNat < 0x80
    · exact Or.inl ⟨[a], _, bytes, .one h1 rfl, rfl⟩
    rw [feed_lead (by omega)]
    by_cases hbroken : a.toNat < 0xC2 ∨ 0xF4 < a.toNat
    · rw [lead_broken hbroken]
      exact Or.inr (feed_broken 1 bytes)
    by_cases h2 : a.toNat ≤ 0xDF
    · have ha : 0xC2 ≤ a.toNat ∧ a.toNat ≤ 0xDF := by omega
      rw [lead_two ha]
      rcases next_or_feed_eq_nil _ _ _ _ _ bytes with ⟨b, rest, rfl, hb⟩ | hnil
      · exact Or.inl ⟨[a, b], _, rest, .two ha hb rfl, rfl⟩
      · exact Or.inr hnil
    by_cases h3 : a.toNat ≤ 0xEF
    · have ha : 0xE0 ≤ a.toNat ∧ a.toNat ≤ 0xEF := by omega
      rw [lead_three ha]
      rcases next_or_feed_eq_nil _ _ _ _ _ bytes with ⟨b, bytes, rfl, hb⟩ | hnil
      · rw [feed_more hb]
        rcases next_or_feed_eq_nil _ _ _ _ _ bytes with ⟨c, rest, rfl, hc⟩ | hnil
        · exact Or.inl ⟨[a, b, c], _, rest, .three ha hb hc rfl, rfl⟩
        · exact Or.inr hnil
      · exact Or.inr hnil
    · have ha : 0xF0 ≤ a.toNat ∧ a.toNat ≤ 0xF4 := by omega
      rw [lead_four ha]
      rcases next_or_feed_eq_nil _ _ _ _ _ bytes with ⟨b, bytes, rfl, hb⟩ | hnil
      · rw [feed_more hb]
        rcases next_or_feed_eq_nil _ _ _ _ _ bytes with ⟨c, bytes, rfl, hc⟩ | hnil
        · rw [feed_more hc]
          rcases next_or_feed_eq_nil _ _ _ _ _ bytes with ⟨d, rest, rfl, hd⟩ | hnil
          · exact Or.inl ⟨[a, b, c, d], _, rest, .four ha hb hc hd rfl, rfl⟩
          · exact Or.inr hnil
        · exact Or.inr hnil
      · exact Or.inr hnil

/-- A rest that begins with no character yields none. -/
theorem feed_of_undecodable {rest : List UInt8} (h : ∀ c : Char, ¬ utf8EncodeChar c <+: rest) :
    (feed .ready rest).2 = [] := by
  rcases sequence_or_feed_eq_nil rest with ⟨front, v, tail, hs, rfl⟩ | hnil
  · refine absurd ?_ (h (Char.ofNat v))
    rw [utf8EncodeChar_ofNat hs]
    exact List.prefix_append front tail
  · exact hnil

/-- The decoder reads the encoding of a text and goes on with what follows it. -/
theorem feed_flatMap_append (text : List Char) (rest : List UInt8) :
    feed .ready (text.flatMap utf8EncodeChar ++ rest) =
      ((feed .ready rest).1, text ++ (feed .ready rest).2) := by
  induction text with
  | nil => rfl
  | cons c text ih =>
    have hc : Sequence (utf8EncodeChar c) c.toNat := sequence_encoding c.valid
    rw [List.flatMap_cons, List.append_assoc, feed_sequence hc, ih, Char.ofNat_toNat,
      List.cons_append]

/-- **The decoder reads the text in the bytes and stays at the rest.** -/
theorem feed_of_isText {bytes rest : List UInt8} {text : List Char} (h : IsText bytes text rest) :
    feed .ready bytes = ((feed .ready rest).1, text) := by
  rw [h.bytes_eq, feed_flatMap_append, feed_of_undecodable h.undecodable, List.append_nil]

end State

end RetrievalKit.Utf8
