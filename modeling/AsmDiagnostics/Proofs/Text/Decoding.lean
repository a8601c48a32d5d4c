import AsmDiagnostics.Proofs.Text.Utf8

/-!
# Strict decoding

Bytes are decoded to a text exactly when they are the bytes of that text: whatever is encoded is
read back, and nothing else is accepted, no character in more bytes than it needs, no surrogate and
nothing behind the last character.
-/

namespace AsmDiagnostics.Text

theorem char_bound (c : Char) : c.toNat < 0x110000 := by
  rcases c.valid with small | large
  · exact Nat.lt_trans small (by decide)
  · exact large.2

theorem not_surrogate (c : Char) : c.toNat < 0xD800 ∨ 0xDFFF < c.toNat := by
  rcases c.valid with small | large
  · exact .inl small
  · exact .inr large.1

theorem toNat_ofNat_of_scalar {n : Nat} (apart : n < 0xD800 ∨ 0xDFFF < n) (bound : n < 0x110000) :
    (Char.ofNat n).toNat = n := by
  have valid : n.isValidChar := apart.imp_right fun large => ⟨large, bound⟩
  unfold Char.ofNat
  rw [dif_pos valid]
  rfl

theorem toNat_byte {n : Nat} (h : n < 256) : (UInt8.ofNat n).toNat = n :=
  UInt8.toNat_ofNat_of_lt' h

theorem isContinuation_iff {b : UInt8} :
    isContinuation b = true ↔ 0x80 ≤ b.toNat ∧ b.toNat ≤ 0xBF := by
  simp [isContinuation, UInt8.le_iff_toNat_le]

theorem secondOfThree_iff {lead b : UInt8} :
    secondOfThree lead b = true ↔ 0x80 ≤ b.toNat ∧ b.toNat ≤ 0xBF ∧
      (lead.toNat = 0xE0 → 0xA0 ≤ b.toNat) ∧ (lead.toNat = 0xED → b.toNat ≤ 0x9F) := by
  unfold secondOfThree
  split
  · rename_i same
    subst same
    simp [UInt8.le_iff_toNat_le]
    omega
  · split
    · rename_i same
      subst same
      simp [UInt8.le_iff_toNat_le]
      omega
    · rename_i first second
      rw [← UInt8.toNat_inj] at first second
      rw [isContinuation_iff]
      simp at first second
      simp [first, second]

theorem secondOfFour_iff {lead b : UInt8} :
    secondOfFour lead b = true ↔ 0x80 ≤ b.toNat ∧ b.toNat ≤ 0xBF ∧
      (lead.toNat = 0xF0 → 0x90 ≤ b.toNat) ∧ (lead.toNat = 0xF4 → b.toNat ≤ 0x8F) := by
  unfold secondOfFour
  split
  · rename_i same
    subst same
    simp [UInt8.le_iff_toNat_le]
    omega
  · split
    · rename_i same
      subst same
      simp [UInt8.le_iff_toNat_le]
      omega
    · rename_i first second
      rw [← UInt8.toNat_inj] at first second
      rw [isContinuation_iff]
      simp at first second
      simp [first, second]

/-! ## Characters of several bytes -/

section Front

variable {lead b c d : UInt8} (rest : List UInt8)

theorem front_two (low : 0xC2 ≤ lead.toNat) (high : lead.toNat < 0xE0)
    (second : isContinuation b = true) :
    front lead (b :: rest) = .char (Char.ofNat ((lead.toNat - 0xC0) * 64 + payload b)) 2 := by
  have bounds : ¬ lead < 0x80 ∧ ¬ lead < 0xC2 ∧ lead < 0xE0 := by
    simp only [UInt8.lt_iff_toNat_lt, UInt8.reduceToNat]
    omega
  obtain ⟨first, long, two⟩ := bounds
  simp only [front, if_neg first, if_neg long, if_pos two, if_pos second]

theorem front_three (low : 0xE0 ≤ lead.toNat) (high : lead.toNat < 0xF0)
    (second : secondOfThree lead b = true) (third : isContinuation c = true) :
    front lead (b :: c :: rest) =
      .char (Char.ofNat ((lead.toNat - 0xE0) * 4096 + payload b * 64 + payload c)) 3 := by
  have bounds : ¬ lead < 0x80 ∧ ¬ lead < 0xC2 ∧ ¬ lead < 0xE0 ∧ lead < 0xF0 := by
    simp only [UInt8.lt_iff_toNat_lt, UInt8.reduceToNat]
    omega
  obtain ⟨first, long, two, three⟩ := bounds
  simp only [front, if_neg first, if_neg long, if_neg two, if_pos three, if_pos second,
    if_pos third]

theorem front_four (low : 0xF0 ≤ lead.toNat) (high : lead.toNat < 0xF5)
    (second : secondOfFour lead b = true) (third : isContinuation c = true)
    (fourth : isContinuation d = true) :
    front lead (b :: c :: d :: rest) =
      .char (Char.ofNat ((lead.toNat - 0xF0) * 262144 + payload b * 4096 + payload c * 64 +
        payload d)) 4 := by
  have bounds : ¬ lead < 0x80 ∧ ¬ lead < 0xC2 ∧ ¬ lead < 0xE0 ∧ ¬ lead < 0xF0 ∧ lead < 0xF5 := by
    simp only [UInt8.lt_iff_toNat_lt, UInt8.reduceToNat]
    omega
  obtain ⟨first, long, two, three, four⟩ := bounds
  simp only [front, if_neg first, if_neg long, if_neg two, if_neg three, if_pos four,
    if_pos second, if_pos third, if_pos fourth]

end Front

/-- The bytes at the front of a text, of which the first is given, are those of a character. -/
inductive Fronted (lead : UInt8) : List UInt8 → Char → Nat → Prop where
  | one {rest : List UInt8} (low : lead.toNat < 0x80) :
      Fronted lead rest (Char.ofNat lead.toNat) 1
  | two {rest : List UInt8} {b : UInt8} (low : 0xC2 ≤ lead.toNat) (high : lead.toNat < 0xE0)
      (second : isContinuation b = true) :
      Fronted lead (b :: rest) (Char.ofNat ((lead.toNat - 0xC0) * 64 + payload b)) 2
  | three {rest : List UInt8} {b c : UInt8} (low : 0xE0 ≤ lead.toNat) (high : lead.toNat < 0xF0)
      (second : secondOfThree lead b = true) (third : isContinuation c = true) :
      Fronted lead (b :: c :: rest)
        (Char.ofNat ((lead.toNat - 0xE0) * 4096 + payload b * 64 + payload c)) 3
  | four {rest : List UInt8} {b c d : UInt8} (low : 0xF0 ≤ lead.toNat) (high : lead.toNat < 0xF5)
      (second : secondOfFour lead b = true) (third : isContinuation c = true)
      (fourth : isContinuation d = true) :
      Fronted lead (b :: c :: d :: rest)
        (Char.ofNat ((lead.toNat - 0xF0) * 262144 + payload b * 4096 + payload c * 64 +
          payload d)) 4

theorem Fronted.lead_bounds {lead : UInt8} {rest : List UInt8} {c : Char} {width : Nat}
    (h : Fronted lead rest c width) : lead.toNat < 0x80 ∨ 0xC2 ≤ lead.toNat := by
  cases h <;> omega

theorem fronted_of_front {lead : UInt8} {rest : List UInt8} {c : Char} {width : Nat}
    (h : front lead rest = .char c width) : Fronted lead rest c width := by
  unfold front at h
  simp only [UInt8.lt_iff_toNat_lt, UInt8.reduceToNat] at h
  split at h
  · rename_i low
    cases h
    exact .one low
  split at h
  · cases h
  split at h
  · rename_i long two
    split at h
    · cases h
    split at h
    · rename_i second
      cases h
      exact .two (Nat.le_of_not_lt long) two second
    · cases h
  split at h
  · rename_i two three
    split at h
    · cases h
    split at h
    · rename_i second
      split at h
      · cases h
      split at h
      · rename_i third
        cases h
        exact .three (Nat.le_of_not_lt two) three second third
      · cases h
    · cases h
  split at h
  · rename_i three four
    split at h
    · cases h
    split at h
    · rename_i second
      split at h
      · cases h
      split at h
      · rename_i third
        split at h
        · cases h
        split at h
        · rename_i fourth
          cases h
          exact .four (Nat.le_of_not_lt three) four second third fourth
        · cases h
      · cases h
    · cases h
  · cases h

/-- A byte that holds six bits of a character continues it. -/
theorem isContinuation_byte (n : Nat) : isContinuation (UInt8.ofNat (0x80 + n % 64)) = true := by
  rw [isContinuation_iff, toNat_byte (by omega)]
  omega

theorem payload_byte (n : Nat) : payload (UInt8.ofNat (0x80 + n % 64)) = n % 64 := by
  rw [payload, toNat_byte (by omega)]
  omega

/-- The character at the front of its own bytes. -/
theorem front_encodeChar (c : Char) (rest : List UInt8) :
    ∃ lead more, encodeChar c = lead :: more ∧
      front lead (more ++ rest) = .char c (more.length + 1) := by
  have bound := char_bound c
  have apart := not_surrogate c
  unfold encodeChar
  dsimp only
  split
  · rename_i small
    exact ⟨_, [], rfl, front_ascii (decide_eq_true small) rest⟩
  split
  · refine ⟨_, _, rfl, ?_⟩
    have lead := toNat_byte (n := 0xC0 + c.toNat / 64) (by omega)
    have value : (0xC0 + c.toNat / 64 - 0xC0) * 64 + c.toNat % 64 = c.toNat := by omega
    rw [List.singleton_append, front_two, payload_byte, lead, value, Char.ofNat_toNat]
    · rfl
    · omega
    · omega
    · exact isContinuation_byte _
  split
  · refine ⟨_, _, rfl, ?_⟩
    have lead := toNat_byte (n := 0xE0 + c.toNat / 4096) (by omega)
    have second := toNat_byte (n := 0x80 + c.toNat / 64 % 64) (by omega)
    have value : (0xE0 + c.toNat / 4096 - 0xE0) * 4096 + c.toNat / 64 % 64 * 64 +
        c.toNat % 64 = c.toNat := by omega
    rw [List.cons_append, List.singleton_append, front_three, payload_byte, payload_byte, lead,
      value, Char.ofNat_toNat]
    · rfl
    · omega
    · omega
    · rw [secondOfThree_iff, lead, second]
      omega
    · exact isContinuation_byte _
  · refine ⟨_, _, rfl, ?_⟩
    have lead := toNat_byte (n := 0xF0 + c.toNat / 262144) (by omega)
    have second := toNat_byte (n := 0x80 + c.toNat / 4096 % 64) (by omega)
    have value : (0xF0 + c.toNat / 262144 - 0xF0) * 262144 + c.toNat / 4096 % 64 * 4096 +
        c.toNat / 64 % 64 * 64 + c.toNat % 64 = c.toNat := by omega
    rw [List.cons_append, List.cons_append, List.singleton_append, front_four, payload_byte,
      payload_byte, payload_byte, lead, value, Char.ofNat_toNat]
    · rfl
    · omega
    · omega
    · rw [secondOfFour_iff, lead, second]
      omega
    · exact isContinuation_byte _
    · exact isContinuation_byte _

theorem ofNat_eq_byte {n : Nat} {b : UInt8} (h : n = b.toNat) : UInt8.ofNat n = b := by
  rw [h, UInt8.ofNat_toNat]

/-- The bytes at the front are those of the character that stands there. -/
theorem Fronted.eq_encodeChar {lead : UInt8} {rest : List UInt8} {c : Char} {width : Nat}
    (h : Fronted lead rest c width) : lead :: rest = encodeChar c ++ rest.drop (width - 1) := by
  cases h with
  | one low =>
      have value := toNat_ofNat_of_scalar (n := lead.toNat) (by omega) (by omega)
      have ascii : isAscii (Char.ofNat lead.toNat) = true := decide_eq_true (by omega)
      rw [encodeChar_ascii ascii, value, UInt8.ofNat_toNat]
      rfl
  | @two rest b low high second =>
      rw [isContinuation_iff] at second
      unfold payload
      generalize number : (lead.toNat - 0xC0) * 64 + b.toNat % 64 = n
      have value := toNat_ofNat_of_scalar (n := n) (by omega) (by omega)
      unfold encodeChar
      simp only [value]
      rw [if_neg (by omega), if_pos (by omega), ofNat_eq_byte (b := lead) (by omega),
        ofNat_eq_byte (b := b) (by omega)]
      rfl
  | @three rest b c low high second third =>
      rw [isContinuation_iff] at third
      rw [secondOfThree_iff] at second
      unfold payload
      generalize number : (lead.toNat - 0xE0) * 4096 + b.toNat % 64 * 64 + c.toNat % 64 = n
      have value := toNat_ofNat_of_scalar (n := n) (by omega) (by omega)
      unfold encodeChar
      simp only [value]
      rw [if_neg (by omega), if_neg (by omega), if_pos (by omega),
        ofNat_eq_byte (b := lead) (by omega), ofNat_eq_byte (b := b) (by omega),
        ofNat_eq_byte (b := c) (by omega)]
      rfl
  | @four rest b c d low high second third fourth =>
      rw [isContinuation_iff] at third fourth
      rw [secondOfFour_iff] at second
      unfold payload
      generalize number : (lead.toNat - 0xF0) * 262144 + b.toNat % 64 * 4096 +
        c.toNat % 64 * 64 + d.toNat % 64 = n
      have value := toNat_ofNat_of_scalar (n := n) (by omega) (by omega)
      unfold encodeChar
      simp only [value]
      rw [if_neg (by omega), if_neg (by omega), if_neg (by omega),
        ofNat_eq_byte (b := lead) (by omega), ofNat_eq_byte (b := b) (by omega),
        ofNat_eq_byte (b := c) (by omega), ofNat_eq_byte (b := d) (by omega)]
      rfl

/-! ## Texts -/

theorem decodeFrom_encode (text : List Char) (index : Nat) :
    decodeFrom index (encode text) = .ok text := by
  induction text generalizing index with
  | nil => simp [encode, decodeFrom]
  | cons c rest ih =>
      obtain ⟨lead, more, bytes, front⟩ := front_encodeChar c (encode rest)
      rw [encode_cons, bytes, List.cons_append, decodeFrom, front]
      simp only [Nat.add_sub_cancel, List.drop_left, ih]
      rfl

theorem encode_of_decodeFrom {bytes : List UInt8} {text : List Char} {index : Nat}
    (h : decodeFrom index bytes = .ok text) : encode text = bytes := by
  fun_induction decodeFrom index bytes generalizing text with
  | case1 =>
      obtain rfl := Except.ok.inj h
      rfl
  | case2 index lead rest c width found ih =>
      cases others : decodeFrom (index + width) (rest.drop (width - 1)) with
      | error fault =>
          rw [others] at h
          cases h
      | ok tail =>
          rw [others] at h
          obtain rfl := Except.ok.inj h
          rw [encode_cons, ih others]
          exact (fronted_of_front found).eq_encodeChar.symm
  | case3 => cases h
  | case4 => cases h

/-- Bytes are decoded to the text whose bytes they are, and to no other. -/
theorem decode_eq_ok_iff {bytes : List UInt8} {text : List Char} :
    decode bytes = .ok text ↔ encode text = bytes := by
  constructor
  · exact encode_of_decodeFrom
  · rintro rfl
    exact decodeFrom_encode text 0

end AsmDiagnostics.Text
