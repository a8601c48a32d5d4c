import AsmDiagnostics.Text.Utf8

/-!
# Plain ASCII in UTF-8

A text of characters below 128 has one byte for each character, and is read back from its bytes. In
any other text a byte below 128 is a character of its own.
-/

namespace AsmDiagnostics.Text

def isAscii (c : Char) : Bool := decide (c.toNat < 0x80)

theorem encodeChar_ascii {c : Char} (h : isAscii c = true) :
    encodeChar c = [UInt8.ofNat c.toNat] := by
  have small : c.toNat < 0x80 := of_decide_eq_true h
  simp [encodeChar, small]

theorem front_ascii {c : Char} (h : isAscii c = true) (rest : List UInt8) :
    front (UInt8.ofNat c.toNat) rest = .char c 1 := by
  have small : c.toNat < 0x80 := of_decide_eq_true h
  have same : (UInt8.ofNat c.toNat).toNat = c.toNat := by
    rw [UInt8.toNat_ofNat']
    omega
  have below : UInt8.ofNat c.toNat < 0x80 := by
    rw [UInt8.lt_iff_toNat_lt, same]
    exact small
  unfold front
  rw [if_pos below, same, Char.ofNat_toNat]

theorem decodeFrom_encode_ascii {text : List Char} (ascii : ∀ c ∈ text, isAscii c = true)
    (index : Nat) : decodeFrom index (encode text) = .ok text := by
  induction text generalizing index with
  | nil => simp [encode, decodeFrom]
  | cons c rest ih =>
      rw [List.forall_mem_cons] at ascii
      rw [encode_cons, encodeChar_ascii ascii.1, List.singleton_append, decodeFrom,
        front_ascii ascii.1]
      simp only [Nat.sub_self, List.drop_zero, ih ascii.2]
      rfl

theorem decode_encode_ascii {text : List Char} (ascii : ∀ c ∈ text, isAscii c = true) :
    decode (encode text) = .ok text := decodeFrom_encode_ascii ascii 0

/-- A text of single bytes can be cut at any byte. -/
theorem exists_prefix_of_encode {text : List Char} (ascii : ∀ c ∈ text, isAscii c = true)
    {part : List UInt8} (front : part <+: encode text) :
    ∃ start, start <+: text ∧ part = encode start := by
  induction text generalizing part with
  | nil => exact ⟨[], List.nil_prefix, List.prefix_nil.mp front⟩
  | cons c rest ih =>
      rw [List.forall_mem_cons] at ascii
      rw [encode_cons, encodeChar_ascii ascii.1, List.singleton_append,
        List.prefix_cons_iff] at front
      rcases front with rfl | ⟨more, rfl, behind⟩
      · exact ⟨[], List.nil_prefix, rfl⟩
      · obtain ⟨start, within, rfl⟩ := ih ascii.2 behind
        refine ⟨c :: start, List.cons_prefix_cons.mpr ⟨rfl, within⟩, ?_⟩
        rw [encode_cons, encodeChar_ascii ascii.1, List.singleton_append]

theorem isAscii_of_isDigit {c : Char} (h : c.isDigit = true) : isAscii c = true := by
  have high := (Char.isDigit_iff_toNat.mp h).2
  exact decide_eq_true (Nat.lt_of_le_of_lt high (by decide))

/-- A byte below 128 stands in the encoding of a character only when it is the whole of it. -/
theorem mem_encodeChar_iff {c d : Char} (own : isAscii d = true) :
    UInt8.ofNat d.toNat ∈ encodeChar c ↔ d = c := by
  have low : d.toNat < 0x80 := of_decide_eq_true own
  have bound : c.toNat < 0x110000 := by
    rcases c.valid with small | large
    · exact Nat.lt_trans small (by decide)
    · exact large.2
  rw [← Char.toNat_inj]
  simp only [encodeChar]
  -- every byte of a longer encoding is 128 or more
  repeat' split
  all_goals
    simp only [List.mem_cons, List.not_mem_nil, or_false, ← UInt8.toNat_inj, UInt8.toNat_ofNat']
    omega

theorem mem_encode_iff {text : List Char} {d : Char} (own : isAscii d = true) :
    UInt8.ofNat d.toNat ∈ encode text ↔ d ∈ text := by
  simp [encode, mem_encodeChar_iff own]

end AsmDiagnostics.Text
