import Mathlib.Data.List.TakeWhile
import AsmDiagnostics.Documents

/-!
# Positions of boundaries

Between any two characters of a text, and at both its ends, there is a boundary.  Its position is the
number of newlines before it, and the number of UTF-16 units between it and the last of them.  The
offset of the position of a boundary is the boundary again.
-/

namespace AsmDiagnostics.TextDocument

/-- The UTF-16 units of a character: itself, or a pair of surrogates. -/
def utf16Units (c : Char) : List Nat :=
  if c.toNat < 0x10000 then [c.toNat]
  else [0xD800 + (c.toNat - 0x10000) / 0x400, 0xDC00 + (c.toNat - 0x10000) % 0x400]

def lastLine (s : List Char) : List Char := (s.reverse.takeWhile (· ≠ '\n')).reverse

def utf16Length (s : List Char) : Nat := (s.flatMap utf16Units).length

def lineAt (s : List Char) (boundary : Nat) : Nat := (s.take boundary).count '\n'

/-- The column of a boundary: the number of UTF-16 units since the start of its line. -/
def columnAt (s : List Char) (boundary : Nat) : Nat :=
  ((lastLine (s.take boundary)).flatMap utf16Units).length

/-- Line and column of a boundary fit into the words of a position. -/
def Addressable (s : List Char) (boundary : Nat) : Prop :=
  lineAt s boundary < UInt32.size ∧ columnAt s boundary < UInt32.size

instance (s : List Char) (boundary : Nat) : Decidable (Addressable s boundary) :=
  inferInstanceAs (Decidable (_ ∧ _))

def positionAt (s : List Char) (boundary : Nat) : Position :=
  ⟨UInt32.ofNat (lineAt s boundary), UInt32.ofNat (columnAt s boundary)⟩

theorem length_utf16Units (c : Char) : (utf16Units c).length = utf16Width c := by
  unfold utf16Units utf16Width
  split <;> rfl

theorem utf16Width_pos (c : Char) : 0 < utf16Width c := by
  unfold utf16Width
  split <;> decide

theorem utf16Length_cons (c : Char) (s : List Char) :
    utf16Length (c :: s) = utf16Width c + utf16Length s := by
  rw [utf16Length, List.flatMap_cons, List.length_append, length_utf16Units]
  rfl

/-! ## The last line, from the front -/

theorem lastLine_of_single {s : List Char} (single : '\n' ∉ s) : lastLine s = s := by
  have whole : s.reverse.takeWhile (· ≠ '\n') = s.reverse := by
    rw [List.takeWhile_eq_self_iff]
    intro d member
    have apart : d ≠ '\n' := fun same => single (same ▸ List.mem_reverse.mp member)
    simpa using apart
  rw [lastLine, whole, List.reverse_reverse]

theorem lastLine_newline (s : List Char) : lastLine ('\n' :: s) = lastLine s := by
  unfold lastLine
  rw [List.reverse_cons, List.takeWhile_append]
  split
  · rename_i whole
    have same := (List.takeWhile_prefix (l := s.reverse) (· ≠ '\n')).eq_of_length whole
    rw [same, List.takeWhile_cons_of_neg (by decide), List.append_nil]
  · rfl

/-- A character in front of a text belongs to the last line only if the text has no newline. -/
theorem lastLine_cons {c : Char} (other : c ≠ '\n') (s : List Char) :
    lastLine (c :: s) = if '\n' ∈ s then lastLine s else c :: lastLine s := by
  unfold lastLine
  rw [List.reverse_cons, List.takeWhile_append]
  by_cases broken : '\n' ∈ s
  · have shorter : (s.reverse.takeWhile (· ≠ '\n')).length ≠ s.reverse.length := by
      intro whole
      have all := List.takeWhile_eq_self_iff.mp
        ((List.takeWhile_prefix (l := s.reverse) (· ≠ '\n')).eq_of_length whole)
      simpa using all '\n' (List.mem_reverse.mpr broken)
    rw [if_neg shorter, if_pos broken]
  · have whole : s.reverse.takeWhile (· ≠ '\n') = s.reverse := by
      rw [← List.reverse_inj, List.reverse_reverse]
      exact lastLine_of_single broken
    rw [if_pos (by rw [whole]), if_neg broken, whole,
      List.takeWhile_cons_of_pos (by simpa using other), List.takeWhile_nil, List.reverse_append]
    rfl

/-! ## Boundaries of a text with one more character in front -/

theorem lineAt_zero (s : List Char) : lineAt s 0 = 0 := rfl

theorem lineAt_newline (s : List Char) (boundary : Nat) :
    lineAt ('\n' :: s) (boundary + 1) = lineAt s boundary + 1 := by
  simp [lineAt]

theorem columnAt_newline (s : List Char) (boundary : Nat) :
    columnAt ('\n' :: s) (boundary + 1) = columnAt s boundary := by
  simp [columnAt, lastLine_newline]

theorem lineAt_cons {c : Char} (other : c ≠ '\n') (s : List Char) (boundary : Nat) :
    lineAt (c :: s) (boundary + 1) = lineAt s boundary := by
  simp [lineAt, other]

/-- The character in front counts for the column on the first line only. -/
theorem columnAt_cons {c : Char} (other : c ≠ '\n') (s : List Char) (boundary : Nat) :
    columnAt (c :: s) (boundary + 1) =
      if lineAt s boundary = 0 then utf16Width c + columnAt s boundary else columnAt s boundary := by
  unfold columnAt lineAt
  rw [List.take_succ_cons, lastLine_cons other]
  by_cases broken : '\n' ∈ s.take boundary
  · rw [if_pos broken, if_neg (List.count_pos_iff.mpr broken).ne']
  · rw [if_neg broken, if_pos (List.count_eq_zero.mpr broken), List.flatMap_cons,
      List.length_append, length_utf16Units]

/-! ## Back from positions -/

/-- The offset of a column behind a text without newlines is behind that text. The units of the text
do not fill the word that counts them. -/
theorem columnOffset_passed {s : List Char} (single : '\n' ∉ s) {column : UInt32} {units : Nat}
    (within : units + utf16Length s ≤ column.toNat) (rest : List Char) :
    columnOffset column (UInt32.ofNat units) (s ++ rest) =
      s.length + columnOffset column (UInt32.ofNat (units + utf16Length s)) rest := by
  induction s generalizing units with
  | nil => rw [List.length_nil, Nat.zero_add]; rfl
  | cons c s ih =>
      rw [List.mem_cons, not_or] at single
      rw [utf16Length_cons, ← Nat.add_assoc] at within ⊢
      have ahead : ¬ column ≤ UInt32.ofNat units := by
        have wide := utf16Width_pos c
        have earlier : units < column.toNat := by omega
        rw [UInt32.le_iff_toNat_le,
          UInt32.toNat_ofNat_of_lt' (Nat.lt_trans earlier column.toNat_lt)]
        exact Nat.not_le_of_lt earlier
      rw [List.cons_append, columnOffset, if_neg (not_or.mpr ⟨ahead, Ne.symm single.1⟩),
        ← UInt32.ofNat_add, ih single.2 within, List.length_cons, Nat.add_right_comm]

theorem columnOffset_self (column : UInt32) (s : List Char) : columnOffset column column s = 0 := by
  cases s with
  | nil => rfl
  | cons c rest => exact if_pos (.inl (UInt32.le_refl column))

/-- The column of a boundary on the first line leads back to the boundary. -/
theorem columnOffset_columnAt {s : List Char} {boundary : Nat} (inside : boundary ≤ s.length)
    (first : lineAt s boundary = 0) (small : columnAt s boundary < UInt32.size) :
    columnOffset (UInt32.ofNat (columnAt s boundary)) 0 s = boundary := by
  have single : '\n' ∉ s.take boundary := List.count_eq_zero.mp first
  have column : columnAt s boundary = utf16Length (s.take boundary) := by
    rw [columnAt, lastLine_of_single single, utf16Length]
  have passed := @columnOffset_passed _ single (UInt32.ofNat (columnAt s boundary)) 0
    (by rw [UInt32.toNat_ofNat_of_lt' small, column, Nat.zero_add]) (s.drop boundary)
  rw [List.take_append_drop, List.length_take_of_le inside, Nat.zero_add, ← column] at passed
  exact passed.trans (by rw [columnOffset_self, Nat.add_zero])

/-- The way from a boundary to its line and column and back ends at the boundary. -/
theorem offset_lineAt_columnAt {s : List Char} {boundary : Nat} (inside : boundary ≤ s.length)
    (small : columnAt s boundary < UInt32.size) :
    offset (lineAt s boundary) (UInt32.ofNat (columnAt s boundary)) s = boundary := by
  induction s generalizing boundary with
  | nil =>
      obtain rfl := Nat.le_zero.mp inside
      rfl
  | cons c rest ih =>
      cases line : lineAt (c :: rest) boundary with
      | zero => exact columnOffset_columnAt inside line small
      | succ number =>
          cases boundary with
          | zero => exact absurd line (by simp [lineAt_zero])
          | succ boundary =>
              have within := Nat.le_of_succ_le_succ inside
              by_cases newline : c = '\n'
              · subst newline
                rw [columnAt_newline] at small ⊢
                obtain rfl := Nat.succ.inj ((lineAt_newline rest boundary).symm.trans line)
                rw [offset, if_pos rfl, ih within small]
              · rw [lineAt_cons newline] at line
                rw [columnAt_cons newline, if_neg (line ▸ Nat.succ_ne_zero number)] at small ⊢
                rw [offset, if_neg newline, ← line, ih within small]

/-- The offset of the position of a boundary is the boundary. -/
theorem offsetAt_positionAt {s : List Char} {boundary : Nat} (inside : boundary ≤ s.length)
    (addressable : Addressable s boundary) : offsetAt s (positionAt s boundary) = boundary := by
  unfold offsetAt positionAt
  rw [UInt32.toNat_ofNat_of_lt' addressable.1]
  exact offset_lineAt_columnAt inside addressable.2

end AsmDiagnostics.TextDocument
