import Mathlib.Order.MinMax
import Mathlib.Order.Nat
import AsmDiagnostics.Proofs.Text.Decoding

/-!
# Cutting encoded texts

The bytes of a text may be cut only where a character ends and another begins. The bytes of any
number of characters at its front end at such a place, and those behind are the bytes of the other
characters.
-/

namespace AsmDiagnostics.Text

/-- Bytes of a text may be cut at an index: it is their end, or no byte that continues a character
stands there. -/
def isBoundary (bytes : List UInt8) (index : Nat) : Bool :=
  match bytes[index]? with
  | some b => !isContinuation b
  | none => index == bytes.length

/-- The bytes of a text with a stretch of them replaced. There is no such text for a stretch that
ends before it starts, or that cuts the bytes where they may not be cut. -/
def replaceRange? (bytes : List UInt8) (start stop : Nat) (new : List UInt8) :
    Option (List UInt8) :=
  if start ≤ stop ∧ isBoundary bytes start = true ∧ isBoundary bytes stop = true then
    some (bytes.take start ++ new ++ bytes.drop stop)
  else none

def bytesBefore (s : List Char) (offset : Nat) : Nat := (encode (s.take offset)).length

theorem encode_take_append_drop (s : List Char) (offset : Nat) :
    encode (s.take offset) ++ encode (s.drop offset) = encode s := by
  rw [← encode_append, List.take_append_drop]

theorem take_bytesBefore (s : List Char) (offset : Nat) :
    (encode s).take (bytesBefore s offset) = encode (s.take offset) := by
  rw [← encode_take_append_drop s offset]
  exact List.take_left

theorem drop_bytesBefore (s : List Char) (offset : Nat) :
    (encode s).drop (bytesBefore s offset) = encode (s.drop offset) := by
  rw [← encode_take_append_drop s offset]
  exact List.drop_left

theorem bytesBefore_le_length (s : List Char) (offset : Nat) :
    bytesBefore s offset ≤ (encode s).length := by
  rw [← encode_take_append_drop s offset, List.length_append]
  exact Nat.le_add_right _ _

theorem bytesBefore_mono (s : List Char) : Monotone (bytesBefore s) := by
  intro first second h
  have within := bytesBefore_le_length (s.take second) first
  rwa [bytesBefore, List.take_take, Nat.min_eq_left h] at within

/-- The first byte of a character does not continue one. -/
theorem exists_lead (c : Char) :
    ∃ lead more, encodeChar c = lead :: more ∧ isContinuation lead = false := by
  obtain ⟨lead, more, bytes, front⟩ := front_encodeChar c []
  refine ⟨lead, more, bytes, Bool.eq_false_iff.mpr fun continues => ?_⟩
  have within := isContinuation_iff.mp continues
  have outside := (fronted_of_front front).lead_bounds
  omega

theorem isBoundary_bytesBefore (s : List Char) (offset : Nat) :
    isBoundary (encode s) (bytesBefore s offset) = true := by
  have next : (encode s)[bytesBefore s offset]? = (encode (s.drop offset)).head? := by
    rw [← drop_bytesBefore, List.head?_drop]
  unfold isBoundary
  rw [next]
  cases behind : s.drop offset with
  | nil =>
      have whole := encode_take_append_drop s offset
      rw [behind, encode_nil, List.append_nil] at whole
      simp [encode_nil, bytesBefore, whole]
  | cons c rest =>
      obtain ⟨lead, more, bytes, starts⟩ := exists_lead c
      simp [encode_cons, bytes, starts]

end AsmDiagnostics.Text
