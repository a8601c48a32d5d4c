import AsmDiagnostics.Documents
import AsmDiagnostics.Proofs.Text.Boundary

/-!
# Edits between any two places

The offsets of places are in the order of the places, whatever lines and columns these have.  So the
bytes that an edit replaces always form a stretch of the text, and one that cuts no character.
-/

namespace AsmDiagnostics

/-- A place is on an earlier line than another, or on the same line and not behind it. -/
def Position.NoLater (p q : Position) : Prop :=
  p.line < q.line ∨ p.line = q.line ∧ p.character ≤ q.character

instance (p q : Position) : Decidable (p.NoLater q) := inferInstanceAs (Decidable (_ ∨ _))

namespace TextDocument

/-! ## The order of offsets -/

/-- The units on the way are the same for both columns, also where the word that counts them starts
again. -/
theorem columnOffset_mono {first second : UInt32} (h : first ≤ second) (units : UInt32)
    (s : List Char) : columnOffset first units s ≤ columnOffset second units s := by
  induction s generalizing units with
  | nil => exact Nat.le_refl _
  | cons c rest ih =>
      unfold columnOffset
      split
      · exact Nat.zero_le _
      · rename_i ahead
        rw [not_or] at ahead
        have further : ¬ second ≤ units := fun behind => ahead.1 (UInt32.le_trans h behind)
        rw [if_neg (not_or.mpr ⟨further, ahead.2⟩)]
        exact Nat.succ_le_succ (ih _)

/-- Every column of the first line is before every place on a later line. -/
theorem columnOffset_le_offset_succ (column units : UInt32) (line : Nat) (other : UInt32)
    (s : List Char) : columnOffset column units s ≤ offset (line + 1) other s := by
  induction s generalizing units with
  | nil => exact Nat.zero_le _
  | cons c rest ih =>
      unfold columnOffset
      split
      · exact Nat.zero_le _
      · rename_i ahead
        rw [offset, if_neg (not_or.mp ahead).2]
        exact Nat.succ_le_succ (ih _)

theorem offset_le_of_line_lt {first second : Nat} (h : first < second) (column other : UInt32)
    (s : List Char) : offset first column s ≤ offset second other s := by
  obtain ⟨second, rfl⟩ := Nat.exists_eq_add_one_of_ne_zero (Nat.ne_zero_of_lt h)
  induction s generalizing first second with
  | nil =>
      cases first with
      | zero => exact columnOffset_le_offset_succ column 0 second other []
      | succ first => exact Nat.zero_le _
  | cons c rest ih =>
      cases first with
      | zero => exact columnOffset_le_offset_succ column 0 second other (c :: rest)
      | succ first =>
          unfold offset
          split
          · obtain ⟨later, rfl⟩ := Nat.exists_eq_add_one_of_ne_zero
              (Nat.ne_zero_of_lt (Nat.lt_of_succ_lt_succ h))
            exact Nat.succ_le_succ (ih later (Nat.lt_of_succ_lt_succ h))
          · exact Nat.succ_le_succ (ih second h)

theorem offset_mono {first second : UInt32} (h : first ≤ second) (line : Nat) (s : List Char) :
    offset line first s ≤ offset line second s := by
  induction s generalizing line with
  | nil =>
      cases line with
      | zero => exact columnOffset_mono h 0 []
      | succ line => exact Nat.le_refl _
  | cons c rest ih =>
      cases line with
      | zero => exact columnOffset_mono h 0 (c :: rest)
      | succ line =>
          unfold offset
          split
          · exact Nat.succ_le_succ (ih line)
          · exact Nat.succ_le_succ (ih (line + 1))

/-- Offsets are in the order of places. -/
theorem offsetAt_mono {p q : Position} (h : p.NoLater q) (s : List Char) :
    offsetAt s p ≤ offsetAt s q := by
  unfold offsetAt
  rcases h with earlier | ⟨same, ahead⟩
  · exact offset_le_of_line_lt (UInt32.lt_iff_toNat_lt.mp earlier) _ _ s
  · rw [same]
    exact offset_mono ahead _ s

/-! ## Edits of the bytes -/

def byteOffsetAt (s : List Char) (p : Position) : Nat := Text.bytesBefore s (offsetAt s p)

theorem byteOffsetAt_mono {p q : Position} (h : p.NoLater q) (s : List Char) :
    byteOffsetAt s p ≤ byteOffsetAt s q := Text.bytesBefore_mono s (offsetAt_mono h s)

/-- The bytes after an edit between two places. -/
theorem encode_edited (s : List Char) (range : Range) (new : String) :
    Text.encode (edited s ⟨some range, new⟩) =
      (Text.encode s).take (byteOffsetAt s range.start) ++ Text.bytesOf new ++
        (Text.encode s).drop (max (byteOffsetAt s range.stop) (byteOffsetAt s range.start)) := by
  unfold byteOffsetAt
  rw [← (Text.bytesBefore_mono s).map_max, Text.take_bytesBefore, Text.drop_bytesBefore]
  simp only [edited, splice, Text.encode_append, Text.bytesOf]

/-- The bytes of a text may be replaced between the offsets of any two places, whatever their lines
and columns are: the stretch lies within the text and cuts no character, and the edited document has
the bytes that this gives. Offsets are in the order of places, so that the stretch ends at the
second place unless that is before the first. -/
theorem edits_are_safe_splices :
    (∀ (document : TextDocument) (version : Int) (range : Range) (new : String),
      let text := document.text.toList
      let bytes := Text.bytesOf document.text
      let start := byteOffsetAt text range.start
      let stop := max (byteOffsetAt text range.stop) start
      let edited := Text.bytesOf (document.change version [⟨some range, new⟩]).text
      start ≤ stop ∧ stop ≤ bytes.length ∧
        Text.isBoundary bytes start = true ∧ Text.isBoundary bytes stop = true ∧
        Text.replaceRange? bytes start stop (Text.bytesOf new) = some edited ∧
        edited = bytes.take start ++ Text.bytesOf new ++ bytes.drop stop ∧
        (range.start.NoLater range.stop → stop = byteOffsetAt text range.stop)) ∧
    ∀ (s : List Char) (p q : Position), p.NoLater q →
      offsetAt s p ≤ offsetAt s q ∧ byteOffsetAt s p ≤ byteOffsetAt s q := by
  refine ⟨fun document version range new => ?_,
    fun s p q ordered => ⟨offsetAt_mono ordered s, byteOffsetAt_mono ordered s⟩⟩
  intro text bytes start stop edited
  have ordered : start ≤ stop := Nat.le_max_right _ _
  have last : stop = Text.bytesBefore text
      (max (offsetAt text range.stop) (offsetAt text range.start)) :=
    (Text.bytesBefore_mono text).map_max.symm
  have within : stop ≤ bytes.length := last ▸ Text.bytesBefore_le_length text _
  have first : Text.isBoundary bytes start = true := Text.isBoundary_bytesBefore text _
  have second : Text.isBoundary bytes stop = true := last ▸ Text.isBoundary_bytesBefore text _
  have spliced : edited = bytes.take start ++ Text.bytesOf new ++ bytes.drop stop := by
    have same : edited = Text.encode (TextDocument.edited text ⟨some range, new⟩) := by
      simp [edited, change, Text.bytesOf, text]
    exact same.trans (encode_edited text range new)
  refine ⟨ordered, within, first, second, ?_, spliced, fun notInverted => ?_⟩
  · rw [Text.replaceRange?, if_pos ⟨ordered, first, second⟩, spliced]
  · exact Nat.max_eq_left (byteOffsetAt_mono notInverted text)

/-- A stretch from behind the end of its line to within a pair of surrogates ends behind the
character of the pair. -/
theorem pair_replaced_whole :
    let document : TextDocument := ⟨1, "a\nb😀c"⟩
    let bytes := Text.bytesOf document.text
    let range : Range := ⟨⟨0, 9⟩, ⟨1, 2⟩⟩
    range.start.NoLater range.stop ∧
      Text.replaceRange? bytes 1 7 (Text.bytesOf "é") = some (Text.bytesOf "aéc") ∧
      (document.change 2 [⟨some range, "é"⟩]).text = "aéc" := by
  intro document bytes range
  have ordered : range.start.NoLater range.stop := by decide
  obtain ⟨-, -, -, -, replaced, -, last⟩ := edits_are_safe_splices.1 document 2 range "é"
  have first : byteOffsetAt document.text.toList range.start = 1 := by decide
  have second : byteOffsetAt document.text.toList range.stop = 7 := by decide
  have text : (document.change 2 [⟨some range, "é"⟩]).text = "aéc" := by decide
  rw [last ordered, first, second, text] at replaced
  exact ⟨ordered, replaced, text⟩

end TextDocument

end AsmDiagnostics
