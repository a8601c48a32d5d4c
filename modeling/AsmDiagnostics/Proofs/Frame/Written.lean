import AsmDiagnostics.Proofs.Frame.Grammar

/-!
# What is written

Frames that are written one behind another hold their bodies whole, however long these are: each
stands behind a header that gives its length.  A reader that refuses long bodies still finds those in
front of the first such body.
-/

namespace AsmDiagnostics.Frame

/-- Bytes hold bodies one behind another, and nothing else but a header in front of each. -/
inductive Holds : List UInt8 → List (List UInt8) → Prop where
  | nil : Holds [] []
  | cons {lines : List HeaderLine} {body rest : List UInt8} {others : List (List UInt8)}
      (said : Declares lines body.length) (blank : BlankLine) (more : Holds rest others) :
      Holds (lines.flatMap HeaderLine.bytes ++ (Text.encode blank.text ++ newline :: (body ++ rest)))
        (body :: others)

def writtenLine (length : Nat) : HeaderLine where
  text := lengthLine length ++ ['\r']
  single := fun member => (lengthLine_plain length '\n' member).2 rfl
  solid := List.all_eq_false.mpr
    ⟨'C', List.mem_append_left _ (List.mem_append_left _ (by decide)), by decide⟩

def writtenBlank : BlankLine := ⟨['\r'], by decide, by decide⟩

theorem header_eq_lines (length : Nat) :
    header length =
      [writtenLine length].flatMap HeaderLine.bytes ++
        (Text.encode writtenBlank.text ++ [newline]) := by
  rw [header_eq]
  simp [HeaderLine.bytes, writtenLine, writtenBlank]

/-- A header that is written gives its length. -/
theorem writtenLine_declares {length : Nat} (small : length ≤ Text.maxWord64) :
    Declares [writtenLine length] length := by
  have found : lengthOf (Text.trim (lengthLine length ++ ['\r'])) = .ok (some length) := by
    rw [trim_lengthLine length (by decide)]
    exact lengthOf_lengthLine small
  exact leaves_none_iff.mp (.cons found (.nil _))

/-- What is written holds its bodies, as far as a header can give their lengths. -/
theorem holds_write {bodies : List (List UInt8)}
    (small : ∀ body ∈ bodies, body.length ≤ Text.maxWord64) : Holds (bodies.flatMap write) bodies := by
  induction bodies with
  | nil => exact .nil
  | cons body bodies ih =>
      rw [List.forall_mem_cons] at small
      have held := Holds.cons (writtenLine_declares small.1) writtenBlank (ih small.2)
      rw [List.flatMap_cons, write, header_eq_lines]
      simpa [List.append_assoc] using held

end AsmDiagnostics.Frame
