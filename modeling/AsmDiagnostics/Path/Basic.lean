import AsmDiagnostics.Text.Utf8

/-!
# Paths

A path is a sequence of bytes in which slashes separate components. Repeated slashes, a slash at
the end, and dots other than a leading one do not show in the components. Comparison of paths goes
by components, never by their text.
-/

namespace AsmDiagnostics

structure Path where
  bytes : List UInt8
  deriving DecidableEq, Repr

namespace Path

def slash : UInt8 := 0x2F

inductive Component where
  /-- The slash that makes a path absolute. -/
  | root
  /-- A dot that a relative path starts with. -/
  | here
  /-- Two dots. -/
  | up
  /-- The name of an entry of a directory. -/
  | name (bytes : List UInt8)
  deriving DecidableEq, Repr

def empty : Path := ⟨[]⟩

def ofString (s : String) : Path := ⟨Text.bytesOf s⟩

def display (p : Path) : String := Text.lossy p.bytes

def isAbsolute (p : Path) : Bool := p.bytes.head? == some slash

/-- The pieces of a byte sequence between slashes; there is one more than there are slashes. -/
def pieces : List UInt8 → List (List UInt8)
  | [] => [[]]
  | b :: rest =>
      if b = slash then [] :: pieces rest
      else
        match pieces rest with
        | [] => [[b]]
        | piece :: others => (b :: piece) :: others

/-- The component that a piece stands for; empty pieces and single dots stand for none. -/
def ofPiece? (piece : List UInt8) : Option Component :=
  if piece = [] then none
  else if piece = [0x2E] then none
  else if piece = [0x2E, 0x2E] then some .up
  else some (.name piece)

def components (p : Path) : List Component :=
  let all := pieces p.bytes
  let first :=
    if p.isAbsolute then [Component.root]
    else if all.head? = some [0x2E] then [Component.here]
    else []
  first ++ all.filterMap ofPiece?

def Component.bytes : Component → List UInt8
  | .root => [slash]
  | .here => [0x2E]
  | .up => [0x2E, 0x2E]
  | .name bytes => bytes

/-- Byte sequences with slashes between them. -/
def joinPieces : List (List UInt8) → List UInt8
  | [] => []
  | [last] => last
  | piece :: rest => piece ++ slash :: joinPieces rest

def ofComponents : List Component → Path
  | .root :: rest => ⟨slash :: joinPieces (rest.map Component.bytes)⟩
  | all => ⟨joinPieces (all.map Component.bytes)⟩

/-- One path below another; an absolute path stands for itself. -/
def join (base other : Path) : Path :=
  if other.isAbsolute then other
  else if base.bytes = [] ∨ base.bytes.getLast? = some slash then ⟨base.bytes ++ other.bytes⟩
  else ⟨base.bytes ++ slash :: other.bytes⟩

def endsWith (p suffix : Path) : Bool := suffix.components.isSuffixOf p.components

def stripFront {α : Type} [DecidableEq α] : List α → List α → Option (List α)
  | [], rest => some rest
  | _ :: _, [] => none
  | a :: front, b :: rest => if a = b then stripFront front rest else none

def below? (directory p : Path) : Option Path :=
  (stripFront directory.components p.components).map ofComponents

theorem pieces_ne_nil (s : List UInt8) : pieces s ≠ [] := by
  cases s with
  | nil => simp [pieces]
  | cons b rest =>
      unfold pieces
      split
      · simp
      · split <;> simp

theorem stripFront_append {α : Type} [DecidableEq α] (front rest : List α) :
    stripFront front (front ++ rest) = some rest := by
  induction front with
  | nil => rfl
  | cons a front ih => simp [stripFront, ih]

theorem eq_append_of_stripFront {α : Type} [DecidableEq α] {front whole rest : List α}
    (h : stripFront front whole = some rest) : whole = front ++ rest := by
  induction front generalizing whole with
  | nil => simpa [stripFront] using h
  | cons a front ih =>
      cases whole with
      | nil => simp [stripFront] at h
      | cons b whole =>
          unfold stripFront at h
          split at h
          · rename_i same
            rw [same, ih h, List.cons_append]
          · simp at h

end Path

end AsmDiagnostics
