import AsmDiagnostics.Path.Basic

/-!
# Folding dots

Two ways to fold `.` and `..` out of a path without looking at any directory. The workspace folds
its own paths with `normalize`, where `..` takes away whatever stands before it. A path that the
assembler reports is folded with `reported`, which keeps a `..` that has no name to take away,
unless it stands at the root, and which takes a backslash for a slash.
-/

namespace AsmDiagnostics.Path

/-- One step of the workspace's folding, on the components so far in reverse. -/
def normalizeStep (done : List Component) : Component → List Component
  | .up => done.tail
  | .here => done
  | other => other :: done

def normalizeComponents (all : List Component) : List Component :=
  (all.foldl normalizeStep []).reverse

def normalize (p : Path) : Path := ofComponents (normalizeComponents p.components)

def foldStep (done : List Component) : Component → List Component
  | .here => done
  | .up =>
      match done with
      | .name _ :: rest => rest
      | .root :: _ => done
      | _ => .up :: done
  | other => other :: done

def foldComponents (all : List Component) : List Component :=
  (all.foldl foldStep []).reverse

def separatorByte (b : UInt8) : UInt8 := if b = 0x5C then slash else b

def reported (file : List Char) : Path :=
  ofComponents (foldComponents (components ⟨(Text.encode file).map separatorByte⟩))

theorem normalizeComponents_append (front back : List Component) :
    normalizeComponents (front ++ back) =
      (back.foldl normalizeStep (normalizeComponents front).reverse).reverse := by
  simp [normalizeComponents, List.foldl_append]

theorem foldComponents_append (front back : List Component) :
    foldComponents (front ++ back) =
      (back.foldl foldStep (foldComponents front).reverse).reverse := by
  simp [foldComponents, List.foldl_append]

end AsmDiagnostics.Path
