import AsmDiagnostics.Path.Fold
import AsmDiagnostics.Report
import AsmDiagnostics.Settings
import AsmDiagnostics.Uri.Basic

/-!
# Workspaces and documents

A workspace is the folder that a session works in, with its settings. A document is a file seen from
a workspace: its own folded path, and the path below the workspace root, or the folded path once
more when the file lies elsewhere.
-/

namespace AsmDiagnostics

structure Workspace where
  root : Path
  settings : Settings
  deriving DecidableEq, Repr

/-- A file seen from a workspace. -/
structure DocumentRef where
  absolute : Path
  relative : Path
  deriving DecidableEq, Repr

inductive BuildMode where
  /-- The whole project is built. -/
  | project
  /-- The document is assembled on its own. -/
  | singleFile
  deriving DecidableEq, Repr

namespace DocumentRef

def ofPath (root path : Path) : DocumentRef :=
  let absolute := path.normalize
  ⟨absolute, (root.below? absolute).getD absolute⟩

/-- A reported file is the document: by its whole path when it is absolute, by the last part of the
relative path otherwise. -/
def isNamed (d : DocumentRef) (reported : Path) : Bool :=
  if reported.isAbsolute then decide (reported.components = d.absolute.components)
  else d.relative.endsWith reported

def diagnostics (d : DocumentRef) (output : String) : List Diagnostic :=
  Report.diagnosticsFor d.isNamed output.toList

end DocumentRef

namespace Workspace

def ofRoot (root : Path) (settings : Settings) : Workspace := ⟨root.normalize, settings⟩

def descriptor (w : Workspace) : Path := w.root.join (Path.ofString w.settings.buildDescriptor)

def buildMode (w : Workspace) (pathExists : Path → Bool) : BuildMode :=
  if pathExists w.descriptor then .project else .singleFile

def document? (w : Workspace) (uri : Uri) : Option DocumentRef :=
  uri.filePath?.map (DocumentRef.ofPath w.root)

end Workspace

end AsmDiagnostics
