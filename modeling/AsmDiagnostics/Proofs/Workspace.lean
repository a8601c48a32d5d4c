import AsmDiagnostics.Build.Command
import AsmDiagnostics.Proofs.Path.Folding

/-!
# Absolute paths of workspaces and documents

The folded root of a workspace, the folded path of a document and the file that the assembler is
given are absolute when the path they come from is absolute and does not climb above its root. They
have the components of the path as a report of it would be folded.
-/

namespace AsmDiagnostics

namespace Path

/-- The two foldings of an absolute path, the workspace's own and that of a report. -/
structure FoldedTwice (p reported : Path) : Prop where
  rooted : reported.isAbsolute = true
  agree : p.normalize.components = reported.components ↔ ¬ p.Climbs
  rootless : p.Climbs → p.normalize.components = reported.components.tail
  absolute : p.normalize.isAbsolute = true ↔ ¬ p.Climbs
  dotless : ∀ c ∈ p.normalize.components, c ≠ .here ∧ c ≠ .up
  stable : p.normalize.normalize = p.normalize

theorem Component.Entry.dotless {c : Component} (entry : c.Entry) : c ≠ .here ∧ c ≠ .up := by
  refine ⟨entry.1.ne_here, ?_⟩
  rintro rfl
  exact absurd entry.2 Bool.false_ne_true

/-- The names that both foldings of an absolute path leave. -/
theorem names_of_absolute {p : Path} (absolute : p.isAbsolute = true) :
    ∃ names : List Component, (∀ c ∈ names, c.Entry) ∧
      foldComponents p.components = .root :: names ∧
      normalizeComponents p.components = if p.Climbs then names else .root :: names := by
  obtain ⟨names, entries, folded, normalized⟩ :=
    folded_absolute fun c member => plain_of_mem_filterMap (s := p.bytes) member
  rw [← components_of_absolute absolute] at folded normalized
  refine ⟨names, entries, folded, normalized.trans (if_congr ?_ rfl rfl)⟩
  rw [Climbs, components_of_absolute absolute, surfaces_root_cons]

theorem foldedTwice {p : Path} (absolute : p.isAbsolute = true) :
    FoldedTwice p (ofComponents (foldComponents p.components)) := by
  obtain ⟨names, entries, folded, normalized⟩ := names_of_absolute absolute
  have solid : ∀ c ∈ names, c.Plain := fun c member => (entries c member).1
  have reportedComponents : (ofComponents (foldComponents p.components)).components =
      .root :: names := by
    rw [folded, components_ofComponents (.absolute solid)]
  have own : p.normalize.components = if p.Climbs then names else .root :: names := by
    rw [normalize, normalized]
    split
    · exact components_ofComponents (.relative solid)
    · exact components_ofComponents (.absolute solid)
  have dotless : ∀ c ∈ p.normalize.components, c ≠ .here ∧ c ≠ .up := by
    intro c member
    rw [own] at member
    split at member
    · exact (entries c member).dotless
    · rcases List.mem_cons.mp member with rfl | inside
      · exact ⟨by decide, by decide⟩
      · exact (entries c inside).dotless
  have rootFirst : p.normalize.components.head? = some .root ↔ ¬ p.Climbs := by
    rw [own]
    split
    · rename_i above
      refine iff_of_false (fun front => ?_) (not_not_intro above)
      exact (solid _ (List.mem_of_mem_head? front)).ne_root rfl
    · rename_i below
      exact iff_of_true rfl below
  constructor
  case rooted => rw [isAbsolute_iff_head?, reportedComponents, List.head?_cons]
  case agree =>
    constructor
    · intro same
      rw [← rootFirst, same, reportedComponents, List.head?_cons]
    · intro below
      rw [own, if_neg below, reportedComponents]
  case rootless =>
    intro above
    rw [own, if_pos above, reportedComponents, List.tail_cons]
  case absolute => rw [isAbsolute_iff_head?, rootFirst]
  case dotless => exact dotless
  case stable =>
    rw [normalize, normalizeComponents_of_folded dotless, own, normalize, normalized]

theorem reported_of_plain {file : String} (plain : '\\' ∉ file.toList) :
    reported file.toList = ofComponents (foldComponents (ofString file).components) := by
  rw [reported, separatorByte_encode plain]
  rfl

end Path

def Build.Command.lastArguments (c : Build.Command) : List (Option (List UInt8)) :=
  c.steps.map fun step => step.args.getLast?

/-- The two foldings of an absolute path agree, and the root, the document and the assembler's file
made from it are absolute, exactly when the path does not climb above its root. Above it the
workspace's own folding loses the root. -/
theorem folded_absolute_unless_climbing {file : String}
    (absolute : (Path.ofString file).isAbsolute = true) (plain : '\\' ∉ file.toList) :
    Path.FoldedTwice (.ofString file) (Path.reported file.toList) ∧
      (∀ settings : Settings, (Workspace.ofRoot (.ofString file) settings).root.isAbsolute = true ↔
        ¬ (Path.ofString file).Climbs) ∧
      (∀ root : Path, (DocumentRef.ofPath root (.ofString file)).absolute.isAbsolute = true ↔
        ¬ (Path.ofString file).Climbs) ∧
      ∀ (workspace : Workspace) (pathExists : Path → Bool),
        workspace.buildMode pathExists = .singleFile →
        ∃ argument : Path,
          (Build.Command.select workspace pathExists
            (.ofPath workspace.root (.ofString file))).lastArguments = [some argument.bytes] ∧
          (argument.isAbsolute = true ↔ ¬ (Path.ofString file).Climbs) := by
  have twice : Path.FoldedTwice (.ofString file) (Path.reported file.toList) := by
    rw [Path.reported_of_plain plain]
    exact Path.foldedTwice absolute
  refine ⟨twice, fun _ => twice.absolute, fun _ => twice.absolute, fun workspace pathExists alone =>
    ⟨(Path.ofString file).normalize, ?_, twice.absolute⟩⟩
  simp [Build.Command.lastArguments, Build.Command.select, alone, Build.Command.stepsFor,
    DocumentRef.ofPath]

theorem folded_below_the_root :
    (Path.ofString "/w/./a/../b.asm").normalize.components =
        (Path.reported "/w/./a/../b.asm".toList).components ∧
      (Path.ofString "/w/./a/../b.asm").normalize.isAbsolute = true := by
  have twice := (@folded_absolute_unless_climbing "/w/./a/../b.asm" (by decide) (by decide)).1
  exact ⟨twice.agree.mpr (by decide), twice.absolute.mpr (by decide)⟩

/-- The file that the assembler is given for an absolute path above the root reads as an option. -/
theorem option_above_the_root :
    (Path.ofString "/../-o").isAbsolute = true ∧
      (Path.ofString "/../-o").normalize.components ≠ (Path.reported "/../-o".toList).components ∧
      (Build.Command.select (.ofRoot (.ofString "/w") Settings.default) (fun _ => false)
          (.ofPath (.ofString "/w") (.ofString "/../-o"))).lastArguments =
        [some (Text.bytesOf "-o")] := by
  decide

end AsmDiagnostics
