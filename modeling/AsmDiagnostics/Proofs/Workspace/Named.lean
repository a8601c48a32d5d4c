import AsmDiagnostics.Proofs.Path.Components
import AsmDiagnostics.Proofs.Report.Stitching
import AsmDiagnostics.Workspace

/-!
# Reports that name a document

A document below the workspace root is named by any end of its relative path and by its whole path,
and by nothing else. The reports by the whole path are what the relative path alone does not give; a
document outside the root has no such reports, since there the relative path is the whole one. Which
document the reports are read for has no influence on what the reports are.
-/

namespace AsmDiagnostics

/-- The file of a report by an absolute path is not empty. -/
theorem Report.concerns_of_absolute (accepts : Path → Bool) {r : Report}
    (absolute : (Path.reported r.file).isAbsolute = true) :
    r.concerns accepts = accepts (Path.reported r.file) := by
  cases bytes : (Path.reported r.file).bytes with
  | nil =>
      rw [Path.isAbsolute, bytes] at absolute
      cases absolute
  | cons b rest =>
      rw [Bool.eq_iff_iff, concerns_eq_true_iff, and_iff_right]
      rw [bytes]
      exact List.cons_ne_nil b rest

namespace DocumentRef

/-- A report names a document by its whole path, which is not its relative path. -/
def NamedWhole (d : DocumentRef) (r : Report) : Prop :=
  (Path.reported r.file).isAbsolute = true ∧
    (Path.reported r.file).components = d.absolute.components ∧
    d.relative.components ≠ d.absolute.components

instance (d : DocumentRef) (r : Report) : Decidable (d.NamedWhole r) :=
  inferInstanceAs (Decidable (_ ∧ _ ∧ _))

/-- The relative path is the whole one, or it is what is left behind a folder and has no root. -/
theorem relative_cases (root path : Path) :
    (ofPath root path).relative.components = (ofPath root path).absolute.components ∨
      (ofPath root path).relative.isAbsolute = false := by
  cases below : root.below? path.normalize with
  | none =>
      left
      simp only [ofPath, below, Option.getD_none]
  | some inner =>
      obtain ⟨rest, stripped, rfl⟩ := Option.map_eq_some_iff.mp below
      have parts := Path.eq_append_of_stripFront stripped
      simp only [ofPath, below, Option.getD_some]
      cases folder : root.components with
      | nil =>
          rw [folder, List.nil_append] at parts
          left
          rw [← parts, Path.components_ofComponents (Path.components_spelled _)]
      | cons c front =>
          have spelled := Path.components_spelled path.normalize
          rw [parts, folder, List.cons_append] at spelled
          have plain : ∀ d ∈ rest, d.Plain :=
            fun d member => spelled.tail_plain d (List.mem_append_right front member)
          right
          rw [Bool.eq_false_iff, Ne, Path.isAbsolute_iff_head?,
            Path.components_ofComponents (.relative plain)]
          exact fun first => (plain _ (List.mem_of_mem_head? first)).ne_root rfl

theorem relative_of_outside {root path : Path}
    (outside : ¬ root.components <+: path.normalize.components) :
    (ofPath root path).relative = (ofPath root path).absolute := by
  have nothing : Path.stripFront root.components path.normalize.components = none := by
    rw [Option.eq_none_iff_forall_ne_some]
    exact fun rest stripped =>
      outside ⟨rest, (Path.eq_append_of_stripFront stripped).symm⟩
  simp only [ofPath, Path.below?, nothing, Option.map_none, Option.getD_none]

/-- Where the relative path is the whole one, an end of it is all that names the document. -/
theorem isNamed_of_relative_whole {d : DocumentRef}
    (whole : d.relative.components = d.absolute.components) (reported : Path) :
    d.isNamed reported = d.relative.endsWith reported := by
  unfold isNamed
  split
  · rename_i absolute
    rw [Bool.eq_iff_iff, decide_eq_true_iff, Path.endsWith_of_absolute absolute, whole]
  · rfl

/-- An end of a relative path that has no root names no root either. -/
theorem relative_of_endsWith {d : DocumentRef} (rootless : d.relative.isAbsolute = false)
    {reported : Path} (ends : d.relative.endsWith reported = true) :
    reported.isAbsolute = false := by
  rw [Bool.eq_false_iff]
  intro absolute
  have same := (Path.endsWith_of_absolute absolute).mp ends
  rw [Path.isAbsolute_iff_head?, same, ← Path.isAbsolute_iff_head?, rootless] at absolute
  exact Bool.false_ne_true absolute

section OfPath

variable (root path : Path) (r : Report)

theorem not_endsWith_of_namedWhole (h : (ofPath root path).NamedWhole r) :
    ¬ (ofPath root path).relative.endsWith (Path.reported r.file) = true := by
  obtain ⟨absolute, -, other⟩ := h
  have rootless := (relative_cases root path).resolve_left other
  intro ends
  exact Bool.false_ne_true ((relative_of_endsWith rootless ends).symm.trans absolute)

/-- A document is named by the ends of its relative path, and by its whole path. -/
theorem isNamed_iff :
    (ofPath root path).isNamed (Path.reported r.file) = true ↔
      (ofPath root path).relative.endsWith (Path.reported r.file) = true ∨
        (ofPath root path).NamedWhole r := by
  by_cases whole : (ofPath root path).relative.components = (ofPath root path).absolute.components
  · rw [isNamed_of_relative_whole whole]
    exact ⟨.inl, fun h => h.resolve_right fun named => named.2.2 whole⟩
  · have rootless := (relative_cases root path).resolve_left whole
    unfold isNamed
    split
    · rename_i absolute
      rw [decide_eq_true_iff]
      constructor
      · exact fun same => .inr ⟨absolute, same, whole⟩
      · rintro (ends | named)
        · exact absurd ((relative_of_endsWith rootless ends).symm.trans absolute) Bool.false_ne_true
        · exact named.2.1
    · rename_i relative
      exact ⟨.inl, fun h => h.resolve_right fun named => relative named.1⟩

theorem concerns_isNamed_iff :
    r.concerns (ofPath root path).isNamed = true ↔
      r.concerns (ofPath root path).relative.endsWith = true ∨ (ofPath root path).NamedWhole r := by
  constructor
  · intro kept
    obtain ⟨solid, named⟩ := (r.concerns_eq_true_iff _).mp kept
    refine ((isNamed_iff root path r).mp named).imp_left fun ends => ?_
    exact (r.concerns_eq_true_iff _).mpr ⟨solid, ends⟩
  · rintro (kept | named)
    · obtain ⟨solid, ends⟩ := (r.concerns_eq_true_iff _).mp kept
      exact (r.concerns_eq_true_iff _).mpr ⟨solid, (isNamed_iff root path r).mpr (.inl ends)⟩
    · rw [Report.concerns_of_absolute _ named.1]
      exact (isNamed_iff root path r).mpr (.inr named)

/-- The reports that name the document other than by its whole path are those by an end of its
relative path. -/
theorem besides_whole_eq :
    (!decide ((ofPath root path).NamedWhole r) && r.concerns (ofPath root path).isNamed) =
      r.concerns (ofPath root path).relative.endsWith := by
  rw [Bool.eq_iff_iff, Bool.and_eq_true, Bool.not_eq_true', decide_eq_false_iff_not,
    concerns_isNamed_iff]
  constructor
  · rintro ⟨other, ends | named⟩
    · exact ends
    · exact absurd named other
  · intro ends
    have last := (r.concerns_eq_true_iff _).mp ends
    exact ⟨fun named => not_endsWith_of_namedWhole root path r named last.2, .inl ends⟩

theorem whole_eq :
    (decide ((ofPath root path).NamedWhole r) && r.concerns (ofPath root path).isNamed) =
      decide ((ofPath root path).NamedWhole r) := by
  rw [Bool.eq_iff_iff, Bool.and_eq_true, decide_eq_true_iff, concerns_isNamed_iff]
  exact ⟨And.left, fun named => ⟨named, .inr named⟩⟩

end OfPath

/-- The diagnostics of a document, compared with those of its relative path. -/
structure Extends (d : DocumentRef) (output : String) : Prop where
  fewer : (Report.diagnosticsAt d.relative output).Sublist (d.diagnostics output)
  /-- Of the reports that are kept for the document, the relative path keeps all but those by the
  whole path; and no report by the whole path is left out. -/
  added : ∃ kept : List Report, kept.Sublist (Report.ofOutput output.toList) ∧
    d.diagnostics output = kept.map Report.diagnostic ∧
    Report.diagnosticsAt d.relative output =
      (kept.filter fun r => !decide (d.NamedWhole r)).map Report.diagnostic ∧
    (kept.filter fun r => decide (d.NamedWhole r)) =
      (Report.ofOutput output.toList).filter fun r => decide (d.NamedWhole r)
  same : d.relative.components = d.absolute.components →
    d.diagnostics output = Report.diagnosticsAt d.relative output

theorem ofPath_extends (root path : Path) (output : String) :
    (ofPath root path).Extends output := by
  have others : Report.diagnosticsAt (ofPath root path).relative output =
      (((Report.ofOutput output.toList).filter (Report.concerns (ofPath root path).isNamed)).filter
        fun r => !decide ((ofPath root path).NamedWhole r)).map Report.diagnostic := by
    unfold Report.diagnosticsAt Report.diagnosticsFor
    simp only [List.filter_filter, besides_whole_eq]
  constructor
  case fewer =>
    rw [others]
    exact List.filter_sublist.map Report.diagnostic
  case added =>
    refine ⟨_, List.filter_sublist, rfl, others, ?_⟩
    simp only [List.filter_filter, whole_eq]
  case same =>
    intro whole
    have named : (ofPath root path).isNamed = (ofPath root path).relative.endsWith :=
      funext (isNamed_of_relative_whole whole)
    unfold diagnostics Report.diagnosticsAt
    rw [named]

end DocumentRef

/-- The diagnostics of a document are those of its relative path and those of the reports by its
whole path, which are more only when the document lies within the root. For whichever document an
output is read, its diagnostics are taken from the same reports: one for each line that is not
consumed and announces one. -/
theorem whole_path_adds_to_relative (root path : Path) (output : String) :
    (DocumentRef.ofPath root path).Extends output ∧
      (¬ root.components <+: path.normalize.components →
        (DocumentRef.ofPath root path).relative = (DocumentRef.ofPath root path).absolute) ∧
      ∃ found : List (Nat × Report), Scanned (Report.solidLines output.toList) 0 found ∧
        found.map Prod.snd = Report.ofOutput output.toList ∧ ∀ d : DocumentRef,
          (∃ kept : List Report, kept.Sublist (found.map Prod.snd) ∧
            d.diagnostics output = kept.map Report.diagnostic) ∧
          ∃ kept : List Report, kept.Sublist (found.map Prod.snd) ∧
            Report.diagnosticsAt d.relative output = kept.map Report.diagnostic := by
  refine ⟨DocumentRef.ofPath_extends root path output, DocumentRef.relative_of_outside, ?_⟩
  obtain ⟨found, reports, scanned⟩ :=
    ofLines_scanned (Report.solidLines output.toList) (Report.solidLines output.toList) 0 rfl id
  refine ⟨found, scanned, reports, fun d => ?_⟩
  rw [reports]
  exact ⟨⟨_, List.filter_sublist, rfl⟩, ⟨_, List.filter_sublist, rfl⟩⟩

theorem document_beside_the_root :
    ¬ (Path.ofString "/work/game").components <+:
        (Path.ofString "/work/lib/x.asm").normalize.components ∧
      (DocumentRef.ofPath (Path.ofString "/work/game") (Path.ofString "/work/lib/x.asm")).diagnostics
          "error: /work/lib/../lib/x.asm(8): whole\nerror: x.asm(9): end\n" =
        Report.diagnosticsAt (Path.ofString "/work/lib/x.asm")
          "error: /work/lib/../lib/x.asm(8): whole\nerror: x.asm(9): end\n" := by
  have outside : ¬ (Path.ofString "/work/game").components <+:
      (Path.ofString "/work/lib/x.asm").normalize.components := by decide
  obtain ⟨extended, relative, -⟩ :=
    whole_path_adds_to_relative (Path.ofString "/work/game") (Path.ofString "/work/lib/x.asm")
      "error: /work/lib/../lib/x.asm(8): whole\nerror: x.asm(9): end\n"
  refine ⟨outside, ?_⟩
  rw [extended.same (congrArg Path.components (relative outside)), relative outside]
  rfl

/-- Within the root a report by the whole path is one that the relative path does not give. -/
example : (DocumentRef.ofPath (Path.ofString "/work/game")
    (Path.ofString "/work/game/src/main.asm")).NamedWhole
      ⟨.error, "/work/game/./src/main.asm".toList, 8, "whole".toList⟩ := by
  decide

end AsmDiagnostics
