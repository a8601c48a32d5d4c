import AsmDiagnostics.Proofs.Path.Folding
import AsmDiagnostics.Proofs.Path.Joining
import AsmDiagnostics.Proofs.Workspace.Named

/-!
# Relative and whole paths of documents

The relative path of a document is one below the workspace root exactly when the components of the
root are the first ones of the document's own. Joined to the root it is the whole path again, so that
different documents have different relative paths. A folder whose name only starts like that of the
root is outside.
-/

namespace AsmDiagnostics

theorem Path.normalize_eq_ofComponents (p : Path) : p.normalize = ofComponents p.normalize.components := by
  rw [components_normalize]
  rfl

theorem Path.normalize_dotless {p : Path} {c : Component} (member : c ∈ p.normalize.components) :
    c ≠ .here ∧ c ≠ .up := by
  rw [components_normalize] at member
  exact (mem_normalizeComponents member).2

namespace DocumentRef

variable {root path : Path}

/-- Behind the root there is neither a root nor a dot. -/
theorem plain_behind_root (rooted : root.isAbsolute = true) {p : Path} {rest : List Path.Component}
    (whole : p.components = root.components ++ rest) : ∀ c ∈ rest, c.Plain := by
  have spelled := Path.components_spelled p
  rw [whole, Path.components_of_absolute rooted, List.cons_append] at spelled
  exact fun c member => spelled.tail_plain c (List.mem_append_right _ member)

theorem relative_of_inside {rest : List Path.Component}
    (whole : path.normalize.components = root.components ++ rest) :
    (ofPath root path).relative = Path.ofComponents rest := by
  simp only [ofPath, Path.below?, whole, Path.stripFront_append, Option.map_some, Option.getD_some]

/-- The text of the relative path is made of its components. -/
theorem relative_eq_ofComponents (rooted : root.isAbsolute = true) :
    (ofPath root path).relative = Path.ofComponents (ofPath root path).relative.components := by
  by_cases inside : root.components <+: path.normalize.components
  · obtain ⟨rest, whole⟩ := inside
    rw [relative_of_inside whole.symm,
      Path.components_ofComponents (.relative (plain_behind_root rooted whole.symm))]
  · rw [relative_of_outside inside]
    exact path.normalize_eq_ofComponents

/-- How the relative path of a document goes with the root and the whole path. -/
structure Placed (root : Path) (d : DocumentRef) : Prop where
  rejoined : (root.join d.relative).components = d.absolute.components
  relative_iff : d.relative.isAbsolute = false ↔ root.components <+: d.absolute.components
  dotless : d.relative.isAbsolute = false →
    ∀ c ∈ d.relative.components, c ≠ .root ∧ c ≠ .here ∧ c ≠ .up
  outside : ¬ root.components <+: d.absolute.components → d.relative = d.absolute

theorem placed_of_inside (rooted : root.isAbsolute = true) {rest : List Path.Component}
    (whole : path.normalize.components = root.components ++ rest) :
    Placed root (ofPath root path) := by
  have plain := plain_behind_root rooted whole
  have own : (ofPath root path).relative.components = rest := by
    rw [relative_of_inside whole, Path.components_ofComponents (.relative plain)]
  have relative : (ofPath root path).relative.isAbsolute = false := by
    rw [Bool.eq_false_iff, Ne, Path.isAbsolute_iff_head?, own]
    exact fun first => (plain _ (List.mem_of_mem_head? first)).ne_root rfl
  have inside : root.components <+: (ofPath root path).absolute.components := ⟨rest, whole.symm⟩
  constructor
  case rejoined =>
    rw [Path.components_join rooted relative, Path.inner_of_plain (own ▸ plain), own]
    exact whole.symm
  case relative_iff => exact iff_of_true relative inside
  case dotless =>
    intro _ c member
    rw [own] at member
    refine ⟨(plain c member).ne_root, path.normalize_dotless ?_⟩
    rw [whole]
    exact List.mem_append_right _ member
  case outside => exact fun other => absurd inside other

theorem placed_of_outside (absolute : path.normalize.isAbsolute = true)
    (outside : ¬ root.components <+: path.normalize.components) :
    Placed root (ofPath root path) := by
  have same := relative_of_outside outside
  have whole : (ofPath root path).relative.isAbsolute = true := same ▸ absolute
  have other : ¬ (ofPath root path).relative.isAbsolute = false := Bool.not_eq_false _ ▸ whole
  constructor
  case rejoined => rw [Path.join, if_pos whole, same]
  case relative_iff => exact iff_of_false other outside
  case dotless => exact fun relative => absurd relative other
  case outside => exact fun _ => same

/-- The relative path of a document, joined to an absolute root, has the components of the whole
path. It is relative and free of dots when the document lies within the root, and otherwise it is the
whole path. Documents with the same relative path are the same. -/
theorem relative_path_rejoins_root (rooted : root.isAbsolute = true)
    (absolute : path.normalize.isAbsolute = true) :
    (ofPath root path).absolute = path.normalize ∧ Placed root (ofPath root path) ∧
      ∀ other : Path, other.normalize.isAbsolute = true →
        (ofPath root other).relative.components = (ofPath root path).relative.components →
          ofPath root other = ofPath root path := by
  have placed {p : Path} (whole : p.normalize.isAbsolute = true) : Placed root (ofPath root p) := by
    by_cases inside : root.components <+: p.normalize.components
    · obtain ⟨rest, cut⟩ := inside
      exact placed_of_inside rooted cut.symm
    · exact placed_of_outside whole inside
  refine ⟨rfl, placed absolute, fun other whole same => ?_⟩
  have relatives : (ofPath root other).relative = (ofPath root path).relative := by
    rw [relative_eq_ofComponents rooted, same, ← relative_eq_ofComponents rooted]
  have absolutes : other.normalize = path.normalize := by
    have joined := (placed whole).rejoined
    rw [relatives, (placed absolute).rejoined] at joined
    rw [other.normalize_eq_ofComponents, path.normalize_eq_ofComponents]
    exact congrArg Path.ofComponents joined.symm
  unfold ofPath
  rw [absolutes]

/-- The name of the folder starts like that of the root. -/
theorem sibling_keeps_whole_path :
    let root := Path.ofString "/work/game"
    let path := Path.ofString "/work/game2/./src/main.asm"
    let other := Path.ofString "/work/game/../game2//src/main.asm"
    root.isAbsolute = true ∧ path.normalize.isAbsolute = true ∧
      other.normalize.isAbsolute = true ∧
      (ofPath root other).relative.components = (ofPath root path).relative.components ∧
      (ofPath root path).relative = Path.ofString "/work/game2/src/main.asm" ∧
      ofPath root other = ofPath root path := by
  intro root path other
  have rooted : root.isAbsolute = true := by decide
  have absolute : path.normalize.isAbsolute = true := by decide
  have whole : other.normalize.isAbsolute = true := by decide
  have same : (ofPath root other).relative.components = (ofPath root path).relative.components := by
    decide
  obtain ⟨-, placed, only⟩ := relative_path_rejoins_root rooted absolute
  exact ⟨rooted, absolute, whole, same, (placed.outside (by decide)).trans (by decide),
    only other whole same⟩

/-- The root itself is a document with an empty relative path. -/
example : (ofPath (Path.ofString "/") (Path.ofString "/a/..")).relative = .empty := by decide

end DocumentRef

end AsmDiagnostics
