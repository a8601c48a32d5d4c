import AsmDiagnostics.Path.Fold
import AsmDiagnostics.Proofs.Path.Components
import AsmDiagnostics.Proofs.Text.Utf8
import Mathlib.Data.List.Infix

/-!
# What folding makes of an absolute path

Both ways of folding keep the names that no `..` takes away. They differ in a path with more `..` up
to some place than names before it: there a reported path stays at the root, and the workspace's own
folding takes the root away as well, so that a relative path is left.
-/

namespace AsmDiagnostics.Path

/-- From so many names below the start, the components lead above the start at some place. -/
def Surfaces (depth : Nat) (all : List Component) : Prop :=
  ∃ front ∈ all.inits, depth + front.countP Component.isName < front.count .up

instance (depth : Nat) (all : List Component) : Decidable (Surfaces depth all) :=
  inferInstanceAs (Decidable (∃ front ∈ all.inits, _))

/-- The path leads above its start at some place. -/
def Climbs (p : Path) : Prop := Surfaces 0 p.components

instance (p : Path) : Decidable p.Climbs := inferInstanceAs (Decidable (Surfaces 0 _))

theorem not_surfaces_nil (depth : Nat) : ¬ Surfaces depth [] := by
  simp [Surfaces, List.inits]

theorem surfaces_root_cons {depth : Nat} {rest : List Component} :
    Surfaces depth (.root :: rest) ↔ Surfaces depth rest := by
  simp [Surfaces, Component.isName]

theorem surfaces_up_cons_zero (rest : List Component) : Surfaces 0 (.up :: rest) := by
  refine ⟨[.up], (List.mem_inits _ _).mpr ?_, by decide⟩
  exact List.prefix_append [.up] rest

theorem surfaces_up_cons_succ {depth : Nat} {rest : List Component} :
    Surfaces (depth + 1) (.up :: rest) ↔ Surfaces depth rest := by
  simp [Surfaces, Component.isName, Nat.add_right_comm]

theorem surfaces_name_cons {depth : Nat} {c : Component} {rest : List Component}
    (named : c.isName = true) : Surfaces depth (c :: rest) ↔ Surfaces (depth + 1) rest := by
  have other : c ≠ .up := by
    rintro rfl
    exact Bool.false_ne_true named
  simp [Surfaces, named, other, Nat.add_right_comm, ← Nat.add_assoc]

/-- A name that no path spells in another way. -/
def Component.Entry (c : Component) : Prop := c.Plain ∧ c.isName = true

theorem normalizeStep_name {c : Component} (named : c.isName = true) (done : List Component) :
    normalizeStep done c = c :: done := by
  cases c with
  | name bytes => rfl
  | _ => exact absurd named Bool.false_ne_true

theorem foldStep_name {c : Component} (named : c.isName = true) (done : List Component) :
    foldStep done c = c :: done := by
  cases c with
  | name bytes => rfl
  | _ => exact absurd named Bool.false_ne_true

theorem foldStep_up_name {c : Component} (named : c.isName = true) (done : List Component) :
    foldStep (c :: done) .up = done := by
  cases c with
  | name bytes => rfl
  | _ => exact absurd named Bool.false_ne_true

/-- Over the same names, with a root below them or without, both ways of folding come to the same
names; only the workspace's own way can lose the root. -/
theorem foldl_steps {inner : List Component} (plain : ∀ c ∈ inner, c.Plain)
    (names : List Component) (entries : ∀ c ∈ names, c.Entry) :
    ∃ kept : List Component, (∀ c ∈ kept, c.Entry) ∧
      inner.foldl foldStep (names ++ [.root]) = kept ++ [.root] ∧
      inner.foldl normalizeStep names = kept ∧
      inner.foldl normalizeStep (names ++ [.root]) =
        if Surfaces names.length inner then kept else kept ++ [.root] := by
  induction inner generalizing names with
  | nil => exact ⟨names, entries, rfl, rfl, (if_neg (not_surfaces_nil _)).symm⟩
  | cons c rest ih =>
      rw [List.forall_mem_cons] at plain
      simp only [List.foldl_cons]
      rcases plain.1.up_or_name with rfl | named
      · cases names with
        | nil =>
            obtain ⟨kept, solid, folded, bare, -⟩ := ih plain.2 [] entries
            exact ⟨kept, solid, folded, bare,
              bare.trans (if_pos (surfaces_up_cons_zero rest)).symm⟩
        | cons last names =>
            rw [List.forall_mem_cons] at entries
            obtain ⟨kept, solid, folded, bare, whole⟩ := ih plain.2 names entries.2
            rw [List.cons_append, foldStep_up_name entries.1.2]
            simp only [List.length_cons, surfaces_up_cons_succ]
            exact ⟨kept, solid, folded, bare, whole⟩
      · have longer : ∀ d ∈ c :: names, d.Entry :=
          List.forall_mem_cons.mpr ⟨⟨plain.1, named⟩, entries⟩
        obtain ⟨kept, solid, folded, bare, whole⟩ := ih plain.2 (c :: names) longer
        rw [foldStep_name named, normalizeStep_name named, normalizeStep_name named]
        simp only [surfaces_name_cons named]
        exact ⟨kept, solid, folded, bare, whole⟩

/-- The components of a folded absolute path: the root, which the workspace's own folding takes away
when the path climbs above it, and names. -/
theorem folded_absolute {inner : List Component} (plain : ∀ c ∈ inner, c.Plain) :
    ∃ names : List Component, (∀ c ∈ names, c.Entry) ∧
      foldComponents (.root :: inner) = .root :: names ∧
      normalizeComponents (.root :: inner) =
        if Surfaces 0 inner then names else .root :: names := by
  obtain ⟨kept, solid, folded, -, whole⟩ := foldl_steps plain [] (List.forall_mem_nil _)
  refine ⟨kept.reverse, fun c member => solid c (List.mem_reverse.mp member), ?_, ?_⟩
  · calc foldComponents (.root :: inner)
        = (inner.foldl foldStep ([] ++ [.root])).reverse := rfl
      _ = .root :: kept.reverse := by rw [folded, List.reverse_append]; rfl
  · calc normalizeComponents (.root :: inner)
        = (inner.foldl normalizeStep ([] ++ [.root])).reverse := rfl
      _ = if Surfaces 0 inner then kept.reverse else .root :: kept.reverse := by
        rw [whole]
        simp only [List.length_nil]
        split
        · rfl
        · rw [List.reverse_append]
          rfl

/-- Where nothing is to be folded, a way of folding that keeps all but dots changes nothing. -/
theorem reverse_foldl_of_folded {step : List Component → Component → List Component}
    (keeps : ∀ done c, c ≠ .here ∧ c ≠ .up → step done c = c :: done) {all : List Component}
    (folded : ∀ c ∈ all, c ≠ .here ∧ c ≠ .up) : (all.foldl step []).reverse = all := by
  induction all using List.reverseRecOn with
  | nil => rfl
  | append_singleton front last ih =>
      rw [List.forall_mem_append] at folded
      have kept := keeps (front.foldl step []) last (folded.2 last List.mem_cons_self)
      rw [List.foldl_append, List.foldl_cons, List.foldl_nil, kept, List.reverse_cons, ih folded.1]

theorem normalizeComponents_of_folded {all : List Component}
    (folded : ∀ c ∈ all, c ≠ .here ∧ c ≠ .up) : normalizeComponents all = all := by
  refine reverse_foldl_of_folded (fun done c solid => ?_) folded
  cases c with
  | here => exact absurd rfl solid.1
  | up => exact absurd rfl solid.2
  | _ => rfl

theorem foldComponents_of_folded {all : List Component}
    (folded : ∀ c ∈ all, c ≠ .here ∧ c ≠ .up) : foldComponents all = all := by
  refine reverse_foldl_of_folded (fun done c solid => ?_) folded
  cases c with
  | here => exact absurd rfl solid.1
  | up => exact absurd rfl solid.2
  | _ => rfl

/-- The workspace's own folding leaves some of the components, and no dots. -/
theorem mem_normalizeComponents {all : List Component} {c : Component}
    (member : c ∈ normalizeComponents all) : c ∈ all ∧ c ≠ .here ∧ c ≠ .up := by
  induction all using List.reverseRecOn with
  | nil => cases member
  | append_singleton front last ih =>
      rw [normalizeComponents_append, List.foldl_cons, List.foldl_nil, List.mem_reverse] at member
      rw [List.mem_append, List.mem_singleton]
      have before : c ∈ (normalizeComponents front).reverse → c ∈ front ∧ c ≠ .here ∧ c ≠ .up :=
        fun inside => ih (List.mem_reverse.mp inside)
      cases last with
      | here => exact (before member).imp_left .inl
      | up => exact (before (List.mem_of_mem_tail member)).imp_left .inl
      | _ =>
          rcases List.mem_cons.mp member with rfl | inside
          · exact ⟨.inr rfl, nofun, nofun⟩
          · exact (before inside).imp_left .inl

theorem Spelled.normalized {all : List Component} (h : Spelled all) :
    Spelled (normalizeComponents all) := by
  cases h with
  | relative plain => exact .relative fun c member => plain c (mem_normalizeComponents member).1
  | @dotted inner plain =>
      refine .relative fun c member => ?_
      obtain ⟨inside, solid, -⟩ := mem_normalizeComponents member
      exact plain c ((List.mem_cons.mp inside).resolve_left solid)
  | @absolute inner plain =>
      obtain ⟨names, entries, -, normalized⟩ := folded_absolute plain
      have solid : ∀ c ∈ names, c.Plain := fun c member => (entries c member).1
      rw [normalized]
      split
      · exact .relative solid
      · exact .absolute solid

theorem components_normalize (p : Path) :
    p.normalize.components = normalizeComponents p.components :=
  components_ofComponents (components_spelled p).normalized

theorem separatorByte_encode {file : List Char} (plain : '\\' ∉ file) :
    (Text.encode file).map separatorByte = Text.encode file := by
  have absent : (0x5C : UInt8) ∉ Text.encode file := fun member =>
    plain ((Text.mem_encode_iff (d := '\\') (by decide)).mp member)
  have kept : ∀ b ∈ Text.encode file, separatorByte b = id b := by
    intro b member
    refine if_neg fun same => absent ?_
    rwa [same] at member
  rw [List.map_congr_left kept, List.map_id]

end AsmDiagnostics.Path
