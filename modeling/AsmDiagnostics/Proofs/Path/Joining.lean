import AsmDiagnostics.Proofs.Path.Components

/-!
# Joined paths

One path below another has the components of the first and behind them those of the second, without
the dot that it may start with. The text of the first path may end in a slash or not, and it may be
empty.
-/

namespace AsmDiagnostics.Path

theorem pieces_append (front rest : List UInt8) :
    pieces (front ++ slash :: rest) = pieces front ++ pieces rest := by
  induction front with
  | nil => exact pieces_slash rest
  | cons b front ih =>
      by_cases cut : b = slash
      · rw [cut, List.cons_append, pieces_slash, pieces_slash, ih, List.cons_append]
      · simp only [List.cons_append, pieces, if_neg cut, ih]
        cases split : pieces front with
        | nil => exact absurd split (pieces_ne_nil front)
        | cons first others => rfl

/-- The components of a path, without its root and without the dot in front. -/
def inner (p : Path) : List Component := (pieces p.bytes).filterMap ofPiece?

theorem inner_plain (p : Path) : ∀ c ∈ p.inner, c.Plain := fun _ => plain_of_mem_filterMap

theorem inner_append (front rest : List UInt8) :
    inner ⟨front ++ slash :: rest⟩ = inner ⟨front⟩ ++ inner ⟨rest⟩ := by
  simp only [inner, pieces_append, List.filterMap_append]

theorem inner_append_slash (front : List UInt8) : inner ⟨front ++ [slash]⟩ = inner ⟨front⟩ := by
  rw [inner_append, show inner ⟨[]⟩ = [] from rfl, List.append_nil]

theorem inner_of_plain {p : Path} (plain : ∀ c ∈ p.components, c.Plain) :
    p.inner = p.components := by
  cases absolute : p.isAbsolute with
  | true =>
      rw [components_of_absolute absolute] at plain
      exact absurd rfl (plain .root List.mem_cons_self).ne_root
  | false =>
      rw [components_of_relative absolute] at plain ⊢
      split at plain
      · exact absurd rfl (plain .here List.mem_cons_self).ne_here
      · rename_i dotless
        rw [if_neg dotless]
        rfl

/-- The bytes of one path below another, which is relative. -/
theorem join_cases (base : Path) {other : Path} (relative : other.isAbsolute = false) :
    base.bytes = [] ∧ base.join other = other ∨
      ∃ front, (base.bytes = front ∧ front ≠ [] ∨ base.bytes = front ++ [slash]) ∧
        base.join other = ⟨front ++ slash :: other.bytes⟩ := by
  unfold join
  rw [if_neg (Bool.eq_false_iff.mp relative)]
  by_cases empty : base.bytes = []
  · rw [if_pos (.inl empty), empty]
    exact .inl ⟨rfl, rfl⟩
  · right
    by_cases ends : base.bytes.getLast? = some slash
    · obtain ⟨front, whole⟩ := List.getLast?_eq_some_iff.mp ends
      refine ⟨front, .inr whole, ?_⟩
      rw [if_pos (.inr ends), whole, List.append_assoc, List.singleton_append]
    · exact ⟨base.bytes, .inl ⟨rfl, empty⟩, if_neg (not_or.mpr ⟨empty, ends⟩)⟩

section Bytewise

/-! The slash of a join stays where it is when other bytes are exchanged. -/

variable {f : UInt8 → UInt8} (base : Path) {other : Path} (relative : other.isAbsolute = false)

include relative

theorem inner_map_join (kept : f slash = slash) : inner ⟨(base.join other).bytes.map f⟩ =
    inner ⟨base.bytes.map f⟩ ++ inner ⟨other.bytes.map f⟩ := by
  rcases join_cases base relative with ⟨empty, joined⟩ | ⟨front, ⟨whole, -⟩ | whole, joined⟩
  · rw [joined, empty]
    rfl
  · rw [joined, whole, List.map_append, List.map_cons, kept, inner_append]
  · rw [joined, whole, List.map_append, List.map_append, List.map_cons, List.map_singleton, kept,
      inner_append, inner_append_slash]

theorem isAbsolute_map_join (still : isAbsolute ⟨other.bytes.map f⟩ = false) :
    isAbsolute ⟨(base.join other).bytes.map f⟩ = isAbsolute ⟨base.bytes.map f⟩ := by
  rcases join_cases base relative with ⟨empty, joined⟩ | ⟨front, ⟨whole, solid⟩ | whole, joined⟩
  · rw [joined, empty, still]
    rfl
  · obtain ⟨b, rest, rfl⟩ := List.exists_cons_of_ne_nil solid
    rw [joined, whole]
    rfl
  · rw [joined, whole]
    cases front <;> rfl

end Bytewise

theorem components_join {base other : Path} (rooted : base.isAbsolute = true)
    (relative : other.isAbsolute = false) :
    (base.join other).components = base.components ++ other.inner := by
  have inside := inner_map_join base relative (show id slash = slash from rfl)
  have absolute := @isAbsolute_map_join id base other relative (by rwa [List.map_id])
  simp only [List.map_id] at inside absolute
  rw [components_of_absolute (absolute.trans rooted), components_of_absolute rooted, List.cons_append]
  exact congrArg _ inside

end AsmDiagnostics.Path
