import AsmDiagnostics.Path.Basic

/-!
# Paths and their components

A path has a root or a dot at most in front, and behind it two dots and names without slashes. A
list of components of this form is again what the path made of it consists of.
-/

namespace AsmDiagnostics.Path

theorem pieces_of_clean {piece : List UInt8} (clean : slash ∉ piece) : pieces piece = [piece] := by
  induction piece with
  | nil => rfl
  | cons b rest ih =>
      rw [List.mem_cons, not_or] at clean
      simp only [pieces, if_neg (Ne.symm clean.1), ih clean.2]

theorem pieces_slash (rest : List UInt8) : pieces (slash :: rest) = [] :: pieces rest := by
  simp [pieces]

theorem pieces_append_slash {piece : List UInt8} (clean : slash ∉ piece) (rest : List UInt8) :
    pieces (piece ++ slash :: rest) = piece :: pieces rest := by
  induction piece with
  | nil => exact pieces_slash rest
  | cons b others ih =>
      rw [List.mem_cons, not_or] at clean
      simp only [List.cons_append, pieces, if_neg (Ne.symm clean.1), ih clean.2]

theorem clean_of_mem_pieces {s piece : List UInt8} (member : piece ∈ pieces s) :
    slash ∉ piece := by
  induction s generalizing piece with
  | nil =>
      obtain rfl := List.mem_singleton.mp member
      exact List.not_mem_nil
  | cons b rest ih =>
      by_cases cut : b = slash
      · rw [cut, pieces_slash] at member
        rcases List.mem_cons.mp member with rfl | later
        · exact List.not_mem_nil
        · exact ih later
      · simp only [pieces, if_neg cut] at member
        cases split : pieces rest with
        | nil => exact absurd split (pieces_ne_nil rest)
        | cons first others =>
            rw [split] at ih
            simp only [split] at member
            rcases List.mem_cons.mp member with rfl | later
            · rw [List.mem_cons, not_or]
              exact ⟨Ne.symm cut, ih List.mem_cons_self⟩
            · exact ih (List.mem_cons_of_mem _ later)

theorem pieces_joinPieces {first : List UInt8} {others : List (List UInt8)}
    (clean : ∀ piece ∈ first :: others, slash ∉ piece) :
    pieces (joinPieces (first :: others)) = first :: others := by
  induction others generalizing first with
  | nil => exact pieces_of_clean (clean first List.mem_cons_self)
  | cons second others ih =>
      rw [List.forall_mem_cons] at clean
      rw [joinPieces, pieces_append_slash clean.1, ih clean.2]
      simp

namespace Component

def isName : Component → Bool
  | .name _ => true
  | _ => false

/-- A component that can stand behind the front of a path: two dots, or a name that no path spells in
another way. -/
def Plain : Component → Prop
  | .root => False
  | .here => False
  | .up => True
  | .name bytes => bytes ≠ [] ∧ bytes ≠ [0x2E] ∧ bytes ≠ [0x2E, 0x2E] ∧ slash ∉ bytes

theorem Plain.ne_root {c : Component} (plain : c.Plain) : c ≠ .root := by
  rintro rfl
  exact plain

theorem Plain.ne_here {c : Component} (plain : c.Plain) : c ≠ .here := by
  rintro rfl
  exact plain

theorem Plain.up_or_name {c : Component} (plain : c.Plain) : c = .up ∨ c.isName = true := by
  cases c with
  | root => exact plain.elim
  | here => exact plain.elim
  | up => exact .inl rfl
  | name bytes => exact .inr rfl

theorem Plain.clean {c : Component} (plain : c.Plain) : slash ∉ c.bytes := by
  cases c with
  | root => exact plain.elim
  | here => exact plain.elim
  | up => decide
  | name bytes => exact plain.2.2.2

theorem Plain.bytes_ne_nil {c : Component} (plain : c.Plain) : c.bytes ≠ [] := by
  cases c with
  | root => exact plain.elim
  | here => exact plain.elim
  | up => decide
  | name bytes => exact plain.1

theorem Plain.bytes_ne_dot {c : Component} (plain : c.Plain) : c.bytes ≠ [0x2E] := by
  cases c with
  | root => exact plain.elim
  | here => exact plain.elim
  | up => decide
  | name bytes => exact plain.2.1

theorem Plain.ofPiece? {c : Component} (plain : c.Plain) : ofPiece? c.bytes = some c := by
  cases c with
  | root => exact plain.elim
  | here => exact plain.elim
  | up => rfl
  | name bytes =>
      obtain ⟨solid, single, double, -⟩ := plain
      simp [Path.ofPiece?, Component.bytes, solid, single, double]

end Component

theorem plain_of_ofPiece? {piece : List UInt8} {c : Component} (clean : slash ∉ piece)
    (h : ofPiece? piece = some c) : c.Plain := by
  unfold ofPiece? at h
  split at h
  · simp at h
  · split at h
    · simp at h
    · split at h
      · obtain rfl := Option.some.inj h
        trivial
      · obtain rfl := Option.some.inj h
        exact ⟨‹_›, ‹_›, ‹_›, clean⟩

/-- The lists of components that paths have. -/
inductive Spelled : List Component → Prop where
  | relative {inner : List Component} (plain : ∀ c ∈ inner, c.Plain) : Spelled inner
  | dotted {inner : List Component} (plain : ∀ c ∈ inner, c.Plain) : Spelled (.here :: inner)
  | absolute {inner : List Component} (plain : ∀ c ∈ inner, c.Plain) : Spelled (.root :: inner)

theorem plain_of_mem_filterMap {s : List UInt8} {c : Component}
    (member : c ∈ (pieces s).filterMap ofPiece?) : c.Plain := by
  obtain ⟨piece, inside, stands⟩ := List.mem_filterMap.mp member
  exact plain_of_ofPiece? (clean_of_mem_pieces inside) stands

theorem components_of_absolute {p : Path} (absolute : p.isAbsolute = true) :
    p.components = .root :: (pieces p.bytes).filterMap ofPiece? := by
  simp [components, absolute]

theorem components_of_relative {p : Path} (relative : p.isAbsolute = false) :
    p.components = (if (pieces p.bytes).head? = some [0x2E] then [Component.here] else []) ++
      (pieces p.bytes).filterMap ofPiece? := by
  simp [components, relative]

theorem components_spelled (p : Path) : Spelled p.components := by
  have plain : ∀ c ∈ (pieces p.bytes).filterMap ofPiece?, c.Plain :=
    fun c member => plain_of_mem_filterMap member
  cases absolute : p.isAbsolute with
  | true =>
      rw [components_of_absolute absolute]
      exact .absolute plain
  | false =>
      rw [components_of_relative absolute]
      split
      · exact .dotted plain
      · exact .relative plain

/-- A path is absolute when its first component is the root. -/
theorem isAbsolute_iff_head? {p : Path} :
    p.isAbsolute = true ↔ p.components.head? = some .root := by
  cases absolute : p.isAbsolute with
  | true => simp [components_of_absolute absolute]
  | false =>
      rw [components_of_relative absolute]
      refine iff_of_false Bool.false_ne_true fun front => ?_
      split at front
      · simp at front
      · exact (plain_of_mem_filterMap (List.mem_of_mem_head? front)).ne_root rfl

theorem filterMap_bytes {inner : List Component} (plain : ∀ c ∈ inner, c.Plain) :
    (inner.map Component.bytes).filterMap ofPiece? = inner := by
  induction inner with
  | nil => rfl
  | cons c rest ih =>
      rw [List.forall_mem_cons] at plain
      rw [List.map_cons, List.filterMap_cons_some plain.1.ofPiece?, ih plain.2]

theorem clean_of_mem_bytes {inner : List Component} (plain : ∀ c ∈ inner, c.Plain) :
    ∀ piece ∈ inner.map Component.bytes, slash ∉ piece := by
  intro piece member
  obtain ⟨c, inside, rfl⟩ := List.mem_map.mp member
  exact (plain c inside).clean

theorem components_slash_joinPieces {inner : List Component} (plain : ∀ c ∈ inner, c.Plain) :
    components ⟨slash :: joinPieces (inner.map Component.bytes)⟩ = .root :: inner := by
  rw [components_of_absolute (by simp [isAbsolute]), pieces_slash]
  cases inner with
  | nil => rfl
  | cons first others =>
      rw [List.map_cons, pieces_joinPieces (clean_of_mem_bytes plain), ← List.map_cons]
      exact congrArg _ (filterMap_bytes plain)

theorem components_joinPieces {first : List UInt8} {others : List (List UInt8)}
    (solid : first ≠ []) (clean : ∀ piece ∈ first :: others, slash ∉ piece) :
    components ⟨joinPieces (first :: others)⟩ =
      (if first = [0x2E] then [Component.here] else []) ++
        (first :: others).filterMap ofPiece? := by
  obtain ⟨b, rest, rfl⟩ := List.exists_cons_of_ne_nil solid
  have front : (joinPieces ((b :: rest) :: others)).head? = some b := by
    cases others <;> rfl
  have relative : b ≠ slash := fun same => clean _ List.mem_cons_self (same ▸ List.mem_cons_self)
  rw [components_of_relative (by simp [isAbsolute, front, relative]), pieces_joinPieces clean]
  simp

/-- A list of components that some path has is what the path made of it consists of. -/
theorem components_ofComponents {all : List Component} (spelled : Spelled all) :
    (ofComponents all).components = all := by
  cases spelled with
  | absolute plain => exact components_slash_joinPieces plain
  | @dotted inner plain =>
      have clean : ∀ piece ∈ [0x2E] :: inner.map Component.bytes, slash ∉ piece :=
        List.forall_mem_cons.mpr ⟨by decide, clean_of_mem_bytes plain⟩
      have text : ofComponents (.here :: inner) =
          ⟨joinPieces ([0x2E] :: inner.map Component.bytes)⟩ := rfl
      rw [text, components_joinPieces (by decide) clean, if_pos rfl,
        List.filterMap_cons_none (by decide), filterMap_bytes plain, List.singleton_append]
  | relative plain =>
      cases all with
      | nil => rfl
      | cons first others =>
          have own : first.Plain := plain first List.mem_cons_self
          have text : ofComponents (first :: others) =
              ⟨joinPieces (first.bytes :: others.map Component.bytes)⟩ := by
            cases first with
            | root => exact own.elim
            | _ => rfl
          rw [text, components_joinPieces own.bytes_ne_nil (clean_of_mem_bytes plain),
            if_neg own.bytes_ne_dot, List.nil_append, ← List.map_cons]
          exact filterMap_bytes plain

/-- Behind the first component there is neither a root nor a dot. -/
theorem Spelled.tail_plain {c : Component} {rest : List Component} (h : Spelled (c :: rest)) :
    ∀ d ∈ rest, d.Plain := by
  cases h with
  | relative plain => exact fun d member => plain d (List.mem_cons_of_mem c member)
  | dotted plain => exact plain
  | absolute plain => exact plain

/-- An absolute path is the end of those paths only that have its components. -/
theorem endsWith_of_absolute {p q : Path} (absolute : q.isAbsolute = true) :
    p.endsWith q = true ↔ q.components = p.components := by
  unfold endsWith
  rw [List.isSuffixOf_iff_suffix]
  constructor
  · rintro ⟨front, whole⟩
    cases front with
    | nil => exact whole
    | cons c front =>
        have rooted : .root ∈ front ++ q.components :=
          List.mem_append_right _ (List.mem_of_mem_head? (isAbsolute_iff_head?.mp absolute))
        have spelled := components_spelled p
        rw [← whole, List.cons_append] at spelled
        exact absurd rfl (spelled.tail_plain .root rooted).ne_root
  · intro same
    refine ⟨[], ?_⟩
    rw [List.nil_append, same]

end AsmDiagnostics.Path
