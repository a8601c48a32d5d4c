import AsmDiagnostics.Proofs.Path.Reported
import AsmDiagnostics.Workspace
import Mathlib.Logic.Relation

/-!
# Spellings of a reported file

A reported file can be folded piece by piece: what is folded of its front stands for the front. So
nothing but the folded path tells one spelling of a file from another, be it in the kind or number of
the separators, by single dots, or by names that two dots take away again.
-/

namespace AsmDiagnostics

namespace Path

/-! ## Piece by piece -/

/-- What is folded of the first components stands for them. -/
theorem foldComponents_append_congr {front other : List Component}
    (same : foldComponents front = foldComponents other) (back : List Component) :
    foldComponents (front ++ back) = foldComponents (other ++ back) := by
  rw [foldComponents_append, foldComponents_append, same]

theorem reported_of_fold {s t : List Char}
    (absolute : (native s).isAbsolute = (native t).isAbsolute)
    (same : ∀ first, foldComponents (first ++ (native s).inner) =
      foldComponents (first ++ (native t).inner)) : reported s = reported t := by
  rw [reported_eq, reported_eq, foldComponents_components, foldComponents_components, start, start,
    absolute, same]

theorem reported_of_inner {s t : List Char}
    (absolute : (native s).isAbsolute = (native t).isAbsolute)
    (same : (native s).inner = (native t).inner) : reported s = reported t :=
  reported_of_fold absolute fun _ => by rw [same]

section Joined

variable {a b joined : List Char} (flush : b.head?.any isSeparator = false)
  (own : Text.encode joined = (join ⟨Text.encode a⟩ ⟨Text.encode b⟩).bytes)

include flush

/-- A text that starts with no separator is a relative path. -/
theorem isAbsolute_of_flush : isAbsolute ⟨Text.encode b⟩ = false := by
  have relative := (isAbsolute_native b).trans flush
  cases bytes : Text.encode b with
  | nil => rfl
  | cons first rest =>
      rw [native, bytes] at relative
      rw [Bool.eq_false_iff]
      intro absolute
      have cut : first = slash := by simpa [isAbsolute] using absolute
      rw [cut] at relative
      cases relative

theorem exists_text_of_join :
    ∃ text, Text.encode text = (join ⟨Text.encode a⟩ ⟨Text.encode b⟩).bytes := by
  unfold join
  rw [if_neg (Bool.eq_false_iff.mp (isAbsolute_of_flush flush))]
  split
  · exact ⟨a ++ b, Text.encode_append a b⟩
  · exact ⟨a ++ '/' :: b, Text.encode_append a ('/' :: b)⟩

include own

/-- The components of a joined text are those of its two parts. -/
theorem foldComponents_joined : foldComponents (native joined).components =
    foldComponents ((native a).start ++ (native a).inner ++ (native b).inner) := by
  have relative := isAbsolute_of_flush flush
  have kept : separatorByte slash = slash := rfl
  have inside : (native joined).inner = (native a).inner ++ (native b).inner := by
    rw [native, own]
    exact inner_map_join _ relative kept
  have absolute : (native joined).isAbsolute = (native a).isAbsolute := by
    rw [native, own]
    exact isAbsolute_map_join _ relative ((isAbsolute_native b).trans flush)
  rw [foldComponents_components, start, absolute, inside, List.append_assoc]
  rfl

end Joined

/-- A text joined behind what is folded of another gives what it gives behind the other itself. -/
theorem reported_piecewise (a : List Char) {b : List Char}
    (flush : b.head?.any isSeparator = false) :
    ∃ left right, Text.encode left = ((reported a).join ⟨Text.encode b⟩).bytes ∧
      Text.encode right = (join ⟨Text.encode a⟩ ⟨Text.encode b⟩).bytes ∧
      reported left = reported right := by
  obtain ⟨text, own, -, again⟩ := reported_reported a
  have path : reported a = ⟨Text.encode text⟩ := by rw [own]
  obtain ⟨left, joinedLeft⟩ := exists_text_of_join (a := text) flush
  obtain ⟨right, joinedRight⟩ := exists_text_of_join (a := a) flush
  refine ⟨left, right, path ▸ joinedLeft, joinedRight, ?_⟩
  have fronts : foldComponents ((native text).start ++ (native text).inner) =
      foldComponents ((native a).start ++ (native a).inner) := by
    rw [← foldComponents_components, ← foldComponents_components, ← components_reported,
      ← components_reported, again]
  rw [reported_eq, reported_eq, foldComponents_joined flush joinedLeft,
    foldComponents_joined flush joinedRight, foldComponents_append_congr fronts]

/-! ## Spellings -/

/-- A component starts behind this text. -/
inductive StartsPiece : List Char → Prop where
  | nothing : StartsPiece []
  | separator (front : List Char) {c : Char} (h : isSeparator c = true) :
      StartsPiece (front ++ [c])

structure IsEntry (name : List Char) : Prop where
  solid : name ≠ []
  single : name ≠ ['.']
  double : name ≠ ['.', '.']
  clean : ∀ c ∈ name, isSeparator c = false

/-- One change in how a file is spelled. -/
inductive Respelled : List Char → List Char → Prop where
  /-- Another kind of separator. -/
  | separator {front back : List Char} {c d : Char} (own : isSeparator c = true)
      (other : isSeparator d = true) : Respelled (front ++ c :: back) (front ++ d :: back)
  /-- One separator more. -/
  | doubled {front back : List Char} {c d : Char} (own : isSeparator c = true)
      (other : isSeparator d = true) : Respelled (front ++ c :: back) (front ++ c :: d :: back)
  /-- A separator at the end. -/
  | closed {front : List Char} {c : Char} (solid : front ≠ []) (own : isSeparator c = true) :
      Respelled front (front ++ [c])
  /-- A single dot with a separator. -/
  | dot {front back : List Char} {c : Char} (starts : StartsPiece front)
      (flush : front = [] → back.head?.any isSeparator = false) (own : isSeparator c = true) :
      Respelled (front ++ back) (front ++ '.' :: c :: back)
  /-- A name and two dots that take it away. -/
  | pair {front back name : List Char} {c d : Char} (starts : StartsPiece front)
      (flush : front = [] → back.head?.any isSeparator = false) (entry : IsEntry name)
      (own : isSeparator c = true) (other : isSeparator d = true) :
      Respelled (front ++ back) (front ++ (name ++ c :: '.' :: '.' :: d :: back))

theorem inner_native_append {c : Char} (own : isSeparator c = true) (front back : List Char) :
    (native (front ++ c :: back)).inner = (native front).inner ++ (native back).inner := by
  have bytes : native (front ++ c :: back) =
      ⟨(native front).bytes ++ slash :: (native back).bytes⟩ := by
    simp only [native, Text.encode_append, Text.encode_cons, List.map_append,
      map_encodeChar_of_separator own, List.singleton_append]
  rw [bytes, inner_append]

theorem inner_native_nil : (native []).inner = [] := rfl

theorem StartsPiece.inner_append {front : List Char} (h : StartsPiece front) (back : List Char) :
    (native (front ++ back)).inner = (native front).inner ++ (native back).inner := by
  cases h with
  | nothing => rw [List.nil_append, inner_native_nil, List.nil_append]
  | separator front own =>
      rw [List.append_assoc, List.singleton_append, inner_native_append own,
        inner_native_append own, inner_native_nil, List.append_nil]

/-- A name is one component. -/
theorem IsEntry.inner {name : List Char} (h : IsEntry name) :
    (native name).inner = [.name (Text.encode name)] := by
  have plain : '\\' ∉ name := fun member => by
    have clean := h.clean _ member
    cases clean
  have cleared : slash ∉ Text.encode name := fun member => by
    have clean := h.clean '/' ((Text.mem_encode_iff (d := '/') (by decide)).mp member)
    cases clean
  have apart {other : List Char} (differ : name ≠ other) : Text.encode name ≠ Text.encode other :=
    fun same => differ (Except.ok.inj
      ((Text.decode_eq_ok_iff.mpr rfl).symm.trans (Text.decode_eq_ok_iff.mpr same.symm)))
  rw [native_of_slashed plain, Path.inner, pieces_of_clean cleared, List.filterMap_cons_some
    (b := .name (Text.encode name)), List.filterMap_nil]
  have solid : Text.encode name ≠ [] := apart h.solid
  have single : Text.encode name ≠ [0x2E] := apart h.single
  have double : Text.encode name ≠ [0x2E, 0x2E] := apart h.double
  rw [ofPiece?, if_neg solid, if_neg single, if_neg double]

/-- Two dots take the name in front of them away, whatever stands before it. -/
theorem foldComponents_append_pair (front : List Component) (bytes : List UInt8) :
    foldComponents (front ++ [.name bytes, .up]) = foldComponents front := by
  rw [foldComponents_append]
  exact List.reverse_reverse _

theorem isAbsolute_native_append {front back other : List Char}
    (same : front = [] → back.head?.any isSeparator = other.head?.any isSeparator) :
    (native (front ++ back)).isAbsolute = (native (front ++ other)).isAbsolute := by
  rw [isAbsolute_native, isAbsolute_native]
  cases front with
  | nil => exact same rfl
  | cons c front => rfl

/-- One change in the spelling does not change the folded path. -/
theorem Respelled.reported_eq {s t : List Char} (h : Respelled s t) : reported s = reported t := by
  cases h with
  | separator own other =>
      refine reported_of_inner (isAbsolute_native_append fun _ => own.trans other.symm) ?_
      rw [inner_native_append own, inner_native_append other]
  | @doubled front back c d own other =>
      refine reported_of_inner (isAbsolute_native_append fun _ => rfl) ?_
      have behind := inner_native_append other [] back
      rw [inner_native_nil, List.nil_append, List.nil_append] at behind
      rw [inner_native_append own, inner_native_append own, behind]
  | @closed _ c solid own =>
      refine reported_of_inner ?_ ?_
      · rw [← List.append_nil s, List.append_assoc]
        exact isAbsolute_native_append fun empty => absurd empty solid
      · rw [inner_native_append own, inner_native_nil, List.append_nil]
  | @dot front back c starts flush own =>
      refine reported_of_inner (isAbsolute_native_append flush) ?_
      have behind := inner_native_append own ['.'] back
      rw [show (native ['.']).inner = [] from rfl, List.nil_append, List.singleton_append] at behind
      rw [starts.inner_append, starts.inner_append, behind]
  | @pair front back name c d starts flush entry own other =>
      have named : (name ++ c :: '.' :: '.' :: d :: back).head?.any isSeparator = false := by
        obtain ⟨first, rest, rfl⟩ := List.exists_cons_of_ne_nil entry.solid
        exact entry.clean first List.mem_cons_self
      have dots : (native ('.' :: '.' :: d :: back)).inner = .up :: (native back).inner :=
        inner_native_append other ['.', '.'] back
      refine reported_of_fold
        (isAbsolute_native_append fun empty => (flush empty).trans named.symm) fun first => ?_
      rw [starts.inner_append, starts.inner_append, inner_native_append own, entry.inner, dots]
      calc foldComponents (first ++ ((native front).inner ++ (native back).inner))
          = foldComponents (first ++ (native front).inner ++ (native back).inner) := by
            rw [List.append_assoc]
        _ = foldComponents (first ++ (native front).inner ++
              [.name (Text.encode name), .up] ++ (native back).inner) :=
            foldComponents_append_congr (foldComponents_append_pair _ _).symm _
        _ = foldComponents (first ++ ((native front).inner ++
              ([.name (Text.encode name)] ++ .up :: (native back).inner))) := by
            simp only [List.append_assoc, List.cons_append, List.nil_append]

theorem reported_of_respellings {s t : List Char} (h : Relation.EqvGen Respelled s t) :
    reported s = reported t := by
  induction h with
  | rel s t change => exact change.reported_eq
  | refl s => rfl
  | symm s t _ ih => exact ih.symm
  | trans s t u _ _ ih ih' => exact ih.trans ih'

theorem any_isSeparator_iff {file : List Char} : file.head?.any isSeparator = true ↔
    file.head? = some '/' ∨ file.head? = some '\\' := by
  cases file with
  | nil => simp
  | cons c rest => simp [isSeparator]

/-- The form of the path that a reported file is folded to. -/
structure Canonical (file : List Char) : Prop where
  /-- There are no single dots, and two dots only in front of a relative path. -/
  folded : Folded (reported file).components
  absolute_iff : (reported file).isAbsolute = true ↔
    file.head? = some '/' ∨ file.head? = some '\\'
  fixed : ∃ text, Text.encode text = (reported file).bytes ∧ reported text = reported file

theorem canonical (file : List Char) : Canonical file := by
  constructor
  case folded => exact folded_reported file
  case absolute_iff =>
    rw [isAbsolute_reported, isAbsolute_native, any_isSeparator_iff]
  case fixed =>
    obtain ⟨text, own, -, again⟩ := reported_reported file
    exact ⟨text, own, again⟩

end Path

/-- The folded form of a reported file has no dots but those that lead above its start, is absolute
when the file starts with either kind of slash, and is folded to itself. Another text may be joined
behind the file before or after it is folded. Files that differ in the kind and number of their
separators, by single dots or by names that two dots take away have the same folded form, and a report
of the one is accepted wherever a report of the other is. -/
theorem folding_is_canonical :
    (∀ file : List Char, Path.Canonical file) ∧
      (∀ a b : List Char, b.head? ≠ some '/' → b.head? ≠ some '\\' → ∃ left right,
        Text.encode left = ((Path.reported a).join ⟨Text.encode b⟩).bytes ∧
        Text.encode right = (Path.join ⟨Text.encode a⟩ ⟨Text.encode b⟩).bytes ∧
        Path.reported left = Path.reported right) ∧
      ∀ s t : List Char, Relation.EqvGen Path.Respelled s t → Path.reported s = Path.reported t ∧
        ∀ (accepts : Path → Bool) (r : Report),
          { r with file := s }.concerns accepts = { r with file := t }.concerns accepts := by
  refine ⟨Path.canonical, fun a b slash back => Path.reported_piecewise a ?_, fun s t respelled => ?_⟩
  · rw [Bool.eq_false_iff, Ne, Path.any_isSeparator_iff, not_or]
    exact ⟨slash, back⟩
  · have same := Path.reported_of_respellings respelled
    refine ⟨same, fun accepts r => ?_⟩
    unfold Report.concerns Report.path
    rw [same]

/-- A file with a dot in front, two separators in a row and a way there and back is accepted like the
file itself. -/
theorem detour_accepted :
    Relation.EqvGen Path.Respelled "src/main.asm".toList ".\\src//old\\../main.asm".toList ∧
      (∃ left right,
        Text.encode left = ((Path.reported "..\\x/..".toList).join ⟨Text.bytesOf "../a"⟩).bytes ∧
        Text.encode right =
          (Path.join ⟨Text.bytesOf "..\\x/.."⟩ ⟨Text.bytesOf "../a"⟩).bytes ∧
        Path.reported left = Path.reported right) ∧
      let d := DocumentRef.ofPath (Path.ofString "/work") (Path.ofString "/work/src/main.asm")
      Report.concerns d.isNamed ⟨.error, ".\\src//old\\../main.asm".toList, 3, []⟩ = true := by
  have dotted : Path.Respelled "src/main.asm".toList ".\\src/main.asm".toList :=
    @Path.Respelled.dot [] "src/main.asm".toList '\\' .nothing (fun _ => by decide) (by decide)
  have detour : Path.Respelled ".\\src/main.asm".toList ".\\src/old\\../main.asm".toList :=
    @Path.Respelled.pair ".\\src/".toList "main.asm".toList "old".toList '\\' '/'
      (@Path.StartsPiece.separator ".\\src".toList '/' (by decide)) (fun _ => by decide)
      ⟨by decide, by decide, by decide, by simp [Path.isSeparator]⟩ (by decide) (by decide)
  have twice : Path.Respelled ".\\src/old\\../main.asm".toList
      ".\\src//old\\../main.asm".toList :=
    @Path.Respelled.doubled ".\\src".toList "old\\../main.asm".toList '/' '/' (by decide) (by decide)
  have respelled := ((Relation.EqvGen.rel _ _ dotted).trans _ _ _ (.rel _ _ detour)).trans _ _ _
    (.rel _ _ twice)
  obtain ⟨-, piecewise, spellings⟩ := folding_is_canonical
  refine ⟨respelled, piecewise _ _ (by decide) (by decide), ?_⟩
  intro d
  have accepted := (spellings _ _ respelled).2 d.isNamed ⟨.error, [], 3, []⟩
  exact accepted.symm.trans (by decide)

end AsmDiagnostics
