import AsmDiagnostics.Proofs.Path.Folding
import AsmDiagnostics.Proofs.Path.Joining
import AsmDiagnostics.Proofs.Text.Decoding

/-!
# The folded form of a reported path

What folding makes of a reported file: names below the root, or names behind some `..`. The folding
works on a stack, and the stack that it ends with is built up again when its own components are
folded, so that a folded path is left as it is.
-/

namespace AsmDiagnostics.Path

/-! ## The stack -/

/-- What stands on the stack of the folding, the last component first: names over the root, or names
over some `..`. -/
inductive Stacked : List Component → Prop where
  | ups (count : Nat) : Stacked (List.replicate count .up)
  | root : Stacked [.root]
  | entry {c : Component} {done : List Component} (own : c.Entry) (below : Stacked done) :
      Stacked (c :: done)

theorem foldStep_replicate (count : Nat) :
    foldStep (List.replicate count .up) .up = List.replicate (count + 1) .up := by
  cases count <;> rfl

namespace Stacked

variable {done : List Component}

theorem foldStep_up (h : Stacked done) : Stacked (foldStep done .up) := by
  cases h with
  | ups count =>
      rw [foldStep_replicate]
      exact .ups (count + 1)
  | root => exact .root
  | entry own below =>
      rw [foldStep_up_name own.2]
      exact below

/-- One component more. -/
theorem foldStep_plain (h : Stacked done) {c : Component} (plain : c.Plain) :
    Stacked (foldStep done c) := by
  rcases plain.up_or_name with rfl | named
  · exact h.foldStep_up
  · rw [foldStep_name named]
    exact .entry ⟨plain, named⟩ h

theorem foldl_plain {inner : List Component} (plain : ∀ c ∈ inner, c.Plain) (h : Stacked done) :
    Stacked (inner.foldl foldStep done) := by
  induction inner generalizing done with
  | nil => exact h
  | cons c inner ih =>
      rw [List.forall_mem_cons] at plain
      exact ih plain.2 (h.foldStep_plain plain.1)

/-- The components of a stack, folded from the bottom up, give the stack again. -/
theorem foldl_reverse (h : Stacked done) : done.reverse.foldl foldStep [] = done := by
  induction h with
  | ups count =>
      rw [List.reverse_replicate]
      induction count with
      | zero => rfl
      | succ count ih =>
          rw [List.replicate_succ', List.foldl_append, ih, List.foldl_cons, List.foldl_nil,
            foldStep_replicate, List.replicate_succ']
  | root => rfl
  | entry own below ih =>
      rw [List.reverse_cons, List.foldl_append, ih, List.foldl_cons, List.foldl_nil,
        foldStep_name own.2]

end Stacked

theorem stacked_of_spelled {all : List Component} (h : Spelled all) :
    Stacked (all.foldl foldStep []) := by
  cases h with
  | relative plain => exact (Stacked.ups 0).foldl_plain plain
  | @dotted inner plain =>
      have same : (Component.here :: inner).foldl foldStep [] = inner.foldl foldStep [] := rfl
      rw [same]
      exact (Stacked.ups 0).foldl_plain plain
  | @absolute inner plain =>
      have same : (Component.root :: inner).foldl foldStep [] = inner.foldl foldStep [.root] := rfl
      rw [same]
      exact Stacked.root.foldl_plain plain

theorem foldComponents_foldComponents {all : List Component} (h : Spelled all) :
    foldComponents (foldComponents all) = foldComponents all :=
  congrArg List.reverse (stacked_of_spelled h).foldl_reverse

/-! ## Folded components -/

/-- The components of a folded path: names below the root, or names behind some `..`. -/
inductive Folded : List Component → Prop where
  | absolute {names : List Component} (entries : ∀ c ∈ names, c.Entry) : Folded (.root :: names)
  | relative (ups : Nat) {names : List Component} (entries : ∀ c ∈ names, c.Entry) :
      Folded (List.replicate ups .up ++ names)

theorem Folded.append_entry {all : List Component} (h : Folded all) {c : Component}
    (own : c.Entry) : Folded (all ++ [c]) := by
  have longer {names : List Component} (entries : ∀ d ∈ names, d.Entry) :
      ∀ d ∈ names ++ [c], d.Entry :=
    List.forall_mem_append.mpr ⟨entries, List.forall_mem_singleton.mpr own⟩
  cases h with
  | absolute entries => exact .absolute (longer entries)
  | relative ups entries =>
      rw [List.append_assoc]
      exact .relative ups (longer entries)

theorem Stacked.folded {done : List Component} (h : Stacked done) : Folded done.reverse := by
  induction h with
  | ups count =>
      rw [List.reverse_replicate, ← List.append_nil (List.replicate count _)]
      exact .relative count (List.forall_mem_nil _)
  | root => exact .absolute (List.forall_mem_nil _)
  | entry own below ih =>
      rw [List.reverse_cons]
      exact ih.append_entry own

theorem Folded.spelled {all : List Component} (h : Folded all) : Spelled all := by
  cases h with
  | absolute entries => exact .absolute fun c member => (entries c member).1
  | relative ups entries =>
      refine .relative fun c member => ?_
      rcases List.mem_append.mp member with up | name
      · rw [List.eq_of_mem_replicate up]
        trivial
      · exact (entries c name).1

theorem folded_foldComponents {all : List Component} (h : Spelled all) :
    Folded (foldComponents all) := (stacked_of_spelled h).folded

/-- Folding leaves some of the components. -/
theorem mem_foldComponents {all : List Component} {c : Component}
    (member : c ∈ foldComponents all) : c ∈ all := by
  induction all using List.reverseRecOn with
  | nil => cases member
  | append_singleton front last ih =>
      rw [foldComponents_append, List.foldl_cons, List.foldl_nil, List.mem_reverse] at member
      rw [List.mem_append, List.mem_singleton]
      have before : c ∈ (foldComponents front).reverse → c ∈ front :=
        fun inside => ih (List.mem_reverse.mp inside)
      cases last with
      | here => exact .inl (before member)
      | up =>
          unfold foldStep at member
          dsimp only at member
          split at member
          · rename_i popped
            exact .inl (before (popped ▸ List.mem_cons_of_mem _ member))
          · exact .inl (before member)
          · exact (List.mem_cons.mp member).symm.imp_left before
      | _ => exact (List.mem_cons.mp member).symm.imp_left before

/-- Only the root and the components behind the first dot matter to the folding. -/
def start (p : Path) : List Component := if p.isAbsolute then [.root] else []

theorem foldComponents_components (p : Path) :
    foldComponents p.components = foldComponents (p.start ++ p.inner) := by
  unfold start
  cases absolute : p.isAbsolute with
  | true =>
      rw [components_of_absolute absolute]
      rfl
  | false =>
      rw [components_of_relative absolute]
      split
      · rfl
      · rfl

/-! ## Reported files -/

def native (file : List Char) : Path := ⟨(Text.encode file).map separatorByte⟩

theorem reported_eq (file : List Char) :
    reported file = ofComponents (foldComponents (native file).components) := rfl

theorem components_reported (file : List Char) :
    (reported file).components = foldComponents (native file).components :=
  components_ofComponents (folded_foldComponents (components_spelled _)).spelled

theorem folded_reported (file : List Char) : Folded (reported file).components := by
  rw [components_reported]
  exact folded_foldComponents (components_spelled _)

/-- A character that separates components in a reported file. -/
def isSeparator (c : Char) : Bool := c = '/' || c = '\\'

theorem slash_mem_map_encodeChar {c : Char} :
    slash ∈ (Text.encodeChar c).map separatorByte ↔ isSeparator c = true := by
  have both (b : UInt8) : separatorByte b = slash ↔
      b = UInt8.ofNat '/'.toNat ∨ b = UInt8.ofNat '\\'.toNat := by
    unfold separatorByte slash
    split
    · rename_i back
      simp [back]
    · rename_i other
      exact ⟨.inl, fun h => h.resolve_right other⟩
  rw [isSeparator, Bool.or_eq_true, decide_eq_true_iff, decide_eq_true_iff, eq_comm (a := c),
    eq_comm (a := c)]
  simp only [List.mem_map, both, and_or_left, exists_or, exists_eq_right,
    Text.mem_encodeChar_iff (show Text.isAscii '/' = true by decide),
    Text.mem_encodeChar_iff (show Text.isAscii '\\' = true by decide)]

theorem map_encodeChar_of_separator {c : Char} (h : isSeparator c = true) :
    (Text.encodeChar c).map separatorByte = [slash] := by
  rcases Bool.or_eq_true _ _ ▸ h with same | same
  · rw [of_decide_eq_true same]
    rfl
  · rw [of_decide_eq_true same]
    rfl

/-- A reported file stands for an absolute path when it starts with a separator. -/
theorem isAbsolute_native (file : List Char) :
    (native file).isAbsolute = file.head?.any isSeparator := by
  cases file with
  | nil => rfl
  | cons c rest =>
      rw [List.head?_cons, Option.any_some]
      cases own : isSeparator c with
      | true =>
          rw [native, Text.encode_cons, List.map_append, map_encodeChar_of_separator own]
          rfl
      | false =>
          obtain ⟨b, more, bytes⟩ := List.exists_cons_of_ne_nil (Text.encodeChar_ne_nil c)
          have clean : slash ∉ (Text.encodeChar c).map separatorByte := fun member =>
            Bool.false_ne_true (own.symm.trans (slash_mem_map_encodeChar.mp member))
          rw [bytes, List.map_cons, List.mem_cons, not_or] at clean
          rw [native, Text.encode_cons, bytes, isAbsolute]
          simpa using Ne.symm clean.1

theorem isAbsolute_reported (file : List Char) :
    (reported file).isAbsolute = (native file).isAbsolute := by
  rw [Bool.eq_iff_iff, isAbsolute_iff_head?, components_reported, foldComponents_components, start]
  cases absolute : (native file).isAbsolute with
  | true =>
      obtain ⟨names, -, folded, -⟩ := folded_absolute (inner_plain (native file))
      simp only [if_true, List.singleton_append, folded, List.head?_cons]
  | false =>
      refine iff_of_false (fun first => ?_) Bool.false_ne_true
      have member := mem_foldComponents (List.mem_of_mem_head? first)
      exact (inner_plain (native file) .root member).ne_root rfl

/-! ## The text of a folded path -/

def Slashed (bytes : List UInt8) : Prop :=
  ∃ text : List Char, '\\' ∉ text ∧ Text.encode text = bytes

theorem Slashed.append {s t : List UInt8} (h : Slashed s) (also : Slashed t) : Slashed (s ++ t) := by
  obtain ⟨front, plain, rfl⟩ := h
  obtain ⟨back, plain', rfl⟩ := also
  exact ⟨front ++ back, List.not_mem_append plain plain', Text.encode_append front back⟩

theorem slashed_slash : Slashed [slash] := ⟨['/'], by decide, rfl⟩

theorem slashed_native (file : List Char) : Slashed (native file).bytes := by
  induction file with
  | nil => exact ⟨[], List.not_mem_nil, rfl⟩
  | cons c rest ih =>
      rw [native, Text.encode_cons, List.map_append]
      refine Slashed.append ?_ ih
      by_cases back : c = '\\'
      · rw [back]
        exact slashed_slash
      · have plain : '\\' ∉ [c] := by simpa using Ne.symm back
        have kept := separatorByte_encode plain
        rw [Text.encode_cons, Text.encode_nil, List.append_nil] at kept
        exact ⟨[c], plain, by rw [kept, Text.encode_cons, Text.encode_nil, List.append_nil]⟩

theorem pieces_append_of_clean {front s first : List UInt8} {others : List (List UInt8)}
    (clean : slash ∉ front) (split : pieces s = first :: others) :
    pieces (front ++ s) = (front ++ first) :: others := by
  induction front with
  | nil => exact split
  | cons b front ih =>
      rw [List.mem_cons, not_or] at clean
      simp only [List.cons_append, pieces, if_neg (Ne.symm clean.1), ih clean.2]

theorem Slashed.pieces {s piece : List UInt8} (h : Slashed s) (member : piece ∈ pieces s) :
    Slashed piece := by
  obtain ⟨text, plain, rfl⟩ := h
  induction text generalizing piece with
  | nil =>
      obtain rfl := List.mem_singleton.mp member
      exact ⟨[], List.not_mem_nil, rfl⟩
  | cons c rest ih =>
      rw [List.mem_cons, not_or] at plain
      rw [Text.encode_cons] at member
      by_cases cut : c = '/'
      · rw [cut, show Text.encodeChar '/' = [slash] from rfl, List.singleton_append,
          pieces_slash] at member
        rcases List.mem_cons.mp member with rfl | later
        · exact ⟨[], List.not_mem_nil, rfl⟩
        · exact ih plain.2 later
      · have clean : slash ∉ Text.encodeChar c := fun inside =>
          cut ((Text.mem_encodeChar_iff (d := '/') (by decide)).mp inside).symm
        have own : Slashed (Text.encodeChar c) :=
          ⟨[c], by simpa using plain.1, by rw [Text.encode_cons, Text.encode_nil, List.append_nil]⟩
        cases split : Path.pieces (Text.encode rest) with
        | nil => exact absurd split (pieces_ne_nil _)
        | cons first others =>
            rw [split] at ih
            rw [pieces_append_of_clean clean split] at member
            rcases List.mem_cons.mp member with rfl | later
            · exact own.append (ih plain.2 List.mem_cons_self)
            · exact ih plain.2 (List.mem_cons_of_mem _ later)

theorem slashed_joinPieces {all : List (List UInt8)} (h : ∀ piece ∈ all, Slashed piece) :
    Slashed (joinPieces all) := by
  induction all with
  | nil => exact ⟨[], List.not_mem_nil, rfl⟩
  | cons piece rest ih =>
      rw [List.forall_mem_cons] at h
      cases rest with
      | nil => exact h.1
      | cons second others =>
          have whole : joinPieces (piece :: second :: others) =
              piece ++ ([slash] ++ joinPieces (second :: others)) := rfl
          rw [whole]
          exact h.1.append (slashed_slash.append (ih h.2))

theorem bytes_of_ofPiece? {piece : List UInt8} {c : Component} (h : ofPiece? piece = some c) :
    c.bytes = piece := by
  unfold ofPiece? at h
  split at h
  · cases h
  · split at h
    · cases h
    · split at h
      · rename_i double
        obtain rfl := Option.some.inj h
        exact double.symm
      · obtain rfl := Option.some.inj h
        rfl

theorem Slashed.component {p : Path} (h : Slashed p.bytes) {c : Component}
    (member : c ∈ p.components) : Slashed c.bytes := by
  have inside : c ∈ p.inner → Slashed c.bytes := by
    intro own
    obtain ⟨piece, part, stands⟩ := List.mem_filterMap.mp own
    rw [bytes_of_ofPiece? stands]
    exact h.pieces part
  cases c with
  | root => exact slashed_slash
  | here => exact ⟨['.'], by decide, rfl⟩
  | up => exact ⟨['.', '.'], by decide, rfl⟩
  | name bytes =>
      refine inside ?_
      cases absolute : p.isAbsolute with
      | true =>
          rw [components_of_absolute absolute] at member
          exact (List.mem_cons.mp member).resolve_left nofun
      | false =>
          rw [components_of_relative absolute] at member
          refine (List.mem_append.mp member).resolve_left fun front => ?_
          split at front
          · simp at front
          · simp at front

theorem slashed_ofComponents {all : List Component} (h : ∀ c ∈ all, Slashed c.bytes) :
    Slashed (ofComponents all).bytes := by
  have texts {inner : List Component} (h : ∀ c ∈ inner, Slashed c.bytes) :
      Slashed (joinPieces (inner.map Component.bytes)) :=
    slashed_joinPieces (List.forall_mem_map.mpr h)
  unfold ofComponents
  split
  · rw [List.forall_mem_cons] at h
    exact slashed_slash.append (texts h.2)
  · exact texts h

theorem slashed_reported (file : List Char) : Slashed (reported file).bytes :=
  slashed_ofComponents fun _ member => (slashed_native file).component (mem_foldComponents member)

theorem native_of_slashed {text : List Char} (plain : '\\' ∉ text) :
    native text = ⟨Text.encode text⟩ := by
  rw [native, separatorByte_encode plain]

/-- A folded path, taken as a reported file, is folded already. -/
theorem reported_reported (file : List Char) :
    ∃ text, Text.encode text = (reported file).bytes ∧ native text = reported file ∧
      reported text = reported file := by
  obtain ⟨text, plain, own⟩ := slashed_reported file
  have same : native text = reported file := by rw [native_of_slashed plain, own]
  refine ⟨text, own, same, ?_⟩
  rw [reported_eq, same, components_reported,
    foldComponents_foldComponents (components_spelled _), reported_eq]

end AsmDiagnostics.Path
