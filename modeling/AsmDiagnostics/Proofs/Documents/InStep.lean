import AsmDiagnostics.Proofs.Documents.Entries
import AsmDiagnostics.Proofs.Documents.Positions
import AsmDiagnostics.Proofs.Session.Notices
import Mathlib.Logic.Function.Basic

/-!
# Editor and session in step

Texts are replaced in an editor between two boundaries, and the session is told of the positions that
these have in the text as it is at that moment.  Whatever is opened, edited and closed, in whatever
order, the session has the documents of the editor.
-/

namespace AsmDiagnostics

open TextDocument

/-- A replacement in a text of an editor. -/
inductive Stroke where
  | whole (new : String)
  | between (start stop : Nat) (new : String)
  deriving DecidableEq, Repr

namespace Stroke

def apply (s : List Char) : Stroke → List Char
  | .whole new => new.toList
  | .between start stop new => s.take start ++ new.toList ++ s.drop stop

/-- The stroke goes from a boundary of the text to the same or a later one, and their positions can
be told. -/
def Fits (s : List Char) : Stroke → Prop
  | .whole _ => True
  | .between start stop _ =>
      start ≤ stop ∧ stop ≤ s.length ∧ Addressable s start ∧ Addressable s stop

instance (s : List Char) : (stroke : Stroke) → Decidable (stroke.Fits s)
  | .whole _ => inferInstanceAs (Decidable True)
  | .between .. => inferInstanceAs (Decidable (_ ∧ _))

def told (s : List Char) : Stroke → Edit
  | .whole new => ⟨none, new⟩
  | .between start stop new => ⟨some ⟨positionAt s start, positionAt s stop⟩, new⟩

/-- Each stroke fits the text that those before it leave. -/
def AllFit : List Char → List Stroke → Prop
  | _, [] => True
  | s, stroke :: later => stroke.Fits s ∧ AllFit (stroke.apply s) later

instance decidableAllFit : (s : List Char) → (strokes : List Stroke) → Decidable (AllFit s strokes)
  | _, [] => inferInstanceAs (Decidable True)
  | s, stroke :: later =>
      have := decidableAllFit (stroke.apply s) later
      inferInstanceAs (Decidable (_ ∧ _))

/-- What the session is told of strokes, each in the text that those before it leave. -/
def toldAll : List Char → List Stroke → List Edit
  | _, [] => []
  | s, stroke :: later => stroke.told s :: toldAll (stroke.apply s) later

theorem edited_told {s : List Char} {stroke : Stroke} (fits : stroke.Fits s) :
    edited s (stroke.told s) = stroke.apply s := by
  cases stroke with
  | whole new => rfl
  | between start stop new =>
      obtain ⟨ordered, inside, first, last⟩ := fits
      simp only [edited, told, splice, apply,
        offsetAt_positionAt (Nat.le_trans ordered inside) first, offsetAt_positionAt inside last,
        Nat.max_eq_left ordered]

theorem foldl_edited_toldAll {s : List Char} {strokes : List Stroke} (fit : AllFit s strokes) :
    (toldAll s strokes).foldl edited s = strokes.foldl apply s := by
  induction strokes generalizing s with
  | nil => rfl
  | cons stroke later ih =>
      rw [toldAll, List.foldl_cons, List.foldl_cons, edited_told fit.1]
      exact ih fit.2

end Stroke

/-- The documents that an editor has open. -/
abbrev Desk := Uri → Option TextDocument

/-- Something that is done in an editor and told to the session. -/
inductive Desk.Action where
  | opens (uri : Uri) (version : Int) (text : String)
  /-- The strokes are told as one change. -/
  | types (uri : Uri) (version : Int) (strokes : List Stroke)
  | closes (uri : Uri)
  /-- A change is told of a document that is not open. -/
  | strays (params : Message.ChangeParams)
  deriving DecidableEq, Repr

namespace Desk

def clear : Desk := fun _ => none

def typed (document : TextDocument) (version : Int) (strokes : List Stroke) : TextDocument :=
  ⟨version, String.ofList (strokes.foldl Stroke.apply document.text.toList)⟩

def after (desk : Desk) : Action → Desk
  | .opens uri version text => Function.update desk uri (some ⟨version, text⟩)
  | .types uri version strokes =>
      Function.update desk uri ((desk uri).map fun document => typed document version strokes)
  | .closes uri => Function.update desk uri none
  | .strays _ => desk

/-- Strokes are made in an open document, and fit its text. -/
def Allows (desk : Desk) : Action → Prop
  | .opens .. => True
  | .types uri _ strokes => ∃ document ∈ desk uri, Stroke.AllFit document.text.toList strokes
  | .closes _ => True
  | .strays params => desk params.uri = none

instance (desk : Desk) : (action : Action) → Decidable (desk.Allows action)
  | .opens .. => inferInstanceAs (Decidable True)
  | .types uri _ _ => inferInstanceAs (Decidable (∃ document ∈ desk uri, _))
  | .closes _ => inferInstanceAs (Decidable True)
  | .strays params => inferInstanceAs (Decidable (desk params.uri = none))

def notice (desk : Desk) : Action → Notice
  | .opens uri version text => .opened ⟨uri, version, text⟩
  | .types uri version strokes =>
      .changed ⟨uri, version,
        Stroke.toldAll ((desk uri).elim [] fun document => document.text.toList) strokes⟩
  | .closes uri => .closed uri
  | .strays params => .changed params

def AllowsAll : Desk → List Action → Prop
  | _, [] => True
  | desk, action :: later => desk.Allows action ∧ AllowsAll (desk.after action) later

instance decidableAllowsAll :
    (desk : Desk) → (actions : List Action) → Decidable (desk.AllowsAll actions)
  | _, [] => inferInstanceAs (Decidable True)
  | desk, action :: later =>
      have := decidableAllowsAll (desk.after action) later
      inferInstanceAs (Decidable (_ ∧ _))

def work : Desk → Session → List Action → Desk × Session
  | desk, session, [] => (desk, session)
  | desk, session, action :: later =>
      work (desk.after action) (session.heed (desk.notice action)) later

structure InStep (desk : Desk) (d : Documents) : Prop where
  order : Documents.InOrder d.entries
  same : ∀ uri, d.get? uri = desk uri

namespace InStep

variable {desk : Desk} {d : Documents}

theorem clear : Desk.clear.InStep Documents.none := ⟨Documents.InOrder.nil, fun _ => rfl⟩

/-- One action keeps both in step. -/
theorem after (h : desk.InStep d) {action : Action} (allowed : desk.Allows action) :
    (desk.after action).InStep (d.heed (desk.notice action)) := by
  cases action with
  | opens uri version text =>
      refine ⟨h.order.put uri _, fun other => ?_⟩
      refine (Documents.get?_openAt d uri other version text).trans ?_
      simp only [Desk.after, Function.update_apply, h.same]
  | types uri version strokes =>
      obtain ⟨document, isOpen, fit⟩ := allowed
      have found := (h.same uri).trans isOpen
      have same : document.change version (Stroke.toldAll document.text.toList strokes) =
          typed document version strokes := by
        unfold TextDocument.change Desk.typed
        rw [Stroke.foldl_edited_toldAll fit]
      simp only [notice, Option.mem_def.mp isOpen, Option.elim_some, Documents.heed,
        Documents.change?, found, Option.map_some, Option.getD_some, Desk.after, same]
      refine ⟨h.order.put uri _, fun other => ?_⟩
      rw [Function.update_apply, ← h.same]
      split
      · rename_i this
        rw [this]
        exact Documents.find?_put_self uri _ d.entries
      · rename_i different
        exact Documents.find?_put_other different
  | closes uri =>
      refine ⟨h.order.filter _, fun other => ?_⟩
      refine (Documents.get?_close d uri other).trans ?_
      simp only [Desk.after, Function.update_apply, h.same]
  | strays params =>
      have refused : d.change? params.uri params.version params.edits = none :=
        (Documents.change?_eq_none_iff d _ _ _).mpr ((h.same _).trans allowed)
      simp only [notice, Documents.heed, refused, Option.getD_none]
      exact h

theorem work {session : Session} (h : desk.InStep session.documents) {actions : List Action}
    (allowed : desk.AllowsAll actions) :
    (desk.work session actions).1.InStep (desk.work session actions).2.documents := by
  induction actions generalizing desk session with
  | nil => exact h
  | cons action later ih =>
      refine ih ?_ allowed.2
      rw [Session.heed_documents]
      exact h.after allowed.1

end InStep

end Desk

/-- After any actions of an editor the session has the documents of the editor open, with their texts
and versions, and no others; it passes over a change of a document that is not open.  The position of
every boundary in every text leads back to the boundary. -/
theorem documents_in_step {session : Session} (new : session.documents = Documents.none)
    {actions : List Desk.Action} (allowed : Desk.clear.AllowsAll actions) :
    let (desk, later) := Desk.clear.work session actions
    later.documents.uris.Nodup ∧
      (∀ uri, uri ∈ later.documents.uris ↔ (desk uri).isSome) ∧
      (∀ uri, later.documents.get? uri = desk uri) ∧
      (∀ uri, desk uri = none → ∀ version edits,
        later.documents.change? uri version edits = none ∧
          later.heed (.changed ⟨uri, version, edits⟩) = later) ∧
      ∀ (s : List Char) (boundary : Nat), boundary ≤ s.length → Addressable s boundary →
        offsetAt s (positionAt s boundary) = boundary := by
  have step : (Desk.clear.work session actions).1.InStep
      (Desk.clear.work session actions).2.documents :=
    Desk.InStep.work (new ▸ Desk.InStep.clear) allowed
  refine ⟨step.order.distinct, fun uri => ?_, step.same, fun uri closed version edits => ?_,
    fun s boundary inside addressable => offsetAt_positionAt inside addressable⟩
  · rw [Documents.mem_uris_iff, step.same]
  · have refused := (Documents.change?_eq_none_iff
      (Desk.clear.work session actions).2.documents uri version edits).mpr
        ((step.same uri).trans closed)
    refine ⟨refused, ?_⟩
    simp only [Session.heed, Session.changed, refused]

/-- Strokes before and behind a pair of surrogates and at the end of a line, told as one change. -/
theorem surrogates_in_step :
    let uri : Uri := ⟨"file:///w/a", "file", "", "/w/a"⟩
    let actions : List Desk.Action :=
      [.opens uri 1 "a\r\n😀b", .strays ⟨⟨"file:///w/b", "file", "", "/w/b"⟩, 7, [⟨none, "c"⟩]⟩,
        .types uri 2 [.between 4 5 "é\n", .between 1 4 "𝒳", .between 2 2 "\n"]]
    Desk.clear.AllowsAll actions ∧
      (Desk.clear.work (Session.start .default) actions).2.documents.get? uri =
        some ⟨2, "a𝒳\né\n"⟩ := by
  intro uri actions
  have allowed : Desk.clear.AllowsAll actions := by decide +kernel
  have fresh : (Session.start .default).documents = Documents.none := rfl
  have kept := (documents_in_step fresh allowed).2.2.1 uri
  refine ⟨allowed, kept.trans ?_⟩
  decide +kernel

end AsmDiagnostics
