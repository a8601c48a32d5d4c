import AsmDiagnostics.Proofs.Pipeline.Alone
import AsmDiagnostics.Proofs.Pipeline.Questions

/-!
# Documents apart

All calls for other documents are taken out of a run, and with them what is done because of them.  One
act after another the document then has the same share as before, so it sees the same events at the
same times.  The builds of the document have to come to the same in both runs; what they come to is
therefore given by their number.
-/

namespace AsmDiagnostics

variable {τ ω : Type}

namespace Stage

section Runs

variable (outside : Outside ω) (uri : Uri)

def only (s : Stage τ ω) : List (Act τ ω) → List (Act τ ω)
  | [] => []
  | act :: acts => (s.only? uri act).toList ++ (s.act outside act).2.only acts

/-- The builds that some acts start for a document. -/
def buildsOf (s : Stage τ ω) : List (Act τ ω) → List (Build.Result × Nat)
  | [] => []
  | act :: acts => (s.build? outside uri act).toList ++ (s.act outside act).2.buildsOf acts

theorem only_append (s : Stage τ ω) (before after : List (Act τ ω)) :
    s.only outside uri (before ++ after) =
      s.only outside uri before ++ (s.play outside before).2.only outside uri after := by
  induction before generalizing s with
  | nil => rfl
  | cons act before ih => simp [only, ih]

theorem buildsOf_append (s : Stage τ ω) (before after : List (Act τ ω)) :
    s.buildsOf outside uri (before ++ after) =
      s.buildsOf outside uri before ++ (s.play outside before).2.buildsOf outside uri after := by
  induction before generalizing s with
  | nil => rfl
  | cons act before ih => simp [buildsOf, ih]

theorem play_concat (s : Stage τ ω) (acts : List (Act τ ω)) (act : Act τ ω) :
    s.play outside (acts ++ [act]) =
      ((s.play outside acts).1 ++ ((s.play outside acts).2.act outside act).1,
        ((s.play outside acts).2.act outside act).2) := by
  rw [play_append]
  simp

theorem only_concat (s : Stage τ ω) (acts : List (Act τ ω)) (act : Act τ ω) :
    s.only outside uri (acts ++ [act]) =
      s.only outside uri acts ++ ((s.play outside acts).2.only? uri act).toList := by
  rw [only_append]
  exact congrArg (_ ++ ·) (List.append_nil _)

theorem buildsOf_concat (s : Stage τ ω) (acts : List (Act τ ω)) (act : Act τ ω) :
    s.buildsOf outside uri (acts ++ [act]) =
      s.buildsOf outside uri acts ++ ((s.play outside acts).2.build? outside uri act).toList := by
  rw [buildsOf_append]
  exact congrArg (_ ++ ·) (List.append_nil _)

end Runs

end Stage

/-- What a build comes to, and how long it takes, depends on how many there were before it. -/
def Foreseen (outcome : Nat → Build.Result × Nat) (builds : List (Build.Result × Nat)) : Prop :=
  ∀ (count : Nat) (started : count < builds.length), builds[count] = outcome count

instance (outcome : Nat → Build.Result × Nat) (builds : List (Build.Result × Nat)) :
    Decidable (Foreseen outcome builds) :=
  inferInstanceAs
    (Decidable (∀ (count : Nat) (started : count < builds.length), builds[count] = outcome count))

namespace Foreseen

variable {outcome : Nat → Build.Result × Nat} {builds others : List (Build.Result × Nat)}

theorem before (foreseen : Foreseen outcome (builds ++ others)) : Foreseen outcome builds := by
  intro count started
  have inside : count < (builds ++ others).length := by
    rw [List.length_append]
    omega
  rw [← foreseen count inside, List.getElem_append_left]

theorem next {build? : Option (Build.Result × Nat)}
    (foreseen : Foreseen outcome (builds ++ build?.toList)) :
    ∀ build ∈ build?, build = outcome builds.length := by
  rintro build ⟨⟩
  have last := foreseen builds.length (by simp)
  simpa using last

end Foreseen

namespace Stage

variable {outside : Outside ω} {uri : Uri} {workspace? : Option Workspace} {window : Nat} {world : ω}
  {outcome : Nat → Build.Result × Nat}

/-- A document sees the same of some acts whether or not there are other documents. -/
structure Alike (outside : Outside ω) (uri : Uri) (s : Stage τ ω) (acts : List (Act τ ω)) : Prop where
  localEvents : localEvents uri (s.play outside acts).1 =
    localEvents uri (s.play outside (s.only outside uri acts)).1
  share : (s.play outside acts).2.share outside uri =
    (s.play outside (s.only outside uri acts)).2.share outside uri
  builds : (s.buildsOf outside uri acts).length =
    (s.buildsOf outside uri (s.only outside uri acts)).length
  lone : (s.play outside (s.only outside uri acts)).2.Lone outside uri

/-- An act for another document is left out. -/
theorem Alike.drop {s : Stage τ ω} {acts : List (Act τ ω)} (alike : s.Alike outside uri acts)
    (sound : (s.play outside acts).2.Sound)
    (spares : outside.Spares (s.play outside acts).2.pipeline.workspace?) {act : Act τ ω}
    (drops : (s.play outside acts).2.Drops uri act) : s.Alike outside uri (acts ++ [act]) := by
  obtain ⟨localEvents, share, builds, lone⟩ := alike
  obtain ⟨silent, still⟩ := act_other sound spares drops
  have same : s.only outside uri (acts ++ [act]) = s.only outside uri acts := by
    rw [only_concat, drops_iff.mpr drops]
    exact List.append_nil _
  constructor
  · rw [same, play_concat, localEvents_append, silent, List.append_nil]
    exact localEvents
  · rw [same, play_concat]
    exact still.trans share
  · rw [same, buildsOf_concat, build?_of_other drops]
    simpa using builds
  · rw [same]
    exact lone

/-- An act for the document is done alike. -/
theorem Alike.keep {s : Stage τ ω} {acts : List (Act τ ω)} (alike : s.Alike outside uri acts)
    (sound : (s.play outside acts).2.Sound)
    (spares : outside.Spares (s.play outside acts).2.pipeline.workspace?)
    (soundAlone : (s.play outside (s.only outside uri acts)).2.Sound)
    (sparesAlone : outside.Spares (s.play outside (s.only outside uri acts)).2.pipeline.workspace?)
    {act own : Act τ ω} (keeps : (s.play outside acts).2.Keeps uri act own)
    (foreseen : Foreseen outcome (s.buildsOf outside uri (acts ++ [act])))
    (foreseenAlone : Foreseen outcome (s.buildsOf outside uri (s.only outside uri acts ++ [own]))) :
    s.Alike outside uri (acts ++ [act]) := by
  obtain ⟨localEvents, share, builds, lone⟩ := alike
  rw [buildsOf_concat] at foreseen foreseenAlone
  have keepsAlone := lone.keeps share keeps
  have done := act_own sound spares keeps _ foreseen.next
  have doneAlone := act_own soundAlone sparesAlone keepsAlone _ foreseenAlone.next
  rw [share, builds, ← doneAlone] at done
  obtain ⟨told, shares⟩ := Prod.mk.inj done
  have same : s.only outside uri (acts ++ [act]) = s.only outside uri acts ++ [own] := by
    rw [only_concat, keeps_iff.mpr keeps]
    rfl
  constructor
  · rw [same, play_concat, play_concat, localEvents_append, localEvents_append, localEvents, told]
  · rw [same, play_concat, play_concat]
    exact shares
  · have both : ((s.play outside acts).2.build? outside uri act).isSome =
        ((s.play outside (s.only outside uri acts)).2.build? outside uri own).isSome := by
      rw [build?_isSome keeps, build?_isSome keepsAlone, share]
    have count (build? : Option (Build.Result × Nat)) :
        build?.toList.length = build?.isSome.toNat := by cases build? <;> rfl
    rw [same, buildsOf_concat, buildsOf_concat, List.length_append, List.length_append, builds, count,
      count, both]
  · rw [same, play_concat]
    refine lone.act soundAlone sparesAlone fun call calls => ?_
    rw [calls] at keepsAlone
    cases keepsAlone with
    | call concerns => exact concerns

theorem alike (spares : outside.Spares workspace?) (acts : List (Act τ ω))
    (foreseen : Foreseen outcome
      ((start workspace? window world : Stage τ ω).buildsOf outside uri acts))
    (foreseenAlone : Foreseen outcome ((start workspace? window world : Stage τ ω).buildsOf outside uri
      ((start workspace? window world).only outside uri acts))) :
    (start workspace? window world).Alike outside uri acts := by
  let stage : Stage τ ω := start workspace? window world
  induction acts using List.reverseRecOn with
  | nil => exact ⟨rfl, rfl, rfl, fun other _ => ⟨rfl, rfl⟩⟩
  | append_singleton acts act ih =>
      obtain ⟨workspace, sound⟩ := sound_play outside workspace? window world acts
      have sparesWhole : outside.Spares (stage.play outside acts).2.pipeline.workspace? :=
        workspace.symm ▸ spares
      have before : Foreseen outcome (stage.buildsOf outside uri acts) := by
        rw [buildsOf_concat] at foreseen
        exact foreseen.before
      cases kept : (stage.play outside acts).2.only? uri act with
      | none =>
          rw [only_concat, kept, Option.toList_none, List.append_nil] at foreseenAlone
          exact (ih before foreseenAlone).drop sound sparesWhole (drops_iff.mp kept)
      | some own =>
          obtain ⟨workspaceAlone, soundAlone⟩ :=
            sound_play outside workspace? window world (stage.only outside uri acts)
          have sparesAlone : outside.Spares
              (stage.play outside (stage.only outside uri acts)).2.pipeline.workspace? :=
            workspaceAlone.symm ▸ spares
          rw [only_concat, kept, Option.toList_some] at foreseenAlone
          have beforeAlone : Foreseen outcome
              (stage.buildsOf outside uri (stage.only outside uri acts)) := by
            rw [buildsOf_concat] at foreseenAlone
            exact foreseenAlone.before
          exact (ih before beforeAlone).keep sound sparesWhole soundAlone sparesAlone
            (keeps_iff.mp kept) foreseen foreseenAlone

end Stage

/-! ## The same calls at the same times -/

namespace Act

def isGiven : Act τ ω → Bool
  | .perform _ => false
  | .resume _ => false
  | _ => true

/-- The act is no call for another document. -/
def concerns (uri : Uri) : Act τ ω → Bool
  | .call made => made.concerns uri
  | _ => true

/-- The clock passes no task, and no task is performed before its time. -/
def IsTimely (s : Stage τ ω) : Act τ ω → Prop
  | .wait millis => ∀ entry ∈ s.pipeline.agenda, s.pipeline.now + millis ≤ entry.due
  | act => act.IsDue s

def IsInOrder : Act τ ω → Prop
  | .perform place => place = 0
  | .resume place => place = 0
  | _ => True

end Act

namespace Stage

def Timely (outside : Outside ω) (s : Stage τ ω) : List (Act τ ω) → Prop
  | [] => True
  | act :: acts => act.IsTimely s ∧ (s.act outside act).2.Timely outside acts

theorem timely_append (outside : Outside ω) (s : Stage τ ω) (before after : List (Act τ ω)) :
    s.Timely outside (before ++ after) ↔
      s.Timely outside before ∧ (s.play outside before).2.Timely outside after := by
  induction before generalizing s with
  | nil => simp [Timely]
  | cons act before ih => simp [Timely, ih, and_assoc]

variable {outside : Outside ω} {uri : Uri} {s whole alone : Stage τ ω} {act own : Act τ ω}

/-- What comes from outside is left out if it is a call for another document, and left alone if not. -/
theorem only?_given (s : Stage τ ω) (act : Act τ ω) :
    (s.only? uri act).toList.filter Act.isGiven =
      [act].filter fun act => act.isGiven && act.concerns uri := by
  cases kept : s.only? uri act with
  | none =>
      cases drops_iff.mp kept with
      | call apart => simp [Act.isGiven, Act.concerns, apart]
      | _ => rfl
  | some own =>
      cases keeps_iff.mp kept with
      | call concerns => simp [Act.isGiven, Act.concerns, concerns]
      | _ => rfl

theorem only_given (s : Stage τ ω) (acts : List (Act τ ω)) :
    (s.only outside uri acts).filter Act.isGiven =
      acts.filter fun act => act.isGiven && act.concerns uri := by
  induction acts generalizing s with
  | nil => rfl
  | cons act acts ih =>
      have split : act :: acts = [act] ++ acts := rfl
      rw [only, List.filter_append, only?_given, ih, split, List.filter_append]

theorem Keeps.inOrder (keeps : s.Keeps uri act own) (first : act.IsInOrder) : own.IsInOrder := by
  cases keeps with
  | perform found own =>
      obtain rfl : _ = 0 := first
      exact Nat.le_zero.mp (rank_le ..)
  | resume found own =>
      obtain rfl : _ = 0 := first
      exact Nat.le_zero.mp (rank_le ..)
  | _ => trivial

theorem only_inOrder (s : Stage τ ω) {acts : List (Act τ ω)}
    (first : ∀ act ∈ acts, act.IsInOrder) : ∀ act ∈ s.only outside uri acts, act.IsInOrder := by
  induction acts generalizing s with
  | nil => exact nofun
  | cons act acts ih =>
      rw [List.forall_mem_cons] at first
      intro own member
      rcases List.mem_append.mp member with here | later
      · exact (keeps_iff.mp (Option.mem_toList.mp here)).inOrder first.1
      · exact ih _ first.2 own later

/-- An act is as timely where there are no other documents. -/
theorem Keeps.timely (lone : alone.Lone outside uri)
    (same : whole.share outside uri = alone.share outside uri) (keeps : whole.Keeps uri act own)
    (timely : act.IsTimely whole) : own.IsTimely alone := by
  have now : whole.pipeline.now = alone.pipeline.now := congrArg Share.now same
  have tasks : whole.pipeline.tasksFor uri = alone.pipeline.tasksFor uri := congrArg Share.tasks same
  cases keeps with
  | wait millis =>
      intro entry member
      have seen : ⟨entry.due, _⟩ ∈ alone.pipeline.tasksFor uri := Agenda.mem_view.mpr
        ⟨entry, member, Task.localTask?_of_own (lone.task member), rfl⟩
      rw [← tasks] at seen
      obtain ⟨other, there, -, due⟩ := Agenda.mem_view.mp seen
      rw [← now, ← show other.due = entry.due from due]
      exact timely other there
  | @perform place entry found own =>
      intro other there
      obtain ⟨first, foundAlone, due, -⟩ := lone.perform same found own
      obtain rfl := Option.some.inj (foundAlone.symm.trans there)
      rw [due, ← now]
      exact timely entry found
  | _ => trivial

theorem timely_only {acts : List (Act τ ω)}
    (alike : ∀ before after, acts = before ++ after → s.Alike outside uri before)
    (timely : s.Timely outside acts) : s.Timely outside (s.only outside uri acts) := by
  induction acts using List.reverseRecOn with
  | nil => trivial
  | append_singleton acts act ih =>
      obtain ⟨before, last, -⟩ := (timely_append ..).mp timely
      have earlier := ih (fun front back split => alike front (back ++ [act]) (by simp [split])) before
      rw [only_concat]
      cases kept : (s.play outside acts).2.only? uri act with
      | none => simpa using earlier
      | some own =>
          obtain ⟨-, share, -, lone⟩ := alike acts [act] rfl
          exact (timely_append ..).mpr
            ⟨earlier, (keeps_iff.mp kept).timely lone share last, trivial⟩

/-- A run for the document is in flight. -/
def isFlying (uri : Uri) (s : Stage τ ω) : Bool := (s.pipeline.inFlight.current? uri).isSome

end Stage

/-- Take all calls for other documents out of a run, with what is done because of them.  If what a
build of a document comes to, and how long it takes, depends on the earlier builds of that document
only, and no build makes or removes the descriptor, then at every point of the run the document has
seen the same events at the same times, and has a run in flight if it had one.  What else comes from
outside is left alone; a run whose clock passes no task is still one, and so is a run in which
whatever waits goes on in order. -/
theorem documents_do_not_interfere (outside : Outside ω) (workspace? : Option Workspace)
    (window : Nat) (world : ω) (uri : Uri) (outcome : Nat → Build.Result × Nat)
    (acts : List (Act τ ω)) (spares : outside.Spares workspace?)
    (foreseen : Foreseen outcome
      ((Stage.start workspace? window world : Stage τ ω).buildsOf outside uri acts))
    (foreseenAlone : Foreseen outcome
      ((Stage.start workspace? window world : Stage τ ω).buildsOf outside uri
        ((Stage.start workspace? window world).only outside uri acts))) :
    let stage : Stage τ ω := .start workspace? window world
    let alone := stage.only outside uri acts
    (∀ before after, acts = before ++ after →
      let whole := stage.play outside before
      let own := stage.play outside (stage.only outside uri before)
      alone = stage.only outside uri before ++ whole.2.only outside uri after ∧
        localEvents uri whole.1 = localEvents uri own.1 ∧ whole.2.isFlying uri = own.2.isFlying uri) ∧
      alone.filter Act.isGiven = (acts.filter fun act => act.isGiven && act.concerns uri) ∧
      (stage.Timely outside acts → stage.Timely outside alone) ∧
      ((∀ act ∈ acts, act.IsInOrder) → ∀ act ∈ alone, act.IsInOrder) := by
  intro stage alone
  have localRuns (before after : List (Act τ ω)) (split : acts = before ++ after) :
      alone = stage.only outside uri before ++ (stage.play outside before).2.only outside uri after := by
    rw [← stage.only_append, ← split]
  have alike (before after : List (Act τ ω)) (split : acts = before ++ after) :
      stage.Alike outside uri before := by
    have first : Foreseen outcome (stage.buildsOf outside uri before) := by
      rw [split, Stage.buildsOf_append] at foreseen
      exact foreseen.before
    have firstAlone : Foreseen outcome
        (stage.buildsOf outside uri (stage.only outside uri before)) := by
      rw [show stage.only outside uri acts = _ from localRuns before after split,
        Stage.buildsOf_append] at foreseenAlone
      exact foreseenAlone.before
    exact Stage.alike spares before first firstAlone
  refine ⟨fun before after split => ?_, stage.only_given acts, Stage.timely_only alike,
    stage.only_inOrder⟩
  have same := alike before after split
  exact ⟨localRuns before after split, same.localEvents, congrArg Share.isFlying same.share⟩

namespace Sample

/-- Another file of the same folder. -/
def neighbour : Uri := ⟨"file:///w/b", "file", "", "/w/b"⟩

/-- A change of a document, between a push and a pull of its neighbour. -/
def crowded : List (Act Unit Unit) :=
  [.call (.change uri 1), .call (.push neighbour), .perform 0, .resume 0, .wait 3,
    .call (.pull neighbour ()), .perform 0, .perform 1, .resume 0, .perform 0, .wait 5, .perform 0]

end Sample

/-- The push of a document, with and without its neighbour. -/
theorem push_beside_neighbour :
    let stage : Stage Unit Unit := .start (some Sample.workspace) 3 ()
    let alone : List (Act Unit Unit) :=
      [.call (.change Sample.uri 1), .wait 3, .perform 0, .perform 0, .resume 0, .wait 5, .perform 0]
    let outcome : Nat → Build.Result × Nat := fun _ => (⟨true, "", none⟩, 5)
    Sample.outside.Spares (some Sample.workspace) ∧
      Foreseen outcome (stage.buildsOf Sample.outside Sample.uri Sample.crowded) ∧
      Foreseen outcome (stage.buildsOf Sample.outside Sample.uri alone) ∧
      localEvents Sample.uri (stage.play Sample.outside Sample.crowded).1 =
        localEvents Sample.uri (stage.play Sample.outside alone).1 ∧
      (localEvents Sample.uri (stage.play Sample.outside alone).1).map LocalEvent.time =
        [3, 3, 8] := by
  intro stage alone outcome
  have spares : Sample.outside.Spares (some Sample.workspace) := fun _ _ => rfl
  have only : stage.only Sample.outside Sample.uri Sample.crowded = alone := by decide +kernel
  have foreseen : Foreseen outcome (stage.buildsOf Sample.outside Sample.uri Sample.crowded) := by
    decide +kernel
  have foreseenAlone : Foreseen outcome (stage.buildsOf Sample.outside Sample.uri alone) := by
    decide +kernel
  rw [← only] at foreseenAlone ⊢
  obtain ⟨points, -⟩ := documents_do_not_interfere Sample.outside (some Sample.workspace) 3 ()
    Sample.uri outcome Sample.crowded spares foreseen foreseenAlone
  obtain ⟨-, same, -⟩ := points Sample.crowded [] (List.append_nil _).symm
  exact ⟨spares, foreseen, foreseenAlone, same, by decide +kernel⟩

end AsmDiagnostics
