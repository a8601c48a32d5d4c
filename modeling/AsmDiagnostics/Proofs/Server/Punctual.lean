import AsmDiagnostics.Proofs.Server.Reading

/-!
# Tasks that are due

A task that is due asks for a turn at once.  What is left on the agenda lies in the future: timers
that sleep, and builds that run.
-/

namespace AsmDiagnostics

/-- The task may lie in the future: a timer that sleeps, or a build that runs. -/
def Task.isDelayed {τ : Type} : Task τ → Bool
  | .wake .. => true
  | .finish .. => true
  | .ask .. => false
  | .start _ => false

namespace Pipeline

/-- The agenda is in order, and whatever else waits is due at once. -/
structure Timed (p : Pipeline Json) : Prop where
  ordered : Agenda.Ordered p.agenda
  prompt : ∀ entry ∈ p.agenda, entry.action.isDelayed = false → entry.due ≤ p.now

namespace Timed

variable {p : Pipeline Json}

theorem of_sublist (h : p.Timed) {after : Pipeline Json} (agenda : after.agenda.Sublist p.agenda)
    (now : after.now = p.now) : after.Timed :=
  ⟨h.ordered.sublist agenda, fun entry member early =>
    now ▸ h.prompt entry (agenda.subset member) early⟩

theorem plan (h : p.Timed) (delay : Nat) {task : Task Json}
    (when : task.isDelayed = false → delay = 0) : (p.plan delay task).Timed := by
  refine ⟨Agenda.add_ordered h.ordered, fun entry member early => ?_⟩
  rcases Agenda.mem_add.mp member with rfl | old
  · rw [when early]
    exact Nat.le_of_eq (Agenda.after_zero p.now)
  · exact h.prompt entry old early

theorem begin (h : p.Timed) (uri : Uri) (trigger : Trigger Json) : (p.begin uri trigger).2.Timed :=
  h.of_sublist (p.abortPush_sublist uri) (p.abortPush_now uri)

theorem change (h : p.Timed) (uri : Uri) (version : Int) : (p.change uri version).Timed := by
  have held : Timed { p with debouncer := p.debouncer.schedule uri version } :=
    ⟨h.ordered, h.prompt⟩
  exact held.plan p.window fun early => nomatch early

theorem close (h : p.Timed) (uri : Uri) : (p.close uri).Timed :=
  h.of_sublist (p.abortPush_sublist uri) (p.abortPush_now uri)

theorem shutdown (h : p.Timed) : p.shutdown.Timed := h.of_sublist p.shutdown_sublist p.shutdown_now

theorem pull (h : p.Timed) (uri : Uri) (id : Json) : (p.pull uri id).Timed := h.plan 0 fun _ => rfl

theorem wake (h : p.Timed) (uri : Uri) (generation : Nat) : (p.wake uri generation).Timed := by
  have woken : Timed { p with debouncer := p.debouncer.wake uri generation } :=
    ⟨h.ordered, h.prompt⟩
  unfold Pipeline.wake
  split
  · exact (woken.begin uri .push).plan 0 fun _ => rfl
  · exact woken

end Timed

/-- Whatever waits lies in the future. -/
structure Punctual (p : Pipeline Json) : Prop extends p.Timed where
  later : ∀ entry ∈ p.agenda, p.now < entry.due

namespace Punctual

variable {p : Pipeline Json}

theorem isDelayed (h : p.Punctual) {entry : Planned (Task Json)} (member : entry ∈ p.agenda) :
    entry.action.isDelayed = true := by
  cases kind : entry.action.isDelayed with
  | true => rfl
  | false => exact absurd (h.prompt entry member kind) (Nat.not_le.mpr (h.later entry member))

theorem of_sublist (h : p.Punctual) {after : Pipeline Json}
    (agenda : after.agenda.Sublist p.agenda) (now : after.now = p.now) : after.Punctual :=
  ⟨h.toTimed.of_sublist agenda now, fun entry member =>
    now ▸ h.later entry (agenda.subset member)⟩

theorem begin (h : p.Punctual) (uri : Uri) (trigger : Trigger Json) :
    (p.begin uri trigger).2.Punctual :=
  h.of_sublist (p.abortPush_sublist uri) (p.abortPush_now uri)

theorem flown (h : p.Punctual) (flights : InFlight) : Punctual { p with inFlight := flights } :=
  h.of_sublist (List.Sublist.refl _) rfl

/-- Time may show anything. -/
theorem withTime (h : p.Punctual) (time : Nat) : Timed { p with now := time } :=
  ⟨h.ordered, fun _ member early => nomatch (h.isDelayed member).symm.trans early⟩

end Punctual

theorem Punctual.launch {ω : Type} {p : Pipeline Json} (h : p.Punctual) (outside : Outside ω)
    (world : ω) (run : Run Json) (workspace : Workspace) (document : DocumentRef) :
    (p.launch outside world run workspace document).pipeline.Punctual := by
  unfold Pipeline.launch
  dsimp only
  split
  · exact h
  · rename_i long
    refine ⟨h.toTimed.plan _ (fun early => nomatch early), fun entry member => ?_⟩
    rcases Agenda.mem_add.mp member with rfl | old
    · have longest : 0 < Agenda.longestWait := by decide
      simp only [Pipeline.plan, Agenda.after]
      omega
    · exact h.later entry old

/-- When the tasks that are due are taken off, all others lie in the future. -/
theorem Timed.punctual {p : Pipeline Json} (h : p.Timed) :
    Punctual { p with agenda := p.agenda.dropWhile fun entry => entry.due ≤ p.now } := by
  have fewer := List.dropWhile_sublist (fun entry : Planned (Task Json) => decide (entry.due ≤ p.now))
    (l := p.agenda)
  refine ⟨h.of_sublist fewer rfl, ?_⟩
  have ordered := h.ordered.sublist fewer
  intro entry member
  cases left : p.agenda.dropWhile fun entry => entry.due ≤ p.now with
  | nil => simp [left] at member
  | cons first rest =>
      have late : p.now < first.due := by
        have head := List.head?_dropWhile_not (fun entry => decide (entry.due ≤ p.now)) p.agenda
        simpa [left] using head
      rw [left] at ordered
      simp only [left] at member
      rcases List.mem_cons.mp member with rfl | behind
      · exact late
      · exact Nat.lt_of_lt_of_le late ((List.pairwise_cons.mp ordered).1 entry behind)

end Pipeline

namespace Server

variable {ω : Type} {outside : Outside ω}

/-- Whatever waits on the agenda of a server lies in the future. -/
def Punctual (s : Server ω) : Prop := ∀ p, s.session.pipeline? = some p → p.Punctual

theorem punctual_enlist {s : Server ω} (h : ∀ p, s.session.pipeline? = some p → p.Timed) :
    s.enlist.Punctual := by
  intro p same
  unfold enlist at same
  split at same
  · rename_i none
    exact nomatch none.symm.trans same
  · rename_i before found
    obtain rfl := Option.some.inj same
    exact (h before found).punctual

namespace Punctual

variable {s : Server ω}

theorem afterFrame (h : s.Punctual) (body rest : List UInt8) :
    (s.afterFrame (s.session.take body).session rest).Punctual := by
  have timed : s.session.Has Pipeline.Timed := fun p same => (h p same).toTimed
  refine punctual_enlist (timed.taken ?_ ?_ ?_ ?_ ?_)
  · exact fun settings root? => ⟨List.Pairwise.nil, fun _ member => nomatch member⟩
  · exact fun _ p uri version kept => kept.change uri version
  · exact fun p uri kept => kept.close uri
  · exact fun p kept => kept.shutdown
  · exact fun _ p uri id kept => kept.pull uri id

theorem closingWith (h : s.Punctual) (ending : Ending) : (s.closingWith ending).Punctual := by
  intro p same
  obtain ⟨before, found, rfl⟩ := Option.map_eq_some_iff.mp same
  exact (h before found).of_sublist before.shutdown_sublist before.shutdown_now

theorem work {hand next : Hand} {after : Server ω} (h : s.Punctual)
    (work : Work outside hand s next after) : after.Punctual := by
  have becomes {p : Pipeline Json} (punctual : p.Punctual) (world : ω) :
      Punctual ({ s with world := world }.withPipeline p) := by
    intro other same
    obtain rfl := Option.some.inj same
    exact punctual
  cases work with
  | place wanted =>
      intro p same
      rw [putPromised, wakeWriter_session] at same
      exact h p same
  | wake same =>
      refine punctual_enlist fun p becoming => ?_
      obtain rfl := Option.some.inj becoming
      exact (h _ same).toTimed.wake _ _
  | ask same => exact becomes ((h _ same).begin _ _) s.world
  | launch same long => exact becomes ((h _ same).launch outside s.world _ _ _) _
  | build same short => exact becomes ((h _ same).launch outside s.world _ _ _) _
  | keepBack same superseded => exact becomes ((h _ same).flown _) s.world
  | deliver same current => exact becomes ((h _ same).flown _) s.world
  | post room =>
      intro p same
      obtain ⟨-, rfl⟩ := send?_eq_some room
      rw [wakeWriter_session] at same
      exact h p same
  | _ => exact h

end Punctual

theorem punctual_of_session {s after : Server ω} (h : s.Punctual) (same : after.session = s.session) :
    after.Punctual := by
  unfold Punctual
  rw [same]
  exact h

/-- What waits on the agenda lies in the future at all times, until the server has ended. -/
theorem punctual_kept :
    Kept outside (orderly (ω := ω)) fun _ _ s => s.ending? = none → s.Punctual where
  step {input hand next s after} known h first goes := by
    cases first with
    | work w => exact (h (w.untouched.2.2.2.2 ▸ goes)).work w
    | write =>
        obtain ⟨-, goes⟩ := known.2.goesOn known.1 goes
        exact punctual_of_session (h goes) (write_session s)
    | stay past => exact h goes
    | pause reading part => exact h goes
    | stop reading ends => exact (h goes).closingWith _
    | exit reading frame ends =>
        exact ((h ((afterFrame_ending? s _ _).symm.trans goes)).afterFrame _ _).closingWith _
    | pass reading frame silent =>
        exact (h ((afterFrame_ending? s _ _).symm.trans goes)).afterFrame _ _
    | answer reading frame replies =>
        exact (h ((afterFrame_ending? s _ _).symm.trans goes)).afterFrame _ _
  turn _ h goes _ _ := h goes
  hear _ h goes _ _ _ := punctual_of_session (h goes) (wakeReader_session _)
  hangUp _ h goes _ := punctual_of_session (h goes) (wakeReader_session _)
  rest _ h goes _ _ := h goes
  clock {input s} _ h goes time _ := by
    refine punctual_enlist fun p same => ?_
    obtain ⟨before, found, rfl⟩ := Option.map_eq_some_iff.mp same
    exact (h goes before found).withTime time
  late {input s} _ _ past _ goes := by
    rw [show s.ending? = none from goes] at past
    exact nomatch past
  count _ h _ goes := h goes
  alter _ h _ goes := h goes

end Server

end AsmDiagnostics
