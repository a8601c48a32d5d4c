import AsmDiagnostics.Proofs.Server.Grounded
import AsmDiagnostics.Proofs.Server.LifeCycle

/-!
# Background work

Whatever turns are taken, and in whatever order, the background work of a server is for open
documents and has their versions, and nothing is shown for a document that is closed until it is
opened again.  When files have changed, all open documents are looked at again.
-/

namespace AsmDiagnostics

open Message

/-- A message shows nothing for a document. -/
inductive Spares (uri : Uri) : Json → Prop where
  | silent {message : Json} (silent : isPublication message = false) : Spares uri message
  | elsewhere {other : Uri} (different : other ≠ uri) (diagnostics : List Diagnostic) :
      Spares uri (publishDiagnostics other diagnostics)
  | empty : Spares uri (publishDiagnostics uri [])

theorem Spares.clear (uri other : Uri) : Spares uri (publishDiagnostics other []) := by
  by_cases same : other = uri
  · exact same ▸ .empty
  · exact .elsewhere same []

namespace Server

variable {ω : Type} {outside : Outside ω} {settings : Settings} {hand next : Hand}
  {s after : Server ω}

/-- All work is for open documents, and what is sent shows nothing for others. -/
structure Background (settings : Settings) (hand : Hand) (s : Server ω) : Prop where
  chosen : s.session.settings = settings
  ordered : Documents.InOrder s.session.documents.entries
  grounded : s.session.Has (Grounded settings.debounceMillis hand s)
  shows : ∀ message sequel, hand = .send (.message message) sequel →
    ∀ uri, s.session.documents.contains uri = false → Spares uri message

/-- A run sends nothing for a document that is closed, whatever it has built. -/
theorem Work.spares (work : Work outside hand s next after) {window : Nat}
    (grounded : s.session.Has (Grounded window hand s)) {message : Json} {sequel : Sequel}
    (own : next = .send (.message message) sequel) {uri : Uri}
    (closed : s.session.documents.contains uri = false) : Spares uri message := by
  cases work with
  | clear same found =>
      obtain ⟨sent, -⟩ := Hand.send.inj own
      exact Letter.message.inj sent ▸ .clear uri _
  | complain same failed =>
      obtain ⟨sent, -⟩ := Hand.send.inj own
      exact Letter.message.inj sent ▸ .silent (logError_not_publication _)
  | @deliver _ p run diagnostics same current =>
      obtain ⟨sent, -⟩ := Hand.send.inj own
      rw [← Letter.message.inj sent]
      unfold report
      cases trigger : run.trigger with
      | push =>
          refine .elsewhere (fun other => ?_) diagnostics
          have isOpen := (grounded p same).isOpen rfl trigger
          rw [Pause.run_deliver, other, closed] at isOpen
          cases isOpen
      | pull id => exact .silent (answer_not_publication (answer_isAnswer id _))
  | _ => cases own

theorem Work.session_settings (work : Work outside hand s next after) :
    after.session.settings = s.session.settings :=
  (congrArg Session.settings work.bare :
    after.session.bare.settings = s.session.bare.settings)

theorem enlist_settings (s : Server ω) : s.enlist.session.settings = s.session.settings := by
  unfold enlist
  split <;> rfl

theorem enlist_documents (s : Server ω) :
    s.enlist.session.documents = s.session.documents := by
  unfold enlist
  split <;> rfl

namespace Background

theorem work (h : Background settings hand s) (work : Work outside hand s next after) :
    Background settings next after := by
  refine ⟨work.session_settings.trans h.chosen, work.documents ▸ h.ordered, fun q is => ?_,
    fun message sequel own uri closed => ?_⟩
  · obtain ⟨p, same, -⟩ := work.changes is
    exact (h.grounded p same).work same work is
  · exact work.spares h.grounded own (work.documents ▸ closed)

/-- Nothing is in hand, and nothing else is on its way than before. -/
theorem still (h : Background settings hand s) (session : after.session = s.session)
    (own : next.run? = none) (unsent : ∀ message sequel, next ≠ .send (.message message) sequel)
    (bears : ∀ load, Bears load next after ↔ Bears load hand s) : Background settings next after := by
  refine ⟨session ▸ h.chosen, session ▸ h.ordered, fun p is => ?_, fun message sequel sends => ?_⟩
  · exact (h.grounded p (session ▸ is)).same (by rw [session]) own
      (fun load => (bears load).mp) fun run _ => (bears _).mpr
  · exact absurd sends (unsent message sequel)

theorem free (h : Background settings hand s) (session : after.session = s.session)
    (bears : ∀ load, Bears load .free after ↔ Bears load hand s) : Background settings .free after :=
  h.still session rfl (fun _ _ sends => by cases sends) bears

/-- Tasks that are due ask for a turn. -/
theorem enlist (h : Background settings hand s) : Background settings hand s.enlist := by
  refine ⟨(enlist_settings s).trans h.chosen, enlist_documents s ▸ h.ordered, fun q is => ?_,
    by rw [enlist_documents]; exact h.shows⟩
  cases same : s.session.pipeline? with
  | none =>
      have nobody := enlist_isSome s
      rw [is, same] at nobody
      cases nobody
  | some p =>
      obtain ⟨agenda, becomes⟩ := enlist_pipeline same
      obtain rfl := Option.some.inj (becomes.symm.trans is)
      have kept : Grounded settings.debounceMillis hand s.enlist p := by
        obtain ⟨window, tracks, apart, manned, known, held⟩ := h.grounded p same
        rw [← enlist_documents s] at tracks known
        refine ⟨window, tracks, apart, fun flight member => ?_, fun load bears =>
          known load (bears_enlist.mp bears), held⟩
        obtain ⟨run, own, bears⟩ := manned flight member
        exact ⟨run, own, bears_enlist.mpr bears⟩
      exact ⟨kept.window, kept.tracks, kept.apart, kept.manned, kept.known, kept.held⟩

/-- The session goes on with new timers and questions. -/
theorem calls (h : Background settings hand s) (idle : hand.load? = none) (own : next.load? = none)
    (jobs : after.jobs = s.jobs) (waiting : after.mailbox.waiting = s.mailbox.waiting)
    (same : after.session.settings = s.session.settings)
    (ordered : Documents.InOrder after.session.documents.entries)
    (silent : ∀ message sequel, next = .send (.message message) sequel →
      isPublication message = false)
    (becomes : ∀ q, after.session.pipeline? = some q → (∃ p, s.session.pipeline? = some p ∧
      p.Onward s.session.documents q after.session.documents ∧ p.OnlyCalls q) ∨
        Grounded settings.debounceMillis next after q) : Background settings next after := by
  refine ⟨same.trans h.chosen, ordered, fun q is => ?_,
    fun message sequel sends uri _ => .silent (silent _ _ sends)⟩
  rcases becomes q is with ⟨p, same, onward, calls⟩ | fresh
  · exact (h.grounded p same).calls same idle own jobs waiting is onward calls
  · exact fresh

/-- A frame is taken. -/
theorem afterFrame (h : Background settings hand s) (lawful : Lawful hand s)
    (idle : hand.load? = none) (own : next.load? = none)
    (silent : ∀ message sequel, next = .send (.message message) sequel →
      isPublication message = false) (body rest : List UInt8) :
    Background settings next (s.afterFrame (s.session.take body).session rest) := by
  have made := Session.take_made s.session body
  refine enlist (h.calls idle own rfl rfl made.settings (made.ordered h.ordered) silent
    fun q is => ?_)
  cases same : s.session.pipeline? with
  | some p =>
      obtain ⟨other, becomes, onward⟩ := made.onward h.ordered same
      obtain rfl := Option.some.inj (becomes.symm.trans is)
      exact .inl ⟨p, rfl, onward⟩
  | none =>
      obtain ⟨root?, rfl⟩ := made.fresh same is
      rw [h.chosen] at is ⊢
      refine .inr (.fresh fun load bears => ?_)
      have nobody := lawful.not_bears same load
      rcases bears with mine | asked | waits | ⟨r, found, entry, member, -⟩
      · cases own.symm.trans mine
      · exact nobody (.inr (.inl asked))
      · exact nobody (.inr (.inr (.inl waits)))
      · obtain rfl := Option.some.inj (is.symm.trans found)
        cases member

/-- The reading ends. -/
theorem closingWith (h : Background settings hand s) (idle : hand.load? = none) (ending : Ending) :
    Background settings (.send .close .nothing) (s.closingWith ending) := by
  refine h.calls idle rfl rfl rfl rfl h.ordered (fun _ _ sends => by cases sends) fun q is => ?_
  obtain ⟨p, same, rfl⟩ := Option.map_eq_some_iff.mp is
  exact .inl ⟨p, same, p.shutdown_onward⟩

theorem write (h : Background settings (.job .write) s) : Background settings .free s.write := by
  refine ⟨?_, ?_, fun p is => ?_, fun message sequel sends => by cases sends⟩
  · rw [write_session]
    exact h.chosen
  · rw [write_session]
    exact h.ordered
  · have same : s.session.pipeline? = some p := write_session s ▸ is
    have grounded := h.grounded p same
    refine grounded.same (by rw [write_session]) rfl (fun load bears => ?_)
      fun run flies bears => ?_
    · exact (write_bears bears).idle rfl
    · exact (bears.idle rfl).write same grounded.apart flies

theorem step (h : Background settings hand s) (lawful : Lawful hand s)
    (step : Step outside hand s next after) : Background settings next after := by
  have rested (h : Background settings (.go .read) s) : Background settings .free s :=
    h.free rfl fun load => ⟨fun bears => bears.idle rfl, fun bears => bears.idle rfl⟩
  cases step with
  | work work => exact h.work work
  | write => exact h.write
  | stay past => exact rested h
  | pause reading part => exact rested h
  | stop reading ends => exact h.closingWith rfl _
  | @exit _ body rest reading frame ends =>
      have taken : Background settings (.go .read)
          (s.afterFrame (s.session.take body).session rest) :=
        h.afterFrame lawful rfl rfl (fun _ _ sends => by cases sends) body rest
      exact taken.closingWith rfl _
  | pass reading frame goes silent =>
      exact h.afterFrame lawful rfl rfl (fun _ _ sends => by cases sends) _ _
  | answer reading frame goes replies =>
      refine h.afterFrame lawful rfl rfl (fun message sequel sends => ?_) _ _
      obtain ⟨id, -, form, -⟩ := Session.take_answer replies
      obtain ⟨same, -⟩ := Hand.send.inj sends
      exact Letter.message.inj same ▸ answer_not_publication form

theorem wakeReader (h : Background settings .free s) : Background settings .free s.wakeReader :=
  h.free (wakeReader_session s) fun _ => bears_wakeReader

theorem withTime (h : Background settings .free s) (time : Nat) :
    Background settings .free (s.withTime time) := by
  refine h.calls rfl rfl rfl rfl rfl h.ordered (fun _ _ sends => by cases sends) fun q is => ?_
  obtain ⟨p, same, rfl⟩ := Option.map_eq_some_iff.mp is
  exact .inl ⟨p, same, ⟨rfl, .refl _, fun _ _ => id, Nat.le_refl _, id⟩,
    ⟨.refl _, fun _ member => .inl member, fun _ member _ _ _ => member⟩⟩

end Background

/-- The background work is for open documents at all times. -/
theorem background_kept (settings : Settings) : Kept outside (fun _ hand s => Lawful hand s)
    fun _ hand (s : Server ω) => Background settings hand s where
  step lawful h first := h.step lawful first
  turn _ h _ found :=
    h.still rfl rfl (fun _ _ sends => by cases sends) fun _ => bears_turn found
  hear _ h _ _ _ := Background.wakeReader (h.free rfl fun _ => .rfl)
  hangUp _ h _ := Background.wakeReader (h.free rfl fun _ => .rfl)
  rest {input s} _ h _ _ := by
    have same : Background settings .free
        { s with writer := { s.writer with isResting := false } } := h.free rfl fun _ => .rfl
    exact same.free rfl fun _ => bears_ask rfl
  clock _ h _ time := (h.withTime time).enlist
  late _ h _ time := h.withTime time
  count _ h _ := h.free rfl fun _ => .rfl
  alter _ h _ := h.free rfl fun _ => .rfl

/-- All messages are proper, and all background work is for open documents. -/
def attended (settings : Settings) : Condition ω :=
  Condition.and (fun _ hand s => Lawful hand s) fun _ hand s => Background settings hand s

theorem attended_kept (settings : Settings) : Kept outside .any (attended (ω := ω) settings) :=
  lawful_kept.and (background_kept settings)

theorem start_attended (settings : Settings) (world : ω) :
    attended settings [] .free (start settings world) :=
  ⟨start_lawful settings world, rfl, .nil, fun p same => (by cases same),
    fun _ _ sends => by cases sends⟩

end Server

end AsmDiagnostics
