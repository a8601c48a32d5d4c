import AsmDiagnostics.Proofs.Frame.Growing
import AsmDiagnostics.Proofs.Server.Outgoing

/-!
# The account of a server

Whatever turns are taken, and in whatever order, there is a list of frames that have been read, and
the server is what these frames have made of it: its session is the one that takes them one after
another, all ids under which they are to be answered are accounted for, and the answers that the
session gives at once go out in its order, the last of them perhaps waiting for a place.
-/

namespace AsmDiagnostics

/-- There is no frame any more in an input that begins so, whatever may come in. -/
def Frame.NoMore (isClosed : Bool) (unread : List UInt8) : Prop :=
  ∃ closed front, front <+: unread ∧ (closed = true → isClosed = true) ∧
    (Frame.next closed front = .finished ∨ ∃ fault, Frame.next closed front = .broken fault)

theorem Frame.NoMore.later {isClosed closed : Bool} {unread : List UInt8}
    (h : NoMore isClosed unread) (still : isClosed = true → closed = true) (more : List UInt8) :
    NoMore closed (unread ++ more) := by
  obtain ⟨early, front, before, given, none⟩ := h
  exact ⟨early, front, before.trans (List.prefix_append _ _), fun it => still (given it), none⟩

namespace Server

open Message

variable {ω : Type} {outside : Outside ω}

def Rates.ids (w : Json → Nat) : Rates := ⟨w, 0, 0⟩

/-- The frames that have been read, and what has become of them. -/
structure Account (settings : Settings) (input : List UInt8) (hand : Hand) (s : Server ω)
    (bodies : List (List UInt8)) : Prop where
  reads : Frame.Reads s.isClosed input bodies s.unread
  session : s.session.bare = ((Session.start settings).afterAll bodies).bare
  tally : ∀ w : Json → Nat, (Rates.ids w).tally hand s = totalCost w (bodies.filterMap due?)
  order : ∃ sent : List Json, sent.Sublist s.destined ∧
    ((Session.start settings).answers bodies = sent ∨ s.closing? = none ∧
      ∃ message, (Session.start settings).answers bodies = sent ++ [message] ∧
        Awaits message hand s)
  onward : s.closing? = none → ∀ body ∈ bodies, isExit body = false
  ends : s.closing?.isSome → (∃ earlier last, bodies = earlier ++ [last] ∧
      (∀ body ∈ earlier, isExit body = false) ∧ isExit last = true) ∨
    (∀ body ∈ bodies, isExit body = false) ∧ Frame.NoMore s.isClosed s.unread

variable {settings : Settings} {input : List UInt8} {hand next : Hand} {s after : Server ω}
  {bodies : List (List UInt8)}

/-- No work changes the session but for its pipeline. -/
theorem Work.bare (work : Work outside hand s next after) :
    after.session.bare = s.session.bare := by
  have becomes {p : Pipeline Json} (same : s.session.pipeline? = some p) (other : Pipeline Json) :
      Session.bare { s.session with pipeline? := some other } = s.session.bare := by
    simp [Session.bare, same]
  cases work with
  | place wanted => rw [putPromised, wakeWriter_session]
  | @wake _ p uri generation same =>
      have enlisted (s : Server ω) : s.enlist.session.bare = s.session.bare := by
        unfold enlist
        split
        · rfl
        · rename_i pipeline found
          simp [withPipeline, Session.bare, found]
      rw [enlisted]
      exact becomes same _
  | ask same => exact becomes same _
  | launch same long => exact becomes same _
  | build same short => exact becomes same _
  | keepBack same superseded => exact becomes same _
  | deliver same current => exact becomes same _
  | post room =>
      obtain ⟨-, rfl⟩ := send?_eq_some room
      rw [wakeWriter_session]
  | _ => rfl

namespace Account

/-- What takes no frame keeps the account, if whoever waits goes on waiting or gets a place. -/
theorem same (h : Account settings input hand s bodies)
    (unread : after.unread = s.unread) (isClosed : after.isClosed = s.isClosed)
    (session : after.session.bare = s.session.bare)
    (tally : ∀ w : Rates, w.close = 0 → w.reader = 0 → w.tally next after = w.tally hand s)
    (closing : after.closing? = s.closing?) (destined : s.destined <+: after.destined)
    (awaits : ∀ message, s.closing? = none → Awaits message hand s → Awaits message next after ∨
      after.destined = s.destined ++ [message]) : Account settings input next after bodies := by
  refine ⟨?_, session.trans h.session, fun w => (tally _ rfl rfl).trans (h.tally w), ?_, ?_, ?_⟩
  · rw [isClosed, unread]
    exact h.reads
  · obtain ⟨sent, inside, all | ⟨reading, message, all, waits⟩⟩ := h.order
    · exact ⟨sent, inside.trans destined.sublist, .inl all⟩
    · rcases awaits message reading waits with still | placed
      · exact ⟨sent, inside.trans destined.sublist,
          .inr ⟨closing.trans reading, message, all, still⟩⟩
      · refine ⟨sent ++ [message], ?_, .inl all⟩
        rw [placed]
        exact inside.append_right _
  · rw [closing]
    exact h.onward
  · rw [closing, isClosed, unread]
    exact h.ends

theorem work (h : Account settings input hand s bodies) (lawful : Lawful hand s)
    (reading : Reading hand s) (work : Work outside hand s next after) :
    Account settings input next after bodies := by
  obtain ⟨unread, isClosed, -, closing, -⟩ := work.untouched
  refine h.same unread isClosed work.bare (fun w _ _ => tally_work w lawful work) closing
    work.destined fun message open? waits => ?_
  have goes : s.ending? = none := Option.not_isSome_iff_eq_none.mp fun past => by
    simpa [open?] using reading.ended past
  exact waits.work goes (reading.unsealed open?) work

theorem write (h : Account settings input (.job .write) s bodies)
    (lawful : Lawful (.job .write) s) : Account settings input .free s.write bodies := by
  refine h.same (write_unread s) (write_isClosed s) (by rw [write_session]) ?_ (write_closing? s)
    (write_destined s) fun message _ waits => .inl waits.write
  intro w close _
  have written := server_write w lawful
  simp only [close, Bool.cond_self] at written
  simp only [Rates.tally, Rates.hand, Rates.job]
  omega

/-- The reader has read all there is. -/
theorem resting (h : Account settings input (.go .read) s bodies) :
    Account settings input .free s bodies := by
  refine h.same rfl rfl rfl ?_ rfl List.prefix_rfl fun message _ waits => .inl ?_
  · intro w _ reader
    simp [Rates.tally, Rates.hand, Rates.sequel, reader]
  · refine waits.still (fun own => ?_) (fun _ => id) fun _ => id
    cases own

/-- All answers given at once are about to be written while the reader has the turn. -/
theorem settled (h : Account settings input (.go .read) s bodies) (reading : Reading (.go .read) s) :
    ((Session.start settings).answers bodies).Sublist s.destined := by
  obtain ⟨sent, inside, all | ⟨-, message, -, waits⟩⟩ := h.order
  · rw [all]
    exact inside
  · exact absurd waits (Awaits.notReading reading)

/-- The reading ends. -/
theorem closing (h : Account settings input (.go .read) s bodies) (reading : Reading (.go .read) s)
    (ending : Ending) (why : (∃ earlier last, bodies = earlier ++ [last] ∧
        (∀ body ∈ earlier, isExit body = false) ∧ isExit last = true) ∨
      (∀ body ∈ bodies, isExit body = false) ∧ Frame.NoMore s.isClosed s.unread) :
    Account settings input (.send .close .nothing) (s.closingWith ending) bodies := by
  refine ⟨h.reads, ?_, ?_, ?_, (fun none => nomatch none), fun _ => why⟩
  · rw [← h.session]
    exact Session.withPipeline_bare _ _
  · intro w
    rw [← h.tally w, Rates.tally, Rates.tally, server_closingWith]
    rfl
  · exact ⟨_, h.settled reading, .inl rfl⟩

/-- One more frame is taken: the session is the same as if nothing else had happened meanwhile. -/
theorem taken (h : Account settings input (.go .read) s bodies) (body : List UInt8) :
    (s.session.take body).answer? =
        (((Session.start settings).afterAll bodies).take body).answer? ∧
      (s.session.take body).session.bare =
        ((Session.start settings).afterAll (bodies ++ [body])).bare := by
  obtain ⟨⟨answer, session⟩, -⟩ := Session.take_same h.session body
  rw [Session.afterAll_snoc]
  exact ⟨answer, session⟩

theorem afterFrame_bare (s : Server ω) (session : Session) (rest : List UInt8) :
    (s.afterFrame session rest).session.bare = session.bare := by
  unfold afterFrame enlist
  split
  · rfl
  · rename_i pipeline same
    have same : session.pipeline? = some pipeline := same
    simp [withPipeline, Session.bare, same]

/-- The weight of what the reader leaves in its hand is that of the answer to the frame. -/
theorem afterFrame_tally (h : Account settings input (.go .read) s bodies) (body rest : List UInt8)
    (w : Json → Nat) {next : Hand}
    (own : (Rates.ids w).hand next =
      (s.session.take body).answer?.elim 0 (Rates.ids w).message) :
    (Rates.ids w).tally next (s.afterFrame (s.session.take body).session rest) =
      totalCost w ((bodies ++ [body]).filterMap due?) := by
  have due := due_take (Rates.ids w) s.session body
  have before := h.tally w
  have frame := server_afterFrame (Rates.ids w) s body rest
  have last : totalCost w ([body].filterMap due?) = (Rates.ids w).due (due? body) := by
    cases given : due? body with
    | none => simp [given, totalCost, Rates.due]
    | some id => simp [given, totalCost, Rates.due, Rates.ids]
  rw [List.filterMap_append, totalCost_append, last]
  simp only [Rates.tally, Rates.hand, Rates.sequel] at before
  simp only [Rates.tally, own, frame]
  have reader : (Rates.ids w).reader = 0 := rfl
  omega

/-- A frame is taken that does not end the session. -/
theorem frame (h : Account settings input (.go .read) s bodies) (reading : Reading (.go .read) s)
    {body rest : List UInt8} (open? : s.closing? = none)
    (first : Frame.next s.isClosed s.unread = .frame body rest)
    (goes : (s.session.take body).ends = false) {next : Hand}
    (own : ∀ w, (Rates.ids w).hand next =
      (s.session.take body).answer?.elim 0 (Rates.ids w).message)
    (order : ∀ answer, (s.session.take body).answer? = some answer →
      next.entry? = some (.message answer, .read)) :
    Account settings input next (s.afterFrame (s.session.take body).session rest)
      (bodies ++ [body]) := by
  have still : (s.afterFrame (s.session.take body).session rest).closing? = none :=
    (afterFrame_closing? s _ rest).trans open?
  obtain ⟨answer, session⟩ := h.taken body
  refine ⟨?_, (afterFrame_bare s _ rest).trans session, fun w => h.afterFrame_tally body rest w (own w),
    ?_, ?_, ?_⟩
  · rw [afterFrame_unread, show (s.afterFrame (s.session.take body).session rest).isClosed =
      s.isClosed from enlist_isClosed _]
    exact h.reads.snoc first
  · refine ⟨_, (afterFrame_destined s _ rest).symm ▸ h.settled reading, ?_⟩
    rw [Session.answers_snoc, ← answer]
    cases given : (s.session.take body).answer? with
    | none => exact .inl (List.append_nil _)
    | some message => exact .inr ⟨still, message, rfl, .inl (order message given)⟩
  · intro _ other member
    rcases List.mem_append.mp member with old | new
    · exact h.onward open? other old
    · rw [List.mem_singleton.mp new, ← Session.take_ends s.session, goes]
  · intro past
    simp [still] at past

/-- The frame is taken that ends the session. -/
theorem exit (h : Account settings input (.go .read) s bodies) (reading : Reading (.go .read) s)
    {body rest : List UInt8} (open? : s.closing? = none)
    (first : Frame.next s.isClosed s.unread = .frame body rest)
    (ends : (s.session.take body).ends = true) :
    Account settings input (.send .close .nothing)
      ((s.afterFrame (s.session.take body).session rest).closingWith
        (.ok (s.session.take body).session.shutdownRequested)) (bodies ++ [body]) := by
  obtain ⟨answer, session⟩ := h.taken body
  have silent := Session.take_silent_of_ends ends
  refine ⟨?_, ?_, ?_, ?_, (fun none => nomatch none), fun _ => .inl ⟨bodies, body, rfl,
    h.onward open?, (Session.take_ends s.session body).symm.trans ends⟩⟩
  · change Frame.Reads (s.afterFrame _ rest).isClosed _ _ (s.afterFrame _ rest).unread
    rw [afterFrame_unread, show (s.afterFrame (s.session.take body).session rest).isClosed =
      s.isClosed from enlist_isClosed _]
    exact h.reads.snoc first
  · change (Session.withPipeline (s.afterFrame _ rest).session _).bare = _
    rw [Session.withPipeline_bare, afterFrame_bare]
    exact session
  · intro w
    have tally : (Rates.ids w).tally (.send .close .nothing)
        (s.afterFrame (s.session.take body).session rest) = _ :=
      h.afterFrame_tally body rest w (by rw [silent]; rfl)
    rw [Rates.tally, server_closingWith]
    exact tally
  · refine ⟨(Session.start settings).answers bodies, ?_, .inl ?_⟩
    · change List.Sublist _ (s.afterFrame _ rest).destined
      rw [afterFrame_destined]
      exact h.settled reading
    · rw [Session.answers_snoc, ← answer, silent]
      exact List.append_nil _

theorem step (h : Account settings input hand s bodies) (lawful : Lawful hand s)
    (reading : Reading hand s) (step : Step outside hand s next after) :
    ∃ bodies, Account settings input next after bodies := by
  cases step with
  | work w => exact ⟨bodies, h.work lawful reading w⟩
  | write => exact ⟨bodies, h.write lawful⟩
  | stay past => exact ⟨bodies, h.resting⟩
  | pause open? part => exact ⟨bodies, h.resting⟩
  | stop open? ends =>
      refine ⟨bodies, h.closing reading _ (.inr ⟨h.onward open?, ?_⟩)⟩
      refine ⟨s.isClosed, s.unread, List.prefix_rfl, id, ?_⟩
      unfold inputEnding? at ends
      split at ends
      · rename_i finished
        exact .inl finished
      · rename_i fault broken
        exact .inr ⟨fault, broken⟩
      · exact nomatch ends
  | @exit _ body rest open? first ends => exact ⟨_, h.exit reading open? first ends⟩
  | @pass _ body rest open? first goes silent =>
      refine ⟨_, h.frame reading open? first goes (fun w => ?_) fun answer given => ?_⟩
      · rw [silent]
        rfl
      · exact nomatch silent.symm.trans given
  | @answer _ body rest answer open? first goes replies =>
      refine ⟨_, h.frame reading open? first goes (fun w => ?_) fun other given => ?_⟩
      · rw [replies]
        rfl
      · obtain rfl := Option.some.inj (replies.symm.trans given)
        rfl

/-- Something that asks nobody for an answer happens between the turns. -/
theorem passed (h : Account settings input .free s bodies)
    (unread : after.unread = s.unread) (isClosed : after.isClosed = s.isClosed)
    (session : after.session.bare = s.session.bare)
    (tally : ∀ w : Rates, w.server after = w.server s)
    (closing : after.closing? = s.closing?) (destined : after.destined = s.destined)
    (jobs : s.jobs ⊆ after.jobs) (waiting : s.mailbox.waiting ⊆ after.mailbox.waiting) :
    Account settings input .free after bodies :=
  h.same unread isClosed session (fun w _ _ => congrArg (_ + ·) (tally w)) closing
    (destined ▸ List.prefix_rfl) fun _ _ waits => .inl (waits.still (fun own => nomatch own) jobs waiting)

/-- The reader is told that something has come in. -/
theorem told (h : Account settings input .free s bodies) :
    Account settings input .free s.wakeReader bodies := by
  unfold wakeReader
  split
  · exact h
  · refine h.same rfl rfl rfl ?_ rfl List.prefix_rfl fun _ _ waits => .inl ?_
    · intro w _ reader
      have asked := server_ask w s .read
      simp only [Rates.job, reader] at asked
      simp only [Rates.tally]
      omega
    · refine waits.still (fun own => ?_) (List.subset_append_left _ _) fun _ => id
      cases own

theorem hear (h : Account settings input .free s bodies) (isOpen : s.isClosed = false)
    (bytes : List UInt8) : Account settings (input ++ bytes) .free (s.hear bytes) bodies := by
  refine Account.told ⟨?_, h.session, h.tally, h.order, h.onward, fun past => ?_⟩
  · exact h.reads.heard isOpen bytes
  · exact (h.ends past).imp_right fun ⟨quiet, nothing⟩ => ⟨quiet, nothing.later id bytes⟩

theorem hangUp (h : Account settings input .free s bodies) :
    Account settings input .free s.hangUp bodies := by
  refine Account.told ⟨?_, h.session, h.tally, h.order, h.onward, fun past => ?_⟩
  · exact h.reads.atEnd
  · refine (h.ends past).imp_right fun ⟨quiet, nothing⟩ => ⟨quiet, ?_⟩
    simpa using nothing.later (fun _ => rfl) []

end Account

/-- The account is kept at all times. -/
theorem account_kept (settings : Settings) :
    Kept outside (orderly (ω := ω)) fun input hand s =>
      ∃ bodies, Account settings input hand s bodies where
  step {input hand next s after} known h first := by
    obtain ⟨bodies, h⟩ := h
    exact h.step known.1 known.2 first
  turn {input s place job} _ h _ found := by
    obtain ⟨bodies, h⟩ := h
    exact ⟨bodies, h.same rfl rfl rfl (fun w _ _ => tally_turn w found) rfl List.prefix_rfl
      fun _ _ waits => .inl (waits.turn found)⟩
  hear {input s} _ h _ isOpen bytes := by
    obtain ⟨bodies, h⟩ := h
    exact ⟨bodies, h.hear isOpen bytes⟩
  hangUp {input s} _ h _ := by
    obtain ⟨bodies, h⟩ := h
    exact ⟨bodies, h.hangUp⟩
  rest {input s} _ h _ _ := by
    obtain ⟨bodies, h⟩ := h
    exact ⟨bodies, h.passed rfl rfl rfl (fun w => server_rested w s) rfl rfl
      (List.subset_append_left _ _) fun _ => id⟩
  clock {input s} _ h _ time := by
    obtain ⟨bodies, h⟩ := h
    have session : (s.withTime time).enlist.session.bare = s.session.bare :=
      (Account.afterFrame_bare (s.withTime time) (s.withTime time).session s.unread).trans
        (Session.withPipeline_bare _ _)
    refine ⟨bodies, h.passed (enlist_unread _) (enlist_isClosed _) session
      (fun w => server_clock w s time) (enlist_closing? _) (enlist_destined _)
      (Awaits.enlist_jobs_subset (s.withTime time)) ?_⟩
    rw [enlist_mailbox]
    exact fun _ => id
  late {input s} _ h _ time := by
    obtain ⟨bodies, h⟩ := h
    exact ⟨bodies, h.passed rfl rfl (Session.withPipeline_bare _ _)
      (fun w => server_withTime w s time) rfl rfl (fun _ => id) fun _ => id⟩
  count {input s} _ h _ := by
    obtain ⟨bodies, h⟩ := h
    exact ⟨bodies, h.passed rfl rfl rfl (fun _ => rfl) rfl rfl (fun _ => id) fun _ => id⟩
  alter {input s} _ h _ := by
    obtain ⟨bodies, h⟩ := h
    exact ⟨bodies, h.passed rfl rfl rfl (fun _ => rfl) rfl rfl (fun _ => id) fun _ => id⟩

end Server

end AsmDiagnostics
