import AsmDiagnostics.Proofs.Server.LifeCycle
import AsmDiagnostics.Proofs.Session.Dismissal

/-!
# How a session ends

A session ends with the first notification that the editor leaves, with the end of the input between
two frames, or with a fault in the frames, whichever comes first.  It ends with an error in the last
case; else it tells whether a request to shut down came behind an introduction that was granted.
-/

namespace AsmDiagnostics

open Message

namespace Frame

namespace Reads

variable {closed : Bool} {input rest behind : List UInt8} {bodies others : List (List UInt8)}

/-- Of two ways to read some frames off an input one goes on where the other stops. -/
theorem linear (h : Reads closed input bodies rest) (h' : Reads closed input others behind) :
    (∃ more, others = bodies ++ more ∧ Reads closed rest more behind) ∨
      ∃ more, bodies = others ++ more ∧ Reads closed behind more rest := by
  induction h generalizing others with
  | none input => exact .inl ⟨others, rfl, h'⟩
  | frame first later ih =>
      cases h' with
      | none => exact .inr ⟨_, rfl, .frame first later⟩
      | frame again other =>
          obtain ⟨rfl, rfl⟩ := Next.frame.inj (first.symm.trans again)
          exact (ih other).imp (fun ⟨more, same, reads⟩ => ⟨more, by rw [same]; rfl, reads⟩)
            fun ⟨more, same, reads⟩ => ⟨more, by rw [same]; rfl, reads⟩

end Reads

/-- The frames at the front come to an end, whatever bytes follow. -/
inductive Settles : List UInt8 → Prop where
  | exit {input body rest : List UInt8} (first : next false input = .frame body rest)
      (leaves : isExit body = true) : Settles input
  | broken {input : List UInt8} {fault : Fault} (broken : next false input = .broken fault) :
      Settles input
  | frame {input body rest : List UInt8} (first : next false input = .frame body rest)
      (others : Settles rest) : Settles input

namespace Settles

theorem exits {input rest last : List UInt8} {earlier : List (List UInt8)}
    (h : Reads false input (earlier ++ [last]) rest) (leaves : isExit last = true) :
    Settles input := by
  induction earlier generalizing input with
  | nil =>
      cases h with
      | frame first others => exact .exit first leaves
  | cons body earlier ih =>
      cases h with
      | frame first others => exact .frame first (ih others)

theorem breaks {input rest : List UInt8} {bodies : List (List UInt8)} {fault : Fault}
    (h : Reads false input bodies rest) (broken : next false rest = .broken fault) :
    Settles input := by
  induction h with
  | none input => exact .broken broken
  | frame first others ih => exact .frame first (ih broken)

variable {closed : Bool} {input rest : List UInt8} {bodies : List (List UInt8)}

theorem append (h : Settles input) (more : List UInt8) : Settles (input ++ more) := by
  induction h with
  | exit first leaves => exact .exit (next_append first false more) leaves
  | broken broken => exact .broken (next_broken_append broken false more)
  | frame first others ih => exact .frame (next_append first false more) ih

/-- The end stands behind a first frame that is not the last one. -/
theorem behind (h : Settles input) {body : List UInt8} (first : next closed input = .frame body rest)
    (onward : isExit body = false) : Settles rest := by
  cases h with
  | exit found leaves =>
      obtain ⟨rfl, -⟩ := Next.frame.inj ((next_close found nofun closed).symm.trans first)
      exact nomatch leaves.symm.trans onward
  | broken broken => exact nomatch (next_close broken nofun closed).symm.trans first
  | frame found others =>
      obtain ⟨-, rfl⟩ := Next.frame.inj ((next_close found nofun closed).symm.trans first)
      exact others

theorem next_ne_incomplete (h : Settles input) : next closed input ≠ .incomplete := by
  intro part
  cases h with
  | exit first leaves => exact nomatch (next_close first nofun closed).symm.trans part
  | broken broken => exact nomatch (next_close broken nofun closed).symm.trans part
  | frame first others => exact nomatch (next_close first nofun closed).symm.trans part

theorem behindAll (h : Settles input) (reads : Reads closed input bodies rest)
    (onward : ∀ body ∈ bodies, isExit body = false) : Settles rest := by
  induction reads with
  | none input => exact h
  | frame first others ih =>
      rw [List.forall_mem_cons] at onward
      exact ih (h.behind first onward.1) onward.2

end Settles

end Frame

namespace Server

variable {ω : Type} {outside : Outside ω}

/-- How a session over an input ends: the frames that it takes, the bytes that are left behind them,
and its ending. -/
inductive Concludes (settings : Settings) (closed : Bool) (input : List UInt8) :
    List (List UInt8) → List UInt8 → Ending → Prop where
  /-- The editor leaves. -/
  | exit {earlier : List (List UInt8)} {last rest : List UInt8} {asked : Bool}
      (reads : Frame.Reads closed input (earlier ++ [last]) rest)
      (onward : ∀ body ∈ earlier, isExit body = false) (leaves : isExit last = true)
      (told : asked = true ↔ Session.Dismissed settings (earlier ++ [last])) :
      Concludes settings closed input (earlier ++ [last]) rest (.ok asked)
  /-- The input ends between two frames. -/
  | ended {bodies : List (List UInt8)} {rest : List UInt8} {asked : Bool}
      (reads : Frame.Reads closed input bodies rest)
      (onward : ∀ body ∈ bodies, isExit body = false)
      (finished : Frame.next closed rest = .finished)
      (told : asked = true ↔ Session.Dismissed settings bodies) :
      Concludes settings closed input bodies rest (.ok asked)
  /-- There is a fault in the frames. -/
  | broken {bodies : List (List UInt8)} {rest : List UInt8} {fault : Frame.Fault}
      (reads : Frame.Reads closed input bodies rest)
      (onward : ∀ body ∈ bodies, isExit body = false)
      (broken : Frame.next closed rest = .broken fault) :
      Concludes settings closed input bodies rest (.error fault)

namespace Concludes

variable {settings : Settings} {closed : Bool} {input rest behind : List UInt8}
  {bodies others : List (List UInt8)} {ending other : Ending}

theorem reads (h : Concludes settings closed input bodies rest ending) :
    Frame.Reads closed input bodies rest := by
  cases h <;> assumption

/-- What comes behind the end changes nothing. -/
theorem later (h : Concludes settings false input bodies rest ending) (more : List UInt8) :
    Concludes settings closed (input ++ more) bodies (rest ++ more) ending := by
  cases h with
  | exit reads onward leaves told => exact .exit (reads.append closed more) onward leaves told
  | ended reads onward finished told => exact absurd finished (Frame.next_open_ne_finished rest)
  | broken reads onward broken =>
      exact .broken (reads.append closed more) onward (Frame.next_broken_append broken closed more)

/-- It ends so whatever may still come in. -/
theorem whole (h : Concludes settings closed input bodies rest ending) {more : List UInt8}
    (last : closed = true → more = []) :
    Concludes settings true (input ++ more) bodies (rest ++ more) ending := by
  cases closed with
  | false => exact h.later more
  | true => simpa [last rfl] using h

theorem atEnd (h : Concludes settings closed input bodies rest ending) :
    Concludes settings true input bodies rest ending := by
  have last : closed = true → ([] : List UInt8) = [] := fun _ => rfl
  simpa using h.whole last

/-- No frame is taken behind the end. -/
theorem nothing_behind (h : Concludes settings closed input bodies rest ending)
    (h' : Concludes settings closed input (bodies ++ others) behind other)
    (reads : Frame.Reads closed rest others behind) : others = [] := by
  cases reads with
  | none => rfl
  | @frame _ body mid _ more first later =>
      cases h with
      | ended reads onward finished told => exact nomatch finished.symm.trans first
      | broken reads onward broken => exact nomatch broken.symm.trans first
      | @exit earlier last _ asked reads onward leaves told =>
          have passed : isExit last = false := by
            generalize all : earlier ++ [last] ++ body :: more = whole at h'
            cases h' with
            | ended reads onward finished told => exact onward last (by simp [← all])
            | broken reads onward broken => exact onward last (by simp [← all])
            | @exit front final _ asked reads onward leaves told =>
                have inside : earlier ++ [last] ++ (body :: more).dropLast = front := by
                  rw [← List.dropLast_append_of_ne_nil (List.cons_ne_nil body more), all,
                    List.dropLast_concat]
                exact onward last (by simp [← inside])
          exact nomatch leaves.symm.trans passed

theorem told {asked : Bool} (h : Concludes settings closed input bodies rest (.ok asked)) :
    asked = true ↔ Session.Dismissed settings bodies := by
  cases h <;> assumption

theorem proper {asked : Bool} (h : Concludes settings closed input bodies rest (.ok asked)) :
    (∃ body ∈ bodies, isExit body = true) ∨ Frame.next closed rest = .finished := by
  cases h with
  | exit reads onward leaves told => exact .inl ⟨_, List.mem_concat_self, leaves⟩
  | ended reads onward finished told => exact .inr finished

theorem faulty {fault : Frame.Fault}
    (h : Concludes settings closed input bodies rest (.error fault)) :
    (∀ body ∈ bodies, isExit body = false) ∧ Frame.next closed rest = .broken fault := by
  cases h with
  | broken reads onward broken => exact ⟨onward, broken⟩

/-- An input that ends a session with an error does not end one properly. -/
theorem not_both {asked : Bool} {fault : Frame.Fault}
    (h : Concludes settings closed input bodies rest (.ok asked))
    (h' : Concludes settings closed input bodies rest (.error fault)) : False := by
  obtain ⟨onward, broken⟩ := h'.faulty
  rcases h.proper with ⟨body, member, leaves⟩ | finished
  · exact nomatch leaves.symm.trans (onward body member)
  · exact nomatch finished.symm.trans broken

/-- A session over an input ends in one way only. -/
theorem unique (h : Concludes settings closed input bodies rest ending)
    (h' : Concludes settings closed input others behind other) :
    bodies = others ∧ rest = behind ∧ ending = other := by
  have same : bodies = others ∧ rest = behind := by
    rcases h.reads.linear h'.reads with ⟨more, rfl, reads⟩ | ⟨more, rfl, reads⟩
    · obtain rfl := h.nothing_behind h' reads
      cases reads
      exact ⟨(List.append_nil _).symm, rfl⟩
    · obtain rfl := h'.nothing_behind h reads
      cases reads
      exact ⟨List.append_nil _, rfl⟩
  obtain ⟨rfl, rfl⟩ := same
  refine ⟨rfl, rfl, ?_⟩
  cases ending with
  | ok asked =>
      cases other with
      | ok again => exact congrArg _ (Bool.eq_iff_iff.mpr (h.told.trans h'.told.symm))
      | error fault => exact (h.not_both h').elim
  | error fault =>
      cases other with
      | ok asked => exact (h'.not_both h).elim
      | error again => exact congrArg _ (Frame.Next.broken.inj (h.faulty.2.symm.trans h'.faulty.2))

theorem settles (h : Concludes settings false input bodies rest ending) : Frame.Settles input := by
  cases h with
  | exit reads onward leaves told => exact .exits reads leaves
  | ended reads onward finished told => exact absurd finished (Frame.next_open_ne_finished rest)
  | broken reads onward broken => exact .breaks reads broken

end Concludes

/-- The editor introduces itself, asks to shut down, and leaves. -/
example : Concludes .default false
    ([Editor.introduction, Editor.request 2 "shutdown" .null, Editor.notice "exit" .null].flatMap
      Frame.write)
    [Editor.introduction, Editor.request 2 "shutdown" .null, Editor.notice "exit" .null] []
    (.ok true) := by
  have reads := @Frame.reads_write false
    [Editor.introduction, Editor.request 2 "shutdown" .null, Editor.notice "exit" .null]
    (by decide +kernel) []
  rw [List.append_nil] at reads
  refine @Concludes.exit _ _ _ [_, _] _ _ _ reads (by decide +kernel) (by decide +kernel) ?_
  rw [Session.dismissed_iff]
  decide +kernel

/-- The server ends as its input does. -/
structure Concluded (settings : Settings) (input : List UInt8) (s : Server ω) : Prop where
  closing : ∀ ending, s.closing? = some ending →
    ∃ bodies, Concludes settings s.isClosed input bodies s.unread ending
  ending : s.ending?.isSome → s.ending? = s.closing?

namespace Concluded

variable {settings : Settings} {input : List UInt8} {hand next : Hand} {s after : Server ω}
  {bodies : List (List UInt8)}

theorem same (h : Concluded settings input s) (unread : after.unread = s.unread)
    (isClosed : after.isClosed = s.isClosed) (closing : after.closing? = s.closing?)
    (ending : after.ending? = s.ending?) : Concluded settings input after := by
  refine ⟨?_, ?_⟩
  · rw [unread, isClosed, closing]
    exact h.closing
  · rw [closing, ending]
    exact h.ending

theorem write (h : Concluded settings input s) : Concluded settings input s.write := by
  refine ⟨?_, ?_⟩
  · rw [write_unread, write_isClosed, write_closing?]
    exact h.closing
  · rw [write_ending?, write_closing?]
    split
    · exact fun _ => rfl
    · exact h.ending

/-- A server that reads on has not ended. -/
theorem reading (reading : s.closing? = none) (goes : s.ending? = none) :
    Concluded settings input s := by
  refine ⟨fun ending closing => ?_, fun past => ?_⟩
  · exact nomatch reading.symm.trans closing
  · simp [goes] at past

/-- There is no frame behind those that were read. -/
theorem stop (account : Account settings input (.go .read) s bodies) (open? : s.closing? = none)
    (goes : s.ending? = none) {ending : Ending} (ends : s.inputEnding? = some ending) :
    Concluded settings input (s.closingWith ending) := by
  have told : s.session.shutdownRequested = true ↔ Session.Dismissed settings bodies :=
    Session.shutdownRequested_iff account.session
  refine ⟨fun last closing => ⟨bodies, ?_⟩, fun past => ?_⟩
  · obtain rfl : ending = last := Option.some.inj closing
    unfold inputEnding? at ends
    split at ends
    · rename_i finished
      obtain rfl := Option.some.inj ends
      exact .ended account.reads (account.onward open?) finished told
    · rename_i fault broken
      obtain rfl := Option.some.inj ends
      exact .broken account.reads (account.onward open?) broken
    · exact nomatch ends
  · exact absurd past (by simp [closingWith, goes])

/-- The frame is taken with which the editor leaves. -/
theorem exit (account : Account settings input (.go .read) s bodies) (open? : s.closing? = none)
    (goes : s.ending? = none) {body rest : List UInt8}
    (first : Frame.next s.isClosed s.unread = .frame body rest)
    (ends : (s.session.take body).ends = true) :
    Concluded settings input ((s.afterFrame (s.session.take body).session rest).closingWith
      (.ok (s.session.take body).session.shutdownRequested)) := by
  have told : (s.session.take body).session.shutdownRequested = true ↔
      Session.Dismissed settings (bodies ++ [body]) :=
    Session.shutdownRequested_iff (account.taken body).2
  refine ⟨fun last closing => ⟨bodies ++ [body], ?_⟩, fun past => ?_⟩
  · obtain rfl := Option.some.inj closing
    change Concludes settings (s.afterFrame _ rest).isClosed input _ (s.afterFrame _ rest).unread _
    rw [afterFrame_unread, show (s.afterFrame (s.session.take body).session rest).isClosed =
      s.isClosed from enlist_isClosed _]
    refine .exit (account.reads.snoc first) (account.onward open?) ?_ told
    rw [← Session.take_ends s.session, ends]
  · change (s.afterFrame _ rest).ending?.isSome at past
    rw [afterFrame_ending?, goes] at past
    cases past

theorem step (h : Concluded settings input s) (account : Account settings input hand s bodies)
    (reading : Reading hand s) (step : Step outside hand s next after) :
    Concluded settings input after := by
  have goes (open? : s.closing? = none) : s.ending? = none :=
    Option.not_isSome_iff_eq_none.mp fun past => by simpa [open?] using reading.ended past
  have onward (body rest : List UInt8) (open? : s.closing? = none) :
      Concluded settings input (s.afterFrame (s.session.take body).session rest) :=
    .reading ((afterFrame_closing? s _ rest).trans open?)
      ((afterFrame_ending? s _ rest).trans (goes open?))
  cases step with
  | work w =>
      obtain ⟨unread, isClosed, -, closing, ending⟩ := w.untouched
      exact h.same unread isClosed closing ending
  | write => exact h.write
  | stay past => exact h
  | pause open? part => exact h
  | stop open? ends => exact stop account open? (goes open?) ends
  | exit open? first ends => exact exit account open? (goes open?) first ends
  | pass open? first runs silent => exact onward _ _ open?
  | answer open? first runs replies => exact onward _ _ open?

end Concluded

/-- At all times the server ends as its input does, if it has ended. -/
theorem concluded_kept (settings : Settings) :
    Kept outside (accounted (ω := ω) settings) fun input _ s => Concluded settings input s where
  step known h first := by
    obtain ⟨⟨-, reading⟩, bodies, account⟩ := known
    exact h.step account reading first
  turn _ h _ _ := h.same rfl rfl rfl rfl
  hear {input s} _ h _ isOpen bytes := by
    have heard : Concluded settings (input ++ bytes) { s with unread := s.unread ++ bytes } := by
      refine ⟨fun ending closing => ?_, h.ending⟩
      obtain ⟨bodies, concludes⟩ := h.closing ending closing
      exact ⟨bodies, Concludes.later (isOpen ▸ concludes) bytes⟩
    exact heard.same (wakeReader_unread _) (wakeReader_isClosed _) (wakeReader_closing? _)
      (wakeReader_ending? _)
  hangUp {input s} _ h _ := by
    have heard : Concluded settings input { s with isClosed := true } := by
      refine ⟨fun ending closing => ?_, h.ending⟩
      obtain ⟨bodies, concludes⟩ := h.closing ending closing
      exact ⟨bodies, concludes.atEnd⟩
    exact heard.same (wakeReader_unread _) (wakeReader_isClosed _) (wakeReader_closing? _)
      (wakeReader_ending? _)
  rest _ h _ _ := h.same rfl rfl rfl rfl
  clock _ h _ _ := h.same (enlist_unread _) (enlist_isClosed _) (enlist_closing? _) (enlist_ending? _)
  late _ h _ _ := h.same rfl rfl rfl rfl
  count _ h _ := h.same rfl rfl rfl rfl
  alter _ h _ := h.same rfl rfl rfl rfl

theorem concluded_play (outside : Outside ω) (settings : Settings) (world : ω)
    (moves : List (Move ω)) :
    Concluded settings ((start settings world).input outside moves)
      ((start settings world).play outside moves) := by
  have known : Kept outside .any (accounted (ω := ω) settings) :=
    orderly_kept.and (account_kept settings)
  have first : accounted settings [] .free (start settings world) :=
    ⟨start_orderly settings world, [], start_account settings world⟩
  exact ((known.and (concluded_kept settings)).story ⟨first, .reading rfl rfl⟩ moves).2

/-! ## The end comes -/

section Rest

variable {settings : Settings} {input rest : List UInt8} {s : Server ω}
  {bodies : List (List UInt8)} {ending : Ending}

/-- A server that goes on rests only before the rest of a frame. -/
theorem Sound.pausing (h : Sound settings input .free s) (goes : s.ending? = none)
    (rests : s.next?.isNone) :
    s.closing? = none ∧ Frame.next s.isClosed s.unread = .incomplete := by
  obtain ⟨-, -, -, closing, part⟩ := (h.housed goes).rest h.reading goes rests
  exact ⟨closing, part⟩

theorem Sound.ended_of_isClosed (h : Sound settings input .free s) (isClosed : s.isClosed = true)
    (rests : s.next?.isNone) : s.ending?.isSome := by
  by_contra goes
  obtain ⟨-, part⟩ := h.pausing (Option.not_isSome_iff_eq_none.mp goes) rests
  exact Frame.next_closed_ne_incomplete s.unread (isClosed ▸ part)

theorem Sound.ended_of_concludes (h : Sound settings input .free s)
    (concludes : Concludes settings false input bodies rest ending) (rests : s.next?.isNone) :
    s.ending?.isSome := by
  by_contra goes
  obtain ⟨closing, part⟩ := h.pausing (Option.not_isSome_iff_eq_none.mp goes) rests
  obtain ⟨taken, account⟩ := h.account
  have front := concludes.settles.behindAll account.reads (account.onward closing)
  exact front.next_ne_incomplete part

end Rest

/-- An input that has come to its end does not go on. -/
theorem isClosed_kept : Kept outside .any fun _ _ (s : Server ω) => s.isClosed = true where
  step _ h first := by
    cases first with
    | work w => exact w.untouched.2.1.trans h
    | write => exact (write_isClosed _).trans h
    | stay past => exact h
    | pause open? part => exact h
    | stop open? ends => exact h
    | exit open? first ends => exact (enlist_isClosed _).trans h
    | pass open? first goes silent => exact (enlist_isClosed _).trans h
    | answer open? first goes replies => exact (enlist_isClosed _).trans h
  turn _ h _ _ := h
  hear _ h _ isOpen _ := nomatch h.symm.trans isOpen
  hangUp _ _ _ := wakeReader_isClosed _
  rest _ h _ _ := h
  clock _ h _ _ := (enlist_isClosed _).trans h
  late _ h _ _ := h
  count _ h _ := h
  alter _ h _ := h

/-- A whole session is at rest behind the end of its input, unless it has ended before. -/
theorem run_isClosed (outside : Outside ω) (settings : Settings) (world : ω) (input : List UInt8) :
    (run outside settings world input).ending?.isSome ∨
      (run outside settings world input).isClosed = true ∧
        (run outside settings world input).next?.isNone := by
  unfold run
  generalize receive outside input (start settings world) = s
  cases ending : s.ending? with
  | some how =>
      rw [endInput, unlessEnded_of_over (by simp [ending])]
      exact .inl (by simp [ending])
  | none =>
      rw [endInput, unlessEnded_of_goes ending]
      refine .inr ⟨?_, proceed_rests _ _⟩
      obtain ⟨moves, played, -⟩ := @proceed_follows _ outside (fun _ _ => false)
        (Server.ask { s with isClosed := true, turns := 0 } .read)
      have kept : Kept outside .any fun _ _ (s : Server ω) => s.isClosed = true := isClosed_kept
      unfold settle
      rw [← played]
      exact @Kept.play _ _ _ kept [] _ rfl moves

/-- A server ends as the input does that comes in. -/
structure EndsAsInput (settings : Settings) (input : List UInt8) (s : Server ω) : Prop where
  /-- The frames at the front are taken one after another.  As long as more are read the editor does
  not leave with any of them, and when no more are read the input has come to an end with them. -/
  frames : ∃ bodies, Frame.Reads s.isClosed input bodies s.unread ∧
    s.session.bare = ((Session.start settings).afterAll bodies).bare ∧
    (s.closing? = none → ∀ body ∈ bodies, isExit body = false) ∧
    ∀ ending, s.closing? = some ending →
      Concludes settings s.isClosed input bodies s.unread ending
  /-- When the server has ended, the whole input ends in this way and in no other, whatever may come
  in behind. -/
  outcome : ∀ ending, s.ending? = some ending → ∀ more, (s.isClosed = true → more = []) →
    ∀ other, (∃ bodies rest, Concludes settings true (input ++ more) bodies rest other) ↔
      other = ending
  /-- When the end has come in and nobody asks for a turn any more, the server has ended. -/
  comes : (s.isClosed = true ∨ ∃ bodies rest ending,
    Concludes settings false input bodies rest ending) → s.next?.isNone → s.ending?.isSome

theorem endsAsInput_play (outside : Outside ω) (settings : Settings) (world : ω)
    (moves : List (Move ω)) :
    EndsAsInput settings ((start settings world).input outside moves)
      ((start settings world).play outside moves) := by
  have sound := sound_play outside settings world moves
  have concluded := concluded_play outside settings world moves
  obtain ⟨taken, account⟩ := sound.account
  refine ⟨⟨taken, account.reads, account.session, account.onward, fun ending closing => ?_⟩, ?_, ?_⟩
  · obtain ⟨bodies, concludes⟩ := concluded.closing ending closing
    obtain rfl := concludes.reads.unique account.reads
    exact concludes
  · intro ending ended more last other
    have closing : _ = some ending := (concluded.ending (by simp [ended])).symm.trans ended
    obtain ⟨bodies, concludes⟩ := concluded.closing ending closing
    have whole := concludes.whole last
    constructor
    · rintro ⟨others, rest, again⟩
      exact (again.unique whole).2.2
    · rintro rfl
      exact ⟨bodies, _, whole⟩
  · rintro (isClosed | ⟨bodies, rest, ending, concludes⟩) rests
    · exact sound.ended_of_isClosed isClosed rests
    · exact sound.ended_of_concludes concludes rests

/-- When the end has come in, some turns bring the server to its end. -/
theorem settle_ends (outside : Outside ω) {settings : Settings} {world : ω} {moves : List (Move ω)}
    (past : ((start settings world).play outside moves).isClosed = true ∨ ∃ bodies rest ending,
      Concludes settings false ((start settings world).input outside moves) bodies rest ending) :
    (((start settings world).play outside moves).settle outside).ending?.isSome := by
  have settles : Follows outside ((start settings world).play outside moves)
      (((start settings world).play outside moves).settle outside) := proceed_follows _ _
  obtain ⟨others, settled, nothing⟩ := settles
  have ends := endsAsInput_play outside settings world (moves ++ others)
  rw [play_append, input_append, nothing, List.append_nil, settled] at ends
  refine ends.comes (past.imp_left fun isClosed => ?_) (proceed_rests _ _)
  have kept : Kept outside .any fun _ _ (s : Server ω) => s.isClosed = true := isClosed_kept
  rw [← settled]
  exact @Kept.play _ _ _ kept [] _ isClosed others

/-- A whole session over an input ends, and as the input does. -/
theorem run_ends (outside : Outside ω) (settings : Settings) (world : ω) (input : List UInt8) :
    ∃ ending, (run outside settings world input).ending? = some ending ∧
      ∀ other, (∃ bodies rest, Concludes settings true input bodies rest other) ↔
        other = ending := by
  obtain ⟨moves, played, whole⟩ := run_story outside settings world input
  have ends := endsAsInput_play outside settings world moves
  rw [played, whole] at ends
  have past : (run outside settings world input).ending?.isSome := by
    rcases run_isClosed outside settings world input with past | ⟨isClosed, rest⟩
    · exact past
    · exact ends.comes (.inl isClosed) rest
  obtain ⟨ending, ended⟩ := Option.isSome_iff_exists.mp past
  have only := ends.outcome ending ended [] fun _ => rfl
  rw [List.append_nil] at only
  exact ⟨ending, ended, only⟩

end Server

end AsmDiagnostics
