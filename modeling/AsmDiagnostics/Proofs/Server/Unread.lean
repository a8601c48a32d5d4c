import AsmDiagnostics.Proofs.Server.Ending

/-!
# What stays unread

Behind a notification that the editor leaves, or behind a fault in the frames, nothing is read.  A
server before which such an end stands does the same, at the same time, whatever stands behind it.
-/

namespace AsmDiagnostics

namespace Server

variable {ω : Type} {outside : Outside ω}

def more (s : Server ω) (bytes : List UInt8) : Server ω := { s with unread := s.unread ++ bytes }

section More

variable (s : Server ω) (bytes : List UInt8)

theorem more_session : (s.more bytes).session = s.session := rfl

theorem more_world : (s.more bytes).world = s.world := rfl

theorem more_isClosed : (s.more bytes).isClosed = s.isClosed := rfl

theorem more_mailbox : (s.more bytes).mailbox = s.mailbox := rfl

theorem more_jobs : (s.more bytes).jobs = s.jobs := rfl

theorem more_turns : (s.more bytes).turns = s.turns := rfl

theorem more_writer : (s.more bytes).writer = s.writer := rfl

theorem more_closing? : (s.more bytes).closing? = s.closing? := rfl

theorem more_hasEnded : (s.more bytes).hasEnded = s.hasEnded := rfl

theorem more_readerWaits : (s.more bytes).readerWaits = s.readerWaits := rfl

theorem more_isStale (sequel : Sequel) : (s.more bytes).isStale sequel = s.isStale sequel := by
  cases sequel <;> rfl

theorem more_more (behind : List UInt8) :
    (s.more bytes).more behind = s.more (bytes ++ behind) := by
  simp [more, List.append_assoc]

theorem enlist_more : (s.more bytes).enlist = s.enlist.more bytes := by
  unfold enlist
  rw [more_session]
  cases s.session.pipeline? <;> rfl

theorem wakeWriter_more : (s.more bytes).wakeWriter = s.wakeWriter.more bytes := by
  unfold wakeWriter
  rw [more_writer]
  split <;> rfl

theorem wakeReader_more : (s.more bytes).wakeReader = s.wakeReader.more bytes := by
  unfold wakeReader
  rw [more_readerWaits]
  split <;> rfl

/-- The reader is told, and the bytes stand behind what is unread. -/
theorem hear_eq : s.hear bytes = s.wakeReader.more bytes := wakeReader_more s bytes

theorem send?_more (letter : Letter) :
    (s.more bytes).send? letter = (s.send? letter).map fun sent => sent.more bytes := by
  unfold send?
  rw [more_mailbox]
  cases s.mailbox.offer? letter with
  | none => rfl
  | some mailbox => exact congrArg some (wakeWriter_more { s with mailbox := mailbox } bytes)

theorem sendThen_more (letter : Letter) (sequel : Sequel) {goOn : Server ω → Server ω}
    (h : ∀ sent : Server ω, sent.unread = s.unread →
      goOn (sent.more bytes) = (goOn sent).more bytes) :
    (s.more bytes).sendThen letter sequel goOn = (s.sendThen letter sequel goOn).more bytes := by
  unfold sendThen
  rw [send?_more]
  cases room : s.send? letter with
  | none => rfl
  | some sent => exact h sent (send?_unread room)

theorem finish_more (ending : Ending) :
    (s.more bytes).finish ending = (s.finish ending).more bytes :=
  sendThen_more (s.closingWith ending) bytes .close .nothing fun _ _ => rfl

theorem walk_more (leg : Leg Json ω) {goOn : Server ω → Pause Json → Server ω}
    (h : ∀ pause (sent : Server ω), goOn (sent.more bytes) pause = (goOn sent pause).more bytes) :
    (s.more bytes).walk leg goOn = (s.walk leg goOn).more bytes := by
  have onward (sent : Server ω) : leg.pause?.elim (sent.more bytes) (goOn (sent.more bytes)) =
      (leg.pause?.elim sent (goOn sent)).more bytes := by
    cases leg.pause? with
    | none => rfl
    | some pause => exact h pause sent
  unfold walk
  dsimp only
  split
  · exact onward (s.afterLeg leg)
  · exact sendThen_more (s.afterLeg leg) bytes _ _ fun sent _ => onward sent

theorem resumeThen_more {goOn : Server ω → Pause Json → Server ω}
    (h : ∀ pause (sent : Server ω), goOn (sent.more bytes) pause = (goOn sent pause).more bytes)
    (pause : Pause Json) :
    (s.more bytes).resumeThen outside goOn pause = (s.resumeThen outside goOn pause).more bytes := by
  unfold resumeThen
  rw [more_session, more_world]
  cases s.session.pipeline? with
  | none => rfl
  | some pipeline => exact walk_more s bytes _ h

theorem resume_more (pause : Pause Json) :
    (s.more bytes).resume outside pause = (s.resume outside pause).more bytes :=
  resumeThen_more s bytes
    (fun next sent => resumeThen_more sent bytes (fun _ _ => rfl) next) pause

theorem performTask_more (task : Task Json) :
    (s.more bytes).performTask outside task = (s.performTask outside task).more bytes := by
  unfold performTask
  rw [more_session, more_world]
  cases s.session.pipeline? with
  | none => rfl
  | some pipeline =>
      have walked : (s.more bytes).walk (pipeline.legOf s.world task) (resume outside) =
          (s.walk (pipeline.legOf s.world task) (resume outside)).more bytes :=
        walk_more s bytes _ fun pause sent => resume_more sent bytes pause
      dsimp only
      split
      · rfl
      · rw [walked]
        split
        · exact enlist_more _ bytes
        · rfl

theorem write_more : (s.more bytes).write = s.write.more bytes := by
  unfold write more
  dsimp only
  split <;> rfl

theorem freePlaces_more (count : Nat) :
    (s.more bytes).freePlaces count = (s.freePlaces count).more bytes := rfl

theorem putPromised_more (letter : Letter) :
    (s.more bytes).putPromised letter = (s.putPromised letter).more bytes :=
  wakeWriter_more { s with mailbox := s.mailbox.put letter } bytes

end More

/-! ## The reader -/

/-- The end of the reading stands before the server, or lies behind it. -/
def Heedless (s : Server ω) : Prop := s.closing?.isSome ∨ Frame.Settles s.unread

def proceedWith (s : Server ω) (turn : Turn) : Server ω :=
  if turn.ends then s.finish (.ok turn.session.shutdownRequested)
  else
    match turn.answer? with
    | none => s.readFrames
    | some answer => s.sendThen (.message answer) .read readFrames

theorem readFrames_frame {s : Server ω} {body rest : List UInt8}
    (first : Frame.next s.isClosed s.unread = .frame body rest) :
    s.readFrames =
      (s.afterFrame (s.session.take body).session rest).proceedWith (s.session.take body) := by
  fun_cases readFrames s with
  | case1 part => exact nomatch part.symm.trans first
  | case2 finished => exact nomatch finished.symm.trans first
  | case3 fault broken => exact nomatch broken.symm.trans first
  | case4 other behind found turn next ends =>
      obtain ⟨rfl, rfl⟩ := Frame.Next.frame.inj (found.symm.trans first)
      exact (if_pos ends).symm
  | case5 other behind found turn next goes silent =>
      obtain ⟨rfl, rfl⟩ := Frame.Next.frame.inj (found.symm.trans first)
      change next.readFrames = next.proceedWith turn
      rw [proceedWith, if_neg goes, silent]
  | case6 other behind found turn next goes answer replies sent room =>
      obtain ⟨rfl, rfl⟩ := Frame.Next.frame.inj (found.symm.trans first)
      change sent.readFrames = next.proceedWith turn
      rw [proceedWith, if_neg goes, replies]
      simp only [sendThen, room]
  | case7 other behind found turn next goes answer replies full =>
      obtain ⟨rfl, rfl⟩ := Frame.Next.frame.inj (found.symm.trans first)
      change next.awaitPlace (.message answer) .read = next.proceedWith turn
      rw [proceedWith, if_neg goes, replies]
      simp only [sendThen, full]

theorem readFrames_broken {s : Server ω} {fault : Frame.Fault}
    (broken : Frame.next s.isClosed s.unread = .broken fault) :
    s.readFrames = s.finish (.error fault) := by
  fun_cases readFrames s with
  | case1 part => exact nomatch part.symm.trans broken
  | case2 finished => exact nomatch finished.symm.trans broken
  | case3 other found =>
      obtain rfl := Frame.Next.broken.inj (found.symm.trans broken)
      rfl
  | case4 body rest found => exact nomatch found.symm.trans broken
  | case5 body rest found => exact nomatch found.symm.trans broken
  | case6 body rest found => exact nomatch found.symm.trans broken
  | case7 body rest found => exact nomatch found.symm.trans broken

/-- Behind the first frame, more bytes stand behind the rest. -/
theorem readFrames_frame_more {s : Server ω} {body rest : List UInt8}
    (first : Frame.next false s.unread = .frame body rest) (bytes : List UInt8) :
    s.readFrames =
        (s.afterFrame (s.session.take body).session rest).proceedWith (s.session.take body) ∧
      (s.more bytes).readFrames =
        ((s.afterFrame (s.session.take body).session rest).more bytes).proceedWith
          (s.session.take body) := by
  have here : Frame.next s.isClosed s.unread = .frame body rest :=
    Frame.next_close first nofun s.isClosed
  have there : Frame.next s.isClosed (s.unread ++ bytes) = .frame body (rest ++ bytes) :=
    Frame.next_append first s.isClosed bytes
  refine ⟨readFrames_frame here, (@readFrames_frame _ (s.more bytes) _ _ there).trans ?_⟩
  exact congrArg (proceedWith · (s.session.take body))
    (enlist_more { s with session := (s.session.take body).session, unread := rest } bytes)

theorem readFrames_more {s : Server ω} (h : Frame.Settles s.unread) (bytes : List UInt8) :
    (s.more bytes).readFrames = s.readFrames.more bytes := by
  generalize front : s.unread = input at h
  induction h generalizing s with
  | @broken input fault broken =>
      have here : Frame.next s.isClosed s.unread = .broken fault :=
        front ▸ Frame.next_close broken nofun s.isClosed
      have there : Frame.next s.isClosed (s.unread ++ bytes) = .broken fault :=
        front ▸ Frame.next_broken_append broken s.isClosed bytes
      rw [readFrames_broken here, @readFrames_broken _ (s.more bytes) _ there, finish_more]
  | @exit input body rest first leaves =>
      obtain ⟨here, there⟩ := readFrames_frame_more (front ▸ first) bytes
      have ends : (s.session.take body).ends = true := (Session.take_ends _ _).trans leaves
      rw [here, there, proceedWith, proceedWith, if_pos ends, if_pos ends, finish_more]
  | @frame input body rest first others ih =>
      obtain ⟨here, there⟩ := readFrames_frame_more (front ▸ first) bytes
      rw [here, there, proceedWith, proceedWith]
      split
      · exact finish_more _ bytes _
      · split
        · exact ih (afterFrame_unread _ _ _)
        · refine sendThen_more _ bytes _ .read fun sent same => ih ?_
          exact same.trans (afterFrame_unread _ _ _)

theorem read_more {s : Server ω} (h : s.Heedless) (bytes : List UInt8) :
    (s.more bytes).read = s.read.more bytes := by
  unfold read
  rw [more_closing?]
  split
  · rfl
  · rename_i reading
    exact readFrames_more (h.resolve_left reading) bytes

theorem pursue_more {s : Server ω} (h : s.Heedless) (bytes : List UInt8) (sequel : Sequel) :
    (s.more bytes).pursue outside sequel = (s.pursue outside sequel).more bytes := by
  cases sequel with
  | read => exact read_more h bytes
  | resume pause => exact resume_more s bytes pause
  | nothing => rfl

/-- A turn is the same whatever stands behind the end. -/
theorem perform_more {s : Server ω} (h : s.Heedless) (bytes : List UInt8) (job : Job) :
    (s.more bytes).perform outside job = (s.perform outside job).more bytes := by
  cases job with
  | read => exact read_more h bytes
  | write => exact write_more s bytes
  | task task => exact performTask_more s bytes task
  | place letter sequel =>
      unfold perform
      dsimp only
      rw [more_isStale, putPromised_more]
      split
      · exact freePlaces_more s bytes 1
      · have put : (s.putPromised letter).Heedless := by
          unfold Heedless putPromised
          rw [wakeWriter_closing?, wakeWriter_unread]
          exact h
        exact pursue_more put bytes sequel

theorem Heedless.same {s after : Server ω} (h : s.Heedless) (closing : after.closing? = s.closing?)
    (unread : after.unread = s.unread) : after.Heedless := by
  unfold Heedless
  rw [closing, unread]
  exact h

/-- The end of the reading stays where it is, or is passed. -/
theorem heedless_kept : Kept outside .any fun _ _ (s : Server ω) => s.Heedless where
  step {input hand next s after} _ h first := by
    have behind {body rest : List UInt8} (open? : s.closing? = none)
        (first : Frame.next s.isClosed s.unread = .frame body rest)
        (goes : (s.session.take body).ends = false) :
        (s.afterFrame (s.session.take body).session rest).Heedless := by
      have front : Frame.Settles s.unread := h.resolve_left (by simp [open?])
      refine .inr ?_
      rw [afterFrame_unread]
      exact front.behind first ((Session.take_ends _ _).symm.trans goes)
    cases first with
    | work w => exact h.same w.untouched.2.2.2.1 w.untouched.1
    | write => exact h.same (write_closing? s) (write_unread s)
    | stay past => exact h
    | pause open? part => exact h
    | stop open? ends => exact .inl rfl
    | exit open? first ends => exact .inl rfl
    | pass open? first goes silent => exact behind open? first goes
    | answer open? first goes replies => exact behind open? first goes
  turn _ h _ _ := h
  hear {input s} _ h _ _ bytes := by
    have heard : (s.more bytes).Heedless := h.imp_right fun front => front.append bytes
    exact heard.same (wakeReader_closing? _) (wakeReader_unread _)
  hangUp _ h _ := h.same (wakeReader_closing? _) (wakeReader_unread _)
  rest _ h _ _ := h
  clock _ h _ _ := h.same (enlist_closing? _) (enlist_unread _)
  late _ h _ _ := h
  count _ h _ := h
  alter _ h _ := h

theorem Heedless.perform {s : Server ω} (h : s.Heedless) (job : Job) :
    (s.perform outside job).Heedless := by
  have kept : Kept outside .any fun _ _ (s : Server ω) => s.Heedless := heedless_kept
  exact @Kept.perform _ _ _ kept [] s job h

theorem Heedless.play {s : Server ω} (h : s.Heedless) (moves : List (Move ω)) :
    (s.play outside moves).Heedless := by
  have kept : Kept outside .any fun _ _ (s : Server ω) => s.Heedless := heedless_kept
  exact @Kept.play _ _ _ kept [] s h moves

/-! ## Stories -/

def Move.deaf : Move ω → Move ω
  | .hear _ => .hear []
  | other => other

theorem move_more {s : Server ω} (h : s.Heedless) (bytes : List UInt8) (m : Move ω) :
    ∃ behind, (s.more bytes).move outside m = (s.move outside m.deaf).more behind := by
  have unlessEnded {f f' : Server ω → Server ω} (same : f (s.more bytes) = (f' s).more bytes) :
      (s.more bytes).unlessEnded f = (s.unlessEnded f').more bytes := by
    unfold Server.unlessEnded
    rw [more_hasEnded]
    split
    · rfl
    · exact same
  cases m with
  | hear more =>
      simp only [move, Move.deaf, Server.unlessEnded, more_hasEnded, more_isClosed, hear_eq,
        wakeReader_more, more_more]
      split
      · exact ⟨bytes, rfl⟩
      · split
        · exact ⟨bytes, rfl⟩
        · exact ⟨bytes ++ more, (more_more s.wakeReader [] (bytes ++ more)).symm⟩
  | hangUp => exact ⟨bytes, unlessEnded (wakeReader_more { s with isClosed := true } bytes)⟩
  | turn place =>
      simp only [move, Move.deaf]
      refine ⟨bytes, unlessEnded ?_⟩
      rw [more_jobs]
      cases s.jobs[place]? with
      | none => rfl
      | some job => exact @perform_more _ _ (s.without place) h bytes job
  | rest =>
      refine ⟨bytes, unlessEnded ?_⟩
      rw [more_writer]
      split <;> rfl
  | clock time =>
      refine ⟨bytes, ?_⟩
      simp only [move, Move.deaf]
      rw [more_hasEnded]
      split
      · rfl
      · exact enlist_more (s.withTime time) bytes
  | count turns => exact ⟨bytes, rfl⟩
  | alter world => exact ⟨bytes, rfl⟩

/-- A story goes on in the same way whatever stands, and comes in, behind the end. -/
theorem play_more {s : Server ω} (h : s.Heedless) (bytes : List UInt8) (moves : List (Move ω)) :
    ∃ behind, (s.more bytes).play outside moves =
      (s.play outside (moves.map Move.deaf)).more behind := by
  induction moves generalizing s bytes with
  | nil => exact ⟨bytes, rfl⟩
  | cons m moves ih =>
      obtain ⟨behind, same⟩ := @move_more _ outside _ h bytes m
      have still : (s.move outside m.deaf).Heedless := h.play [m.deaf]
      obtain ⟨last, rest⟩ := ih still behind
      exact ⟨last, by rw [play, same, rest]; rfl⟩

def withoutUnread (s : Server ω) : Server ω := { s with unread := [] }

section Stories

variable {settings : Settings} {world : ω} {front rest : List UInt8}
  {bodies : List (List UInt8)} {ending : Ending}

theorem Concludes.heedless {moves : List (Move ω)}
    (ends : Concludes settings false ((start settings world).input outside moves) bodies rest ending) :
    ((start settings world).play outside moves).Heedless := by
  obtain ⟨taken, account⟩ := (sound_play outside settings world moves).account
  cases closing : ((start settings world).play outside moves).closing? with
  | some how => exact .inl (by simp [closing])
  | none => exact .inr (ends.settles.behindAll account.reads (account.onward closing))

/-- Bytes come in together with others behind them. -/
theorem hear_more (s : Server ω) (front more : List UInt8) :
    ∃ behind, s.move outside (.hear (front ++ more)) = (s.move outside (.hear front)).more behind := by
  have still : s = s.more [] := by simp [Server.more]
  simp only [move, unlessEnded, hear_eq]
  split
  · exact ⟨[], still⟩
  · split
    · exact ⟨[], still⟩
    · exact ⟨more, (more_more s.wakeReader front more).symm⟩

/-- When the end has come in, it makes no difference which bytes stand behind it and come in later. -/
theorem beyond_unheard {earlier : List (Move ω)}
    (ends : Concludes settings false
      ((start settings world).input outside (earlier ++ [.hear front])) bodies rest ending)
    (more more' : List UInt8) {later later' : List (Move ω)}
    (same : later.map Move.deaf = later'.map Move.deaf) :
    ((start settings world).play outside
        (earlier ++ .hear (front ++ more) :: later)).withoutUnread =
      ((start settings world).play outside
        (earlier ++ .hear (front ++ more') :: later')).withoutUnread := by
  have heedless := ends.heedless
  rw [play_append] at heedless
  have deaf (more : List UInt8) (later : List (Move ω)) : ∃ behind,
      (start settings world).play outside (earlier ++ .hear (front ++ more) :: later) =
        ((((start settings world).play outside earlier).play outside [.hear front]).play outside
          (later.map Move.deaf)).more behind := by
    obtain ⟨heard, comes⟩ :=
      @hear_more _ outside ((start settings world).play outside earlier) front more
    obtain ⟨behind, goes⟩ := @play_more _ outside _ heedless heard later
    exact ⟨behind, by rw [play_append, play, comes]; exact goes⟩
  obtain ⟨first, one⟩ := deaf more later
  obtain ⟨second, two⟩ := deaf more' later'
  rw [one, two, same]
  rfl

end Stories

/-! ## A whole session -/

theorem next?_more (s : Server ω) (bytes : List UInt8) :
    (s.more bytes).next? = s.next?.map fun taken => (taken.1, taken.2.more bytes) := by
  unfold next?
  rw [more_hasEnded, more_jobs, more_writer]
  split
  · rfl
  · cases s.jobs with
    | cons job others => rfl
    | nil =>
        dsimp only
        split <;> rfl

theorem afterRest_more (s : Server ω) (bytes : List UInt8) :
    (s.more bytes).afterRest = s.afterRest.more bytes := by
  unfold afterRest
  rw [more_writer]
  split <;> rfl

theorem turn_more {s : Server ω} (h : s.Heedless) (bytes : List UInt8) (job : Job) :
    (s.more bytes).turn outside job = (s.turn outside job).more bytes := by
  have performed : (s.more bytes).counted.perform outside job =
      (s.counted.perform outside job).more bytes := @perform_more _ _ s.counted h bytes job
  unfold turn
  dsimp only
  rw [performed, more_turns]
  split
  · exact afterRest_more _ bytes
  · rfl

theorem Heedless.turn {s : Server ω} (h : s.Heedless) (job : Job) :
    (s.turn outside job).Heedless := by
  have counted : s.counted.Heedless := h
  have performed : (s.counted.perform outside job).Heedless := counted.perform job
  have rested (s : Server ω) : s.afterRest.closing? = s.closing? ∧ s.afterRest.unread = s.unread := by
    unfold afterRest
    split <;> exact ⟨rfl, rfl⟩
  unfold Server.turn
  dsimp only
  split
  · exact performed.same (rested _).1 (rested _).2
  · exact performed

theorem Heedless.next? {s rest : Server ω} {job : Job} (h : s.Heedless)
    (next : s.next? = some (job, rest)) : rest.Heedless := by
  rcases (next?_cases next).2 with ⟨others, -, rfl⟩ | ⟨-, -, -, rfl⟩
  · exact h
  · exact h

/-- The turns up to the next rest are the same whatever stands behind the end. -/
theorem settle_more {s : Server ω} (h : s.Heedless) (bytes : List UInt8) :
    (s.more bytes).settle outside = (s.settle outside).more bytes := by
  generalize waits : (fun _ _ => false : Server ω → Nat → Bool) = never
  have idle {s : Server ω} (nobody : s.next? = none) :
      (s.more bytes).settle outside = (s.settle outside).more bytes := by
    have still : (s.more bytes).next? = none := by rw [next?_more, nobody]; rfl
    rw [settle_rest nobody, settle_rest still]
  revert h
  fun_induction proceed outside never s with
  | case1 s job rest next ih =>
      intro h
      have still : (s.more bytes).next? = some (job, rest.more bytes) := by
        rw [next?_more, next]
        rfl
      have before : rest.Heedless := h.next? next
      rw [settle_next next, settle_next still, turn_more before]
      exact ih (before.turn job)
  | case2 s nobody nothing => exact fun _ => idle nobody
  | case3 s nobody due some wanted ih => simp [← waits] at wanted
  | case4 s nobody due some unwanted => exact fun _ => idle nobody

theorem Heedless.settle {s : Server ω} (h : s.Heedless) : (s.settle outside).Heedless := by
  obtain ⟨moves, played, -⟩ := @proceed_follows _ outside (fun _ _ => false) s
  unfold Server.settle
  rw [← played]
  exact h.play moves

theorem endInput_more {s : Server ω} (h : s.Heedless) (bytes : List UInt8) :
    (s.more bytes).endInput outside = (s.endInput outside).more bytes := by
  unfold endInput unlessEnded
  rw [more_hasEnded]
  split
  · rfl
  · exact @settle_more _ outside (Server.ask { s with isClosed := true, turns := 0 } .read) h bytes

/-- A whole session is the same whatever stands behind its end. -/
theorem run_beyond {settings : Settings} {front rest : List UInt8} {bodies : List (List UInt8)}
    {ending : Ending} (ends : Concludes settings false front bodies rest ending)
    (outside : Outside ω) (world : ω) (more : List UInt8) :
    (run outside settings world (front ++ more)).withoutUnread =
      (run outside settings world front).withoutUnread := by
  have heard : (Server.ask { start settings world with unread := [] ++ front, turns := 0 }
      .read).Heedless := .inr ends.settles
  have received : receive outside (front ++ more) (start settings world) =
      (receive outside front (start settings world)).more more :=
    settle_more heard more
  have still : (receive outside front (start settings world)).Heedless := heard.settle
  unfold run
  rw [received, endInput_more still]
  rfl

end Server

end AsmDiagnostics
