import AsmDiagnostics.Proofs.Server.Tally

/-!
# The reader and the last letter

At most one turn of the reader is on its way, and when none is there is no whole frame to be read.
The last letter is on its way as soon as the reading has ended, and not before.
-/

namespace AsmDiagnostics.Server

variable {ω : Type} {outside : Outside ω}

namespace Rates

def turns : Rates := ⟨fun _ => 0, 1, 0⟩

def lasts : Rates := ⟨fun _ => 0, 0, 1⟩

end Rates

section Nothing

variable (w : Rates) (free : ∀ id, w.id id = 0)

include free

theorem message_free (message : Json) : w.message message = 0 := by
  unfold Rates.message Rates.due
  cases message.get? "id" with
  | none => rfl
  | some id => exact free id

theorem run_free (run : Run Json) : w.run run = 0 := by
  unfold Rates.run
  split
  · rfl
  · exact free _

theorem task_free (task : Task Json) : w.task task = 0 := by
  cases task with
  | wake uri generation => rfl
  | ask uri id => exact free id
  | start run => exact run_free w free run
  | finish run document result => exact run_free w free run

theorem session_free (s : Session) : w.session s = 0 := by
  unfold Rates.session
  cases s.pipeline? with
  | none => rfl
  | some p => exact (totalCost_eq_zero _).mpr fun entry _ => task_free w free entry.action

end Nothing

/-- No turn of the reader is to come when it has not asked for one and does not wait. -/
theorem readerWaits_eq_false {s : Server ω} :
    s.readerWaits = false ↔ Rates.turns.server s = 0 := by
  have free : ∀ id, Rates.turns.id id = 0 := fun _ => rfl
  have letter (letter : Letter) : Rates.turns.letter letter = 0 := by
    cases letter with
    | message content => exact message_free _ free content
    | close => rfl
  have sequel (sequel : Sequel) : Rates.turns.sequel sequel = 0 ↔ isReader sequel = false := by
    cases sequel with
    | read => simp [Rates.sequel, Rates.turns, isReader]
    | resume pause => simp [Rates.sequel, run_free _ free, isReader]
    | nothing => simp [Rates.sequel, isReader]
  have entry (entry : Letter × Sequel) :
      Rates.turns.entry entry = 0 ↔ isReader entry.2 = false := by
    simp [Rates.entry, letter, sequel]
  have job (job : Job) : Rates.turns.job job = 0 ↔ isReading job = false := by
    cases job with
    | read => simp [Rates.job, Rates.turns, isReading]
    | write => simp [Rates.job, isReading]
    | task task => simp [Rates.job, task_free _ free, isReading]
    | place letter sequel => exact entry (letter, sequel)
  have written := (totalCost_eq_zero Rates.turns.message).mpr fun m (_ : m ∈ s.outbox) =>
    message_free _ free m
  have letters := (totalCost_eq_zero Rates.turns.letter).mpr fun l (_ : l ∈ s.mailbox.letters) =>
    letter l
  simp only [Rates.server, written, letters, session_free _ free, Nat.add_eq_zero_iff,
    totalCost_eq_zero, job, entry, readerWaits, Bool.or_eq_false_iff, List.any_eq_false]
  simp

structure Reading (hand : Hand) (s : Server ω) : Prop where
  once : Rates.turns.tally hand s ≤ 1
  pausing : s.closing? = none → Rates.turns.tally hand s = 0 →
    Frame.next s.isClosed s.unread = .incomplete
  before : s.closing? = none → Rates.lasts.tally hand s = 0
  after : s.closing?.isSome → s.ending? = none → 0 < Rates.lasts.tally hand s
  ended : s.ending?.isSome → s.closing?.isSome

namespace Reading

variable {hand next : Hand} {s : Server ω}

/-- What changes nothing about the reading and no weight keeps all of it. -/
theorem same (h : Reading hand s) {after : Server ω}
    (tally : ∀ w : Rates, w.tally next after = w.tally hand s) (closing : after.closing? = s.closing?)
    (ending : after.ending? = s.ending?) (isClosed : after.isClosed = s.isClosed)
    (unread : after.unread = s.unread) : Reading next after := by
  refine ⟨?_, ?_, ?_, ?_, ?_⟩
  · rw [tally]
    exact h.once
  · rw [tally, closing, isClosed, unread]
    exact h.pausing
  · rw [tally, closing]
    exact h.before
  · rw [tally, closing, ending]
    exact h.after
  · rw [closing, ending]
    exact h.ended

theorem work (h : Reading hand s) (lawful : Lawful hand s) {after : Server ω}
    (work : Work outside hand s next after) : Reading next after := by
  obtain ⟨unread, isClosed, -, closing, ending⟩ := work.untouched
  exact h.same (fun w => tally_work w lawful work) closing ending isClosed unread

/-- The last letter is not written before the reading has ended. -/
theorem last (h : Reading (.job .write) s) (lawful : Lawful (.job .write) s)
    (last : s.takesLast = true) : s.closing?.isSome := by
  have written := server_write Rates.lasts lawful
  cases reading : s.closing? with
  | some ending => rfl
  | none =>
      have before := h.before reading
      simp only [last, Rates.tally, Rates.hand, Rates.job, Rates.lasts, cond_true] at before written
      omega

/-- A server that goes on has not written the last letter. -/
theorem goesOn (h : Reading (.job .write) s) (lawful : Lawful (.job .write) s)
    (goes : s.write.ending? = none) : s.takesLast = false ∧ s.ending? = none := by
  rw [write_ending?] at goes
  cases last : s.takesLast with
  | true =>
      rw [last, if_pos rfl] at goes
      simpa [goes] using h.last lawful last
  | false =>
      rw [last] at goes
      exact ⟨rfl, goes⟩

/-- Letters are written; when the last one is among them the server has ended. -/
theorem write (h : Reading (.job .write) s) (lawful : Lawful (.job .write) s) :
    Reading .free s.write := by
  have turns : Rates.turns.tally .free s.write = Rates.turns.tally (.job .write) s := by
    have written := server_write Rates.turns lawful
    simp only [Rates.tally, Rates.hand, Rates.job]
    cases last : s.takesLast with
    | true => simpa [last, Rates.turns] using written
    | false => simpa [last] using written
  have written := server_write Rates.lasts lawful
  refine ⟨?_, ?_, ?_, ?_, ?_⟩
  · rw [turns]
    exact h.once
  · rw [turns, write_closing?, write_isClosed, write_unread]
    exact h.pausing
  · intro reading
    rw [write_closing?] at reading
    have before := h.before reading
    simp only [Rates.tally, Rates.hand, Rates.job] at before ⊢
    omega
  · intro closing goes
    rw [write_closing?] at closing
    rw [write_ending?] at goes
    cases last : s.takesLast with
    | true =>
        rw [last, if_pos rfl] at goes
        simp [goes] at closing
    | false =>
        rw [last] at goes written
        have after := h.after closing goes
        simp only [Rates.tally, Rates.hand, Rates.job, cond_false] at after written ⊢
        omega
  · intro past
    rw [write_closing?]
    rw [write_ending?] at past
    split at past
    · exact past
    · exact h.ended past

theorem due_free (w : Rates) (free : ∀ id, w.id id = 0) (id? : Option Json) : w.due id? = 0 := by
  cases id? with
  | none => rfl
  | some id => exact free id

/-- The reader takes a frame. -/
theorem afterFrame (h : Reading (.go .read) s) (reading : s.closing? = none) (body rest : List UInt8)
    (one : Rates.turns.hand next = 1) (none : Rates.lasts.hand next = 0) :
    Reading next (s.afterFrame (s.session.take body).session rest) := by
  have turns := server_afterFrame Rates.turns s body rest
  have lasts := server_afterFrame Rates.lasts s body rest
  rw [due_free _ fun _ => rfl] at turns lasts
  have still : (s.afterFrame (s.session.take body).session rest).closing? = .none :=
    (afterFrame_closing? s _ rest).trans reading
  have once := h.once
  have before := h.before reading
  simp only [Rates.tally, Rates.hand, Rates.sequel] at once before
  refine ⟨?_, ?_, ?_, ?_, ?_⟩
  · simp only [Rates.tally, one, turns]
    simp only [Rates.turns] at once ⊢
    omega
  · intro _ zero
    simp [Rates.tally, one] at zero
  · intro _
    simp only [Rates.tally, none, lasts]
    omega
  · intro closing
    simp [still] at closing
  · intro past
    have ended := h.ended (afterFrame_ending? s _ rest ▸ past)
    simp [reading] at ended

theorem closing (h : Reading (.go .read) s) (ending : Ending) :
    Reading (.send .close .nothing) (s.closingWith ending) := by
  have once := h.once
  refine ⟨?_, ?_, ?_, ?_, ?_⟩
  · rw [Rates.tally, server_closingWith]
    simp only [Rates.tally, Rates.hand, Rates.entry, Rates.letter, Rates.sequel, Rates.turns] at once ⊢
    omega
  · intro none
    cases none
  · intro none
    cases none
  · intro _ _
    rw [Rates.tally]
    simp only [Rates.hand, Rates.entry, Rates.letter, Rates.lasts]
    omega
  · exact fun _ => rfl

/-- The reader has nothing to read. -/
theorem resting (h : Reading (.go .read) s)
    (why : s.closing?.isSome ∨ Frame.next s.isClosed s.unread = .incomplete) : Reading .free s := by
  have once := h.once
  have before := h.before
  have after := h.after
  simp only [Rates.tally, Rates.hand, Rates.sequel, Rates.lasts, Rates.turns] at once before after
  refine ⟨?_, ?_, ?_, ?_, h.ended⟩
  · simp only [Rates.tally, Rates.hand, Rates.turns]
    omega
  · intro reading _
    exact why.resolve_left (by simp [reading])
  · intro reading
    simpa [Rates.tally, Rates.hand, Rates.lasts] using before reading
  · intro closing goes
    simpa [Rates.tally, Rates.hand, Rates.lasts] using after closing goes

theorem step (h : Reading hand s) (lawful : Lawful hand s) {after : Server ω}
    (first : Step outside hand s next after) : Reading next after := by
  cases first with
  | work w => exact h.work lawful w
  | write => exact h.write lawful
  | stay past => exact h.resting (.inl past)
  | pause reading part => exact h.resting (.inr part)
  | stop reading ends => exact h.closing _
  | @exit _ body rest reading frame ends =>
      have taken : Reading (.go .read) (s.afterFrame (s.session.take body).session rest) :=
        h.afterFrame reading body rest rfl rfl
      exact taken.closing _
  | pass reading frame goes silent => exact h.afterFrame reading _ _ rfl rfl
  | answer reading frame goes replies =>
      refine h.afterFrame reading _ _ ?_ ?_
      · simp [Rates.hand, Rates.entry, Rates.letter, message_free, Rates.sequel, Rates.turns]
      · simp [Rates.hand, Rates.entry, Rates.letter, message_free, Rates.sequel, Rates.lasts]

/-- The reader is told when something has come in. -/
theorem told (h : Reading .free s) {heard : Server ω}
    (server : ∀ w : Rates, w.server heard = w.server s) (closing : heard.closing? = s.closing?)
    (ending : heard.ending? = s.ending?) : Reading .free heard.wakeReader := by
  have woken (w : Rates) := server_wakeReader w heard
  have closingToo := (wakeReader_closing? heard).trans closing
  have endingToo := (wakeReader_ending? heard).trans ending
  have lasts : Rates.lasts.tally .free heard.wakeReader = Rates.lasts.tally .free s := by
    rw [Rates.tally, Rates.tally, woken, server]
    cases heard.readerWaits <;> simp [Rates.lasts]
  have once := h.once
  have idle := @readerWaits_eq_false _ heard
  refine ⟨?_, ?_, ?_, ?_, ?_⟩
  · rw [Rates.tally, woken]
    cases waiting : heard.readerWaits with
    | true =>
        rw [server]
        simpa [Rates.tally] using once
    | false =>
        rw [idle.mp waiting]
        exact Nat.le_refl 1
  · intro _ none
    rw [Rates.tally, woken] at none
    cases waiting : heard.readerWaits with
    | true =>
        rw [waiting] at none idle
        simp only [Rates.hand, cond_true, Nat.zero_add] at none
        cases idle.mpr none
    | false =>
        rw [waiting] at none
        simp [Rates.turns] at none
  · rw [lasts, closingToo]
    exact h.before
  · rw [lasts, closingToo, endingToo]
    exact h.after
  · rw [closingToo, endingToo]
    exact h.ended

end Reading

/-- The reader and the last letter are where they should be at all times. -/
theorem reading_kept : Kept outside (fun _ hand (s : Server ω) => Lawful hand s)
    fun _ hand (s : Server ω) => Reading hand s where
  step lawful h first := h.step lawful first
  turn _ h _ found := h.same (fun w => tally_turn w found) rfl rfl rfl rfl
  hear _ h _ _ _ := h.told (fun _ => rfl) rfl rfl
  hangUp _ h _ := h.told (fun _ => rfl) rfl rfl
  rest _ h _ _ :=
    h.same (fun w => congrArg (_ + ·) (server_rested w _)) rfl rfl rfl rfl
  clock _ h _ time :=
    h.same (fun w => congrArg (_ + ·) (server_clock w _ time)) (enlist_closing? _)
      (enlist_ending? _) (enlist_isClosed _) (enlist_unread _)
  late _ h _ time :=
    h.same (fun w => congrArg (_ + ·) (server_withTime w _ time)) rfl rfl rfl rfl
  count _ h _ := h.same (fun _ => rfl) rfl rfl rfl rfl
  alter _ h _ := h.same (fun _ => rfl) rfl rfl rfl rfl

/-- All messages are proper, and the reader and the last letter are where they should be. -/
def orderly : Condition ω :=
  Condition.and (fun _ hand s => Lawful hand s) fun _ hand s => Reading hand s

theorem orderly_kept : Kept outside .any (orderly (ω := ω)) := lawful_kept.and reading_kept

end AsmDiagnostics.Server
