import AsmDiagnostics.Proofs.Server.Reading

/-!
# The places of the mailbox

Every place of the mailbox is taken, promised or free.  Whoever waits in line waits because none is
free, and as long as there is a letter the writer is awake.  So when nobody asks for a turn the
mailbox is empty and nobody waits.
-/

namespace AsmDiagnostics

/-- Of the places that become free, those that nobody wants are room. -/
theorem Mailbox.free_places {σ : Type} (m : Mailbox σ) (wanted : σ → Bool) (count : Nat) :
    (m.free wanted count).1.length + (m.free wanted count).2.room = m.room + count := by
  simp only [free, List.length_take]
  omega

namespace Server

variable {ω : Type} {outside : Outside ω}

def promised : Job → Nat
  | .place .. => 1
  | _ => 0

def Hand.promised : Hand → Nat
  | .job asked => Server.promised asked
  | _ => 0

/-- The mailbox and the writer of a server that has not ended. -/
structure Housed (hand : Hand) (s : Server ω) : Prop where
  places : s.mailbox.letters.length + s.mailbox.room + totalCost promised s.jobs + hand.promised =
    Mailbox.capacity
  full : s.mailbox.waiting ≠ [] → s.mailbox.room = 0
  idle : s.writer.isIdle = true → s.mailbox.letters = []
  awake : s.writer.isIdle = false →
    s.writer.isResting = true ∨ .write ∈ s.jobs ∨ hand = .job .write

namespace Housed

variable {hand next : Hand} {s after : Server ω}

/-- What touches neither the mailbox nor the writer and promises no place. -/
theorem same (h : Housed hand s) (mailbox : after.mailbox = s.mailbox)
    (writer : after.writer = s.writer) (more : List Job) (jobs : after.jobs = s.jobs ++ more)
    (none : totalCost promised more = 0) (promised : next.promised = hand.promised)
    (other : hand ≠ .job .write) : Housed next after := by
  refine ⟨?_, ?_, ?_, ?_⟩
  · rw [mailbox, jobs, totalCost_append, none, promised]
    exact h.places
  · rw [mailbox]
    exact h.full
  · rw [mailbox, writer]
    exact h.idle
  · rw [writer, jobs]
    intro awake
    rcases h.awake awake with resting | asked | own
    · exact .inl resting
    · exact .inr (.inl (List.mem_append_left _ asked))
    · exact absurd own other

theorem enlist (h : Housed hand s) (other : hand ≠ .job .write) : Housed hand s.enlist := by
  obtain ⟨tasks, jobs, -⟩ := enlist_jobs s
  refine h.same (enlist_mailbox s) (enlist_writer s) _ jobs ?_ rfl other
  rw [totalCost_map]
  exact (totalCost_eq_zero _).mpr fun _ _ => rfl

/-- A letter comes into the mailbox, and the writer is told. -/
theorem posted (h : Housed hand s) (letter : Letter) {room : Nat} (other : hand ≠ .job .write)
    (place : room + 1 + next.promised = s.mailbox.room + hand.promised)
    (full : s.mailbox.waiting ≠ [] → room = 0) :
    Housed next { s with mailbox := { s.mailbox with
      letters := s.mailbox.letters ++ [letter], room := room } }.wakeWriter := by
  have places := h.places
  unfold wakeWriter
  split
  · refine ⟨?_, full, (fun idle => nomatch idle), fun _ => .inr (.inl ?_)⟩
    · simp only [ask, totalCost_append, List.length_append, List.length_singleton, totalCost,
        promised]
      omega
    · exact List.mem_append_right _ List.mem_cons_self
  · rename_i awake
    refine ⟨?_, full, fun idle => absurd idle awake, fun _ => ?_⟩
    · simp only [List.length_append, List.length_singleton]
      omega
    · rcases h.awake (Bool.eq_false_iff.mpr awake) with resting | asked | own
      · exact .inl resting
      · exact .inr (.inl asked)
      · exact absurd own other

theorem awaiting (h : Housed hand s) {letter : Letter} {sequel : Sequel} (none : s.mailbox.room = 0)
    (promised : next.promised = hand.promised) (other : hand ≠ .job .write) :
    Housed next (s.awaitPlace letter sequel) := by
  refine ⟨?_, fun _ => none, h.idle, fun awake => ?_⟩
  · rw [promised]
    exact h.places
  · rcases h.awake awake with resting | asked | own
    · exact .inl resting
    · exact .inr (.inl asked)
    · exact absurd own other

/-- Places become free that were taken before or promised. -/
theorem freePlaces {count : Nat}
    (places : s.mailbox.letters.length + s.mailbox.room + totalCost promised s.jobs + count =
      Mailbox.capacity)
    (full : s.mailbox.waiting ≠ [] → s.mailbox.room = 0)
    (idle : s.writer.isIdle = true → s.mailbox.letters = [])
    (awake : s.writer.isIdle = false → s.writer.isResting = true ∨ .write ∈ s.jobs) :
    Housed .free (s.freePlaces count) := by
  have freed := s.mailbox.free_places (fun sequel => !s.isStale sequel) count
  refine ⟨?_, ?_, idle, fun woken => ?_⟩
  · have promises : totalCost promised (((s.mailbox.free (fun sequel => !s.isStale sequel) count).1).map
        fun entry => Job.place entry.1 entry.2) =
          (s.mailbox.free (fun sequel => !s.isStale sequel) count).1.length := by
      rw [totalCost_map]
      exact totalCost_one _
    have letters : (s.mailbox.free (fun sequel => !s.isStale sequel) count).2.letters =
        s.mailbox.letters := rfl
    simp only [Server.freePlaces, totalCost_append, promises, letters, Hand.promised]
    omega
  · intro some
    have crowded : s.mailbox.waiting ≠ [] := by
      intro nobody
      simp [Server.freePlaces, Mailbox.free, Mailbox.line, nobody] at some
    have behind : count < (s.mailbox.line fun sequel => !s.isStale sequel).length :=
      Nat.lt_of_not_le fun enough => some (List.drop_eq_nil_of_le enough)
    have none := full crowded
    simp only [Server.freePlaces, Mailbox.free]
    omega
  · exact (awake woken).imp_right fun asked => .inl (List.mem_append_left _ asked)

theorem takeFirst_rest (count : Nat) (letters : List Letter) :
    (Mailbox.takeFirst count letters).2.2 = true ∨
      (Mailbox.takeFirst count letters).1.length + (Mailbox.takeFirst count letters).2.1.length =
        letters.length ∧
      ((Mailbox.takeFirst count letters).1.length = count ∨
        (Mailbox.takeFirst count letters).2.1 = []) := by
  have taken := Mailbox.takeFirst_taken count letters
  generalize Mailbox.takeFirst count letters = parts at taken ⊢
  cases taken with
  | messages contents rest full => exact .inr ⟨by simp, full⟩
  | last contents rest => exact .inl rfl

/-- Letters are written, and the last one is not among them. -/
theorem write (h : Housed (.job .write) s) (more : s.takesLast = false) : Housed .free s.write := by
  unfold takesLast at more
  rcases takeFirst_rest s.writer.lettersInTurn s.mailbox.letters with last | ⟨lengths, all⟩
  · rw [more] at last
    exact nomatch last
  · have places := h.places
    unfold Server.write
    simp only [more]
    refine freePlaces ?_ h.full ?_ ?_
    · simp only [Hand.promised, promised] at places
      dsimp only
      omega
    · unfold Writer.after
      dsimp only
      split
      · exact fun idle => nomatch idle
      · rename_i fewer
        exact fun _ => all.resolve_left fewer
    · unfold Writer.after
      dsimp only
      split
      · exact fun _ => .inl rfl
      · exact fun awake => nomatch awake

theorem work (h : Housed hand s) (lawful : Lawful hand s) (work : Work outside hand s next after) :
    Housed next after := by
  have nothing {next : Hand} {session : Session} {world : ω} (promised : next.promised = hand.promised)
      (other : hand ≠ .job .write) : Housed next { s with session := session, world := world } :=
    h.same rfl rfl [] (List.append_nil _).symm rfl promised other
  cases work with
  | lost works none => exact absurd works (lawful.idle none).1
  | place wanted => exact h.posted _ (by simp) rfl h.full
  | unwanted stale =>
      refine freePlaces h.places h.full h.idle fun awake => ?_
      exact (h.awake awake).imp_right fun asked => asked.resolve_right (by simp)
  | wake same => exact Housed.enlist (nothing rfl (by simp)) (by simp)
  | post room =>
      obtain ⟨some, rfl⟩ := send?_eq_some room
      refine h.posted _ (by simp) ?_ fun crowded => ?_
      · simp only [Hand.promised]
        omega
      · have none := h.full crowded
        omega
  | await full => exact h.awaiting (send?_eq_none full) rfl (by simp)
  | ask same => exact nothing rfl (by simp)
  | start same current => exact nothing rfl (by simp)
  | finish same current => exact nothing rfl (by simp)
  | giveUp same superseded own =>
      rcases own with rfl | ⟨document, result, rfl⟩
      · exact nothing rfl (by simp)
      · exact nothing rfl (by simp)
  | _ => exact nothing rfl (by simp)

/-- The reader takes a frame or finds none. -/
theorem go (h : Housed (.go .read) s) {session : Session} {unread : List UInt8}
    {closing? : Option Ending} (none : next.promised = 0) :
    Housed next { s with session := session, unread := unread, closing? := closing? } :=
  h.same rfl rfl [] (List.append_nil _).symm rfl none (by simp)

/-- Somebody asks for a turn who has no letter. -/
theorem asked (h : Housed .free s) {job : Job} (none : promised job = 0) : Housed .free (s.ask job) :=
  h.same rfl rfl [job] rfl (by simp [totalCost, none]) rfl (by simp)

theorem told (h : Housed .free s) : Housed .free s.wakeReader := by
  unfold wakeReader
  split
  · exact h
  · exact h.asked rfl

end Housed

/-- Every place is accounted for, and the writer is awake, until the server has ended. -/
theorem housed_kept :
    Kept outside (orderly (ω := ω)) fun _ hand s => s.ending? = none → Housed hand s where
  step {input hand next s after} known h first goes := by
    cases first with
    | work w => exact (h (w.untouched.2.2.2.2 ▸ goes)).work known.1 w
    | write =>
        obtain ⟨more, goes⟩ := known.2.goesOn known.1 goes
        exact (h goes).write more
    | stay past => exact (h goes).go rfl
    | pause reading part => exact (h goes).go rfl
    | stop reading ends => exact (h goes).go rfl
    | @exit _ body rest reading frame ends =>
        have before : s.ending? = none := (afterFrame_ending? s _ _).symm.trans goes
        have taken : Housed (.go .read) (s.afterFrame (s.session.take body).session rest) :=
          Housed.enlist ((h before).go rfl) (by simp)
        exact taken.go rfl
    | pass reading frame silent =>
        have before : s.ending? = none := (afterFrame_ending? s _ _).symm.trans goes
        exact Housed.enlist ((h before).go rfl) (by simp)
    | answer reading frame replies =>
        have before : s.ending? = none := (afterFrame_ending? s _ _).symm.trans goes
        exact Housed.enlist ((h before).go rfl) (by simp)
  turn {input s place job} known h _ found goes := by
    obtain ⟨places, full, idle, awake⟩ := h goes
    have parted := totalCost_eraseIdx promised found
    refine ⟨?_, full, idle, fun woken => ?_⟩
    · simp only [without, Hand.promised] at places ⊢
      omega
    · rcases awake woken with resting | asked | own
      · exact .inl resting
      · rcases List.mem_cons.mp ((eraseIdx_perm found).mem_iff.mpr asked) with same | other
        · exact .inr (.inr (congrArg Hand.job same.symm))
        · exact .inr (.inl other)
      · cases own
  hear {input s} known h goes _ bytes _ := by
    obtain ⟨places, full, idle, awake⟩ := h goes
    exact Housed.told ⟨places, full, idle, awake⟩
  hangUp {input s} known h goes _ := by
    obtain ⟨places, full, idle, awake⟩ := h goes
    exact Housed.told ⟨places, full, idle, awake⟩
  rest {input s} known h goes resting _ := by
    obtain ⟨places, full, idle, awake⟩ := h goes
    refine ⟨?_, full, idle, fun _ => .inr (.inl (List.mem_append_right _ List.mem_cons_self))⟩
    simpa [rested, ask, totalCost_append, totalCost, promised] using places
  clock {input s} known h goes time _ := by
    obtain ⟨places, full, idle, awake⟩ := h goes
    have timed : Housed .free (s.withTime time) := ⟨places, full, idle, awake⟩
    exact timed.enlist (by simp)
  late known h past time goes := by
    obtain ⟨places, full, idle, awake⟩ := h goes
    exact ⟨places, full, idle, awake⟩
  count known h _ goes := by
    obtain ⟨places, full, idle, awake⟩ := h goes
    exact ⟨places, full, idle, awake⟩
  alter known h _ goes := by
    obtain ⟨places, full, idle, awake⟩ := h goes
    exact ⟨places, full, idle, awake⟩

end Server

end AsmDiagnostics
