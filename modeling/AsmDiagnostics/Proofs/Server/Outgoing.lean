import AsmDiagnostics.Proofs.Server.Reading

/-!
# Messages in front of the last letter

The writer takes the letters in the order in which they lie in the mailbox, up to the last letter.
So the messages that are written, and those behind them in front of the last letter, are one list
that only ever grows at its end.  An answer of the reader waits for its place before it belongs to
the list.
-/

namespace AsmDiagnostics

def Letter.content? : Letter → Option Json
  | .message content => some content
  | .close => none

namespace Mailbox

/-- The messages in front of the last letter. -/
def ahead : List Letter → List Json
  | [] => []
  | .close :: _ => []
  | .message content :: rest => content :: ahead rest

theorem ahead_prefix {first second : List Letter} (h : first <+: second) :
    ahead first <+: ahead second := by
  induction first generalizing second with
  | nil => exact List.nil_prefix
  | cons letter first ih =>
      obtain ⟨more, rfl⟩ := h
      cases letter with
      | close => exact List.nil_prefix
      | message content => exact (List.prefix_cons_inj content).mpr (ih ⟨more, rfl⟩)

theorem ahead_append (contents : List Json) (letters : List Letter) :
    ahead (contents.map .message ++ letters) = contents ++ ahead letters := by
  induction contents with
  | nil => rfl
  | cons content contents ih => exact congrArg (content :: ·) ih

theorem ahead_snoc {letters : List Letter} (unsealed : .close ∉ letters) (content : Json) :
    ahead (letters ++ [.message content]) = ahead letters ++ [content] := by
  induction letters with
  | nil => rfl
  | cons letter letters ih =>
      cases letter with
      | close => exact absurd List.mem_cons_self unsealed
      | message other =>
          exact congrArg (other :: ·) (ih fun member => unsealed (List.mem_cons_of_mem _ member))

/-- In front of the last letter is everything, as long as it is not there. -/
theorem ahead_eq_filterMap {letters : List Letter} (unsealed : .close ∉ letters) :
    ahead letters = letters.filterMap Letter.content? := by
  induction letters with
  | nil => rfl
  | cons letter letters ih =>
      cases letter with
      | close => exact absurd List.mem_cons_self unsealed
      | message content =>
          exact congrArg (content :: ·) (ih fun member => unsealed (List.mem_cons_of_mem _ member))

/-- What is taken out comes first, and what is left in front of the last letter comes behind it. -/
theorem takeFirst_ahead (count : Nat) (letters : List Letter) :
    (takeFirst count letters).1 ++
        (bif (takeFirst count letters).2.2 then [] else ahead (takeFirst count letters).2.1) =
      ahead letters := by
  have taken := takeFirst_taken count letters
  generalize takeFirst count letters = parts at taken ⊢
  cases taken with
  | messages contents rest => exact (ahead_append contents rest).symm
  | last contents rest =>
      rw [ahead_append]
      rfl

end Mailbox

namespace Server

variable {ω : Type} {outside : Outside ω}

/-- The messages that are written, and those in front of the last letter while there is somebody to
write them. -/
def destined (s : Server ω) : List Json :=
  s.outbox ++ bif s.hasEnded then [] else Mailbox.ahead s.mailbox.letters

variable {hand next : Hand} {s after : Server ω}

theorem destined_of_over (past : s.ending?.isSome) : s.destined = s.outbox := by
  simp [destined, hasEnded, past]

theorem destined_of_goes (goes : s.ending? = none) :
    s.destined = s.outbox ++ Mailbox.ahead s.mailbox.letters := by
  simp [destined, hasEnded, goes]

/-- Letters come in behind those that are there. -/
theorem Work.letters (work : Work outside hand s next after) :
    s.mailbox.letters <+: after.mailbox.letters := by
  cases work with
  | place wanted =>
      rw [putPromised, wakeWriter_mailbox]
      exact List.prefix_append _ _
  | wake same =>
      rw [enlist_mailbox]
      exact List.prefix_rfl
  | post room =>
      obtain ⟨-, rfl⟩ := send?_eq_some room
      rw [wakeWriter_mailbox]
      exact List.prefix_append _ _
  | _ => exact List.prefix_rfl

theorem Work.destined (work : Work outside hand s next after) : s.destined <+: after.destined := by
  obtain ⟨-, -, outbox, -, ending⟩ := work.untouched
  unfold Server.destined hasEnded
  rw [outbox, ending]
  cases s.ending? with
  | some how => exact List.prefix_rfl
  | none => exact (List.prefix_append_right_inj _).mpr (Mailbox.ahead_prefix work.letters)

theorem write_destined (s : Server ω) : s.destined <+: s.write.destined := by
  have taken := Mailbox.takeFirst_ahead s.writer.lettersInTurn s.mailbox.letters
  have ending := write_ending? s
  unfold destined hasEnded
  rw [ending, write_outbox, write_letters, List.append_assoc, ← taken]
  unfold takesLast
  cases (Mailbox.takeFirst s.writer.lettersInTurn s.mailbox.letters).2.2 with
  | true =>
      cases s.ending? with
      | some how => simp
      | none => simp
  | false =>
      cases s.ending? with
      | some how => simp
      | none => exact List.prefix_rfl

theorem afterFrame_destined (s : Server ω) (session : Session) (rest : List UInt8) :
    (s.afterFrame session rest).destined = s.destined := by
  unfold destined hasEnded
  rw [afterFrame_ending?, afterFrame, enlist_outbox, enlist_mailbox]

theorem Step.destined (step : Step outside hand s next after) : s.destined <+: after.destined := by
  have taken (session : Session) (rest : List UInt8) :
      s.destined <+: (s.afterFrame session rest).destined := by
    exact (afterFrame_destined s session rest).symm ▸ List.prefix_rfl
  cases step with
  | work w => exact w.destined
  | write => exact write_destined s
  | exit reading frame ends => exact taken _ _
  | pass reading frame goes silent => exact taken _ _
  | answer reading frame goes replies => exact taken _ _
  | _ => exact List.prefix_rfl

theorem enlist_destined (s : Server ω) : s.enlist.destined = s.destined := by
  unfold destined hasEnded
  rw [enlist_ending?, enlist_outbox, enlist_mailbox]

theorem wakeWriter_destined (s : Server ω) : s.wakeWriter.destined = s.destined := by
  unfold wakeWriter
  split <;> rfl

theorem wakeReader_destined (s : Server ω) : s.wakeReader.destined = s.destined := by
  unfold wakeReader
  split <;> rfl

/-- What is written or about to be written stays so, in its order. -/
theorem destined_kept (queued : List Json) :
    Kept outside .any fun _ _ (s : Server ω) => queued <+: s.destined where
  step _ h first := h.trans first.destined
  turn _ h _ _ := h
  hear {input s} _ h _ _ bytes := by
    rw [hear, wakeReader_destined]
    exact h
  hangUp {input s} _ h _ := by
    rw [hangUp, wakeReader_destined]
    exact h
  rest _ h _ _ := h
  clock {input s} _ h _ time := by
    rw [enlist_destined]
    exact h
  late _ h _ _ := h
  count _ h _ := h
  alter _ h _ := h

/-! ## Answers that wait -/

/-- An answer of the reader has no place in the mailbox yet. -/
def Awaits (message : Json) (hand : Hand) (s : Server ω) : Prop :=
  hand.entry? = some (.message message, .read) ∨ .place (.message message) .read ∈ s.jobs ∨
    (.message message, .read) ∈ s.mailbox.waiting

namespace Awaits

variable {message : Json}

/-- It waits where it was. -/
theorem still (h : Awaits message hand s)
    (entry : hand.entry? = some (.message message, .read) → next.entry? = hand.entry?)
    (jobs : s.jobs ⊆ after.jobs) (waiting : s.mailbox.waiting ⊆ after.mailbox.waiting) :
    Awaits message next after := by
  rcases h with own | asked | waits
  · exact .inl ((entry own).trans own)
  · exact .inr (.inl (jobs asked))
  · exact .inr (.inr (waiting waits))

/-- Places become free for those who wait for them. -/
theorem freePlaces (h : Awaits message .free s) (count : Nat) :
    Awaits message .free (s.freePlaces count) := by
  rcases h with own | asked | waits
  · exact nomatch own
  · exact .inr (.inl (List.mem_append_left _ asked))
  · have wants : (Letter.message message, Sequel.read) ∈
        s.mailbox.line fun sequel => !s.isStale sequel :=
      List.mem_filter.mpr ⟨waits, rfl⟩
    rw [← List.take_append_drop count (s.mailbox.line _)] at wants
    rcases List.mem_append.mp wants with served | behind
    · exact .inr (.inl (List.mem_append_right _ (List.mem_map.mpr ⟨_, served, rfl⟩)))
    · exact .inr (.inr behind)

/-- The writer takes none of those who wait. -/
theorem write (h : Awaits message (.job .write) s) : Awaits message .free s.write := by
  have free : Awaits message .free s := h.still (fun own => nomatch own) (fun _ => id) fun _ => id
  unfold Server.write
  dsimp only
  split
  · exact free.still (fun own => nomatch own) (fun _ => id) fun _ => id
  · exact Awaits.freePlaces (free.still (fun own => nomatch own) (fun _ => id) fun _ => id) _

theorem wakeWriter_jobs_subset (s : Server ω) : s.jobs ⊆ s.wakeWriter.jobs := by
  rcases wakeWriter_jobs s with same | more
  · rw [same]
    exact fun _ => id
  · rw [more]
    exact List.subset_append_left _ _

theorem enlist_jobs_subset (s : Server ω) : s.jobs ⊆ s.enlist.jobs := by
  obtain ⟨tasks, jobs, -⟩ := enlist_jobs s
  rw [jobs]
  exact List.subset_append_left _ _

/-- The letter in hand comes into the mailbox, in front of the last letter. -/
theorem posted (h : Awaits message hand s) {letter : Letter} {sequel : Sequel} (room : Nat)
    (own : hand.entry? = some (letter, sequel)) (goes : s.ending? = none)
    (unsealed : .close ∉ s.mailbox.letters) {after : Server ω}
    (is : after = { s with mailbox := { s.mailbox with
      letters := s.mailbox.letters ++ [letter], room := room } }.wakeWriter) :
    Awaits message (.go sequel) after ∨ after.destined = s.destined ++ [message] := by
  subst is
  rcases h with mine | asked | waits
  · right
    obtain ⟨rfl, rfl⟩ := Prod.mk.inj (Option.some.inj (own.symm.trans mine))
    have put : Server.destined { s with mailbox := { s.mailbox with
        letters := s.mailbox.letters ++ [.message message], room := room } } =
          s.outbox ++ Mailbox.ahead (s.mailbox.letters ++ [.message message]) :=
      destined_of_goes goes
    rw [wakeWriter_destined, put, destined_of_goes goes, Mailbox.ahead_snoc unsealed,
      List.append_assoc]
  · exact .inl (.inr (.inl (wakeWriter_jobs_subset _ asked)))
  · left
    refine .inr (.inr ?_)
    rw [wakeWriter_mailbox]
    exact waits

/-- An answer that waits goes on waiting, or it comes behind all that is about to be written. -/
theorem work (h : Awaits message hand s) (goes : s.ending? = none)
    (unsealed : .close ∉ s.mailbox.letters) (work : Work outside hand s next after) :
    Awaits message next after ∨ after.destined = s.destined ++ [message] := by
  have stays {next : Hand} {session : Session} {world : ω}
      (none : hand.entry? ≠ some (.message message, .read)) :
      Awaits message next { s with session := session, world := world } ∨
        Server.destined { s with session := session, world := world } = s.destined ++ [message] :=
    .inl (h.still (fun own => absurd own none) (fun _ => id) fun _ => id)
  cases work with
  | lost works none =>
      refine stays fun own => ?_
      cases hand with
      | job asked =>
          cases asked with
          | place letter sequel =>
              obtain ⟨rfl, rfl⟩ := Prod.mk.inj (Option.some.inj own)
              exact works
          | _ => exact nomatch own
      | send letter sequel =>
          obtain ⟨rfl, rfl⟩ := Prod.mk.inj (Option.some.inj own)
          exact works
      | _ => exact nomatch own
  | place wanted => exact h.posted s.mailbox.room rfl goes unsealed rfl
  | @unwanted _ letter sequel stale =>
      left
      refine Awaits.freePlaces (h.still (fun own => ?_) (fun _ => id) fun _ => id) 1
      obtain ⟨rfl, rfl⟩ := Prod.mk.inj (Option.some.inj own)
      exact nomatch stale
  | wake same =>
      left
      refine h.still (fun own => nomatch own) (enlist_jobs_subset (s.withPipeline _)) ?_
      rw [enlist_mailbox]
      exact fun _ => id
  | post room =>
      obtain ⟨-, is⟩ := send?_eq_some room
      exact h.posted _ rfl goes unsealed is
  | @await _ letter sequel full =>
      left
      rcases h with mine | asked | waits
      · obtain ⟨rfl, rfl⟩ := Prod.mk.inj (Option.some.inj mine)
        exact .inr (.inr (List.mem_append_right _ List.mem_cons_self))
      · exact .inr (.inl asked)
      · exact .inr (.inr (List.mem_append_left _ waits))
  | giveUp same superseded own =>
      rcases own with rfl | ⟨document, result, rfl⟩
      · exact stays (by simp [Hand.entry?])
      · exact stays (by simp [Hand.entry?])
  | _ => exact stays (by simp [Hand.entry?])

/-- A job that gets its turn is in hand. -/
theorem turn (h : Awaits message .free s) {place : Nat} {job : Job}
    (found : s.jobs[place]? = some job) : Awaits message (.job job) (s.without place) := by
  rcases h with own | asked | waits
  · exact nomatch own
  · rcases List.mem_cons.mp ((eraseIdx_perm found).mem_iff.mpr asked) with same | other
    · exact .inl (by rw [← same]; rfl)
    · exact .inr (.inl other)
  · exact .inr (.inr waits)

/-- Who waits with an answer has a turn to come. -/
theorem turns (h : Awaits message hand s) (entry : hand.entry? = none) :
    0 < Rates.turns.server s := by
  have positive : 0 < Rates.turns.entry (.message message, .read) := by
    simp [Rates.entry, Rates.letter, message_free, Rates.sequel, Rates.turns]
  refine Nat.pos_of_ne_zero fun none => ?_
  obtain ⟨⟨⟨-, jobs⟩, waiting⟩, -⟩ : ((_ ∧ totalCost Rates.turns.job s.jobs = 0) ∧
      totalCost Rates.turns.entry s.mailbox.waiting = 0) ∧ _ := by
    simpa only [Rates.server, Nat.add_eq_zero_iff] using none
  rcases h with own | asked | waits
  · rw [entry] at own
    cases own
  · exact absurd ((totalCost_eq_zero _).mp jobs _ asked) (Nat.ne_of_gt positive)
  · exact absurd ((totalCost_eq_zero _).mp waiting _ waits) (Nat.ne_of_gt positive)

/-- Nobody waits while the reader has the turn. -/
theorem notReading (reading : Reading (.go .read) s) : ¬ Awaits message (.go .read) s := by
  intro h
  have once := reading.once
  have more := h.turns rfl
  simp only [Rates.tally, Rates.hand, Rates.sequel, Rates.turns] at once more
  omega

end Awaits

/-- The last letter is not in the mailbox while the reading goes on. -/
theorem Reading.unsealed (h : Reading hand s) (reading : s.closing? = none) :
    .close ∉ s.mailbox.letters := by
  intro member
  have none := h.before reading
  simp only [Rates.tally, Rates.server, Nat.add_eq_zero_iff] at none
  exact absurd ((totalCost_eq_zero _).mp none.2.1.1.1.2 _ member) Nat.one_ne_zero

end Server

end AsmDiagnostics
