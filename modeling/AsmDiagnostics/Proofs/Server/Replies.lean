import AsmDiagnostics.Proofs.Server.Account

/-!
# What a server sends

A run sends notices, and full reports in answer to questions.  All other messages are answers that
the session gives at once, and none of them is sent more often than it has been given.
-/

namespace AsmDiagnostics

/-- A letter that comes last is in front of the last letter if that is not there yet. -/
theorem Mailbox.ahead_append_singleton (letters : List Letter) (letter : Letter) :
    ahead (letters ++ [letter]) = ahead letters ∨ ∃ message, letter = .message message ∧
      ahead (letters ++ [letter]) = ahead letters ++ [message] := by
  induction letters with
  | nil =>
      cases letter with
      | close => exact .inl rfl
      | message content => exact .inr ⟨content, rfl, rfl⟩
  | cons first letters ih =>
      cases first with
      | close => exact .inl rfl
      | message content =>
          refine ih.imp (congrArg (content :: ·)) ?_
          rintro ⟨message, own, same⟩
          exact ⟨message, own, congrArg (content :: ·) same⟩

namespace Server

open Message

variable {ω : Type} {outside : Outside ω}

/-- A notice, or a full report in answer to a question. -/
def IsTold (message : Json) : Prop :=
  IsNotice message ∨ ∃ id diagnostics, message = answer id (fullReport diagnostics)

theorem report_isTold (run : Run Json) (diagnostics : List Diagnostic) :
    IsTold (report run diagnostics) := by
  unfold report
  cases run.trigger with
  | push => exact .inl (publishDiagnostics_isNotice _ _)
  | pull id => exact .inr ⟨id, diagnostics, rfl⟩

def IsFree (cost : Json → Nat) : Prop := ∀ message, IsTold message → cost message = 0

/-- A letter is on its way to the mailbox, and what its sender does next. -/
def Sending (letter : Letter) (sequel : Sequel) (hand : Hand) (s : Server ω) : Prop :=
  hand.entry? = some (letter, sequel) ∨ .place letter sequel ∈ s.jobs ∨
    (letter, sequel) ∈ s.mailbox.waiting

def Tells (letter : Letter) (sequel : Sequel) : Prop :=
  isReader sequel = false ∧ ∀ message, letter = .message message → IsTold message

variable {hand next : Hand} {s after : Server ω} {letter : Letter} {sequel : Sequel}

theorem wakeWriter_sending (h : Sending letter sequel .free s.wakeWriter) :
    Sending letter sequel .free s := by
  rcases h with own | asked | waits
  · exact nomatch own
  · refine .inr (.inl ?_)
    rcases wakeWriter_jobs s with same | more
    · exact same ▸ asked
    · rw [more] at asked
      exact (List.mem_append.mp asked).resolve_right (by simp)
  · exact .inr (.inr (wakeWriter_mailbox s ▸ waits))

theorem enlist_sending (h : Sending letter sequel hand s.enlist) : Sending letter sequel hand s := by
  obtain ⟨tasks, jobs, -⟩ := enlist_jobs s
  refine h.imp id (.imp (fun asked => ?_) fun waits => enlist_mailbox s ▸ waits)
  rw [jobs] at asked
  exact (List.mem_append.mp asked).resolve_right (by simp)

/-- The reader or the writer asks for a turn. -/
theorem ask_sending {job : Job} (plain : job = .read ∨ job = .write)
    (h : Sending letter sequel .free (s.ask job)) : Sending letter sequel .free s := by
  refine h.imp id (.imp (fun asked => ?_) id)
  refine (List.mem_append.mp asked).resolve_right fun new => ?_
  have same := List.mem_singleton.mp new
  rcases plain with rfl | rfl <;> cases same

/-- The letter of a job that gets its turn is in hand. -/
theorem sending_turn {place : Nat} {job : Job} (found : s.jobs[place]? = some job)
    (h : Sending letter sequel (.job job) (s.without place)) : Sending letter sequel .free s := by
  rcases h with own | asked | waits
  · refine .inr (.inl (List.mem_of_getElem? (i := place) ?_))
    cases job with
    | place other next =>
        obtain ⟨rfl, rfl⟩ := Prod.mk.inj (Option.some.inj own)
        exact found
    | _ => cases own
  · exact .inr (.inl (List.mem_of_mem_eraseIdx asked))
  · exact .inr (.inr waits)

theorem freePlaces_sending {count : Nat} (h : Sending letter sequel .free (s.freePlaces count)) :
    Sending letter sequel .free s := by
  rcases h with own | asked | waits
  · exact nomatch own
  · rcases List.mem_append.mp asked with old | new
    · exact .inr (.inl old)
    · obtain ⟨entry, served, same⟩ := List.mem_map.mp new
      obtain ⟨rfl, rfl⟩ := Job.place.inj same
      exact .inr (.inr (List.mem_filter.mp (List.mem_of_mem_take served)).1)
  · exact .inr (.inr (List.mem_filter.mp (List.mem_of_mem_drop waits)).1)

theorem write_sending (h : Sending letter sequel .free s.write) :
    Sending letter sequel .free s := by
  unfold Server.write at h
  dsimp only at h
  split at h
  · exact h
  · exact freePlaces_sending h

/-- What is sent with nothing in hand is sent whatever is in hand. -/
theorem Sending.any (h : Sending letter sequel .free s) : Sending letter sequel hand s :=
  .inr (h.resolve_left nofun)

/-- What is on its way was so before, or a run is about to tell it. -/
theorem Work.sending (work : Work outside hand s next after)
    (h : Sending letter sequel next after) :
    Sending letter sequel hand s ∨ next = .send letter sequel ∧ Tells letter sequel := by
  have still {other : Hand} {session : Session} {world : ω} (none : other.entry? = .none)
      (h : Sending letter sequel other { s with session := session, world := world }) :
      Sending letter sequel hand s ∨ next = .send letter sequel ∧ Tells letter sequel :=
    .inl (.inr (h.resolve_left fun own => nomatch none.symm.trans own))
  have told {session : Session} {message : Json} {goesOn : Sequel}
      (sends : next = .send (.message message) goesOn) (run : isReader goesOn = false)
      (form : IsTold message) (h : Sending letter sequel next { s with session := session }) :
      Sending letter sequel hand s ∨ next = .send letter sequel ∧ Tells letter sequel := by
    subst sends
    rcases h with mine | elsewhere
    · obtain ⟨rfl, rfl⟩ := Prod.mk.inj (Option.some.inj mine)
      exact .inr ⟨rfl, run, fun other same => Letter.message.inj same ▸ form⟩
    · exact .inl (.inr elsewhere)
  cases work with
  | place wanted => exact .inl (wakeWriter_sending (.inr (h.resolve_left nofun))).any
  | unwanted stale => exact .inl (freePlaces_sending h).any
  | wake same => exact still rfl (enlist_sending h)
  | clear same found => exact told rfl rfl (.inl (publishDiagnostics_isNotice _ _)) h
  | complain same failed => exact told rfl rfl (.inl (logError_isNotice _)) h
  | deliver same current => exact told rfl rfl (report_isTold _ _) h
  | post room =>
      obtain ⟨-, rfl⟩ := send?_eq_some room
      exact .inl (wakeWriter_sending (.inr (h.resolve_left nofun))).any
  | await full =>
      left
      rcases h with own | asked | waits
      · exact nomatch own
      · exact .inr (.inl asked)
      · rcases List.mem_append.mp waits with old | new
        · exact .inr (.inr old)
        · obtain ⟨rfl, rfl⟩ := Prod.mk.inj (List.mem_singleton.mp new)
          exact .inl rfl
  | _ => exact still rfl h

/-- All that is about to be written was so before, or comes out of the hand. -/
theorem Work.destined_cases (work : Work outside hand s next after) :
    after.destined = s.destined ∨ ∃ message sequel, hand.entry? = some (.message message, sequel) ∧
      next = .go sequel ∧ after.destined = s.destined ++ [message] := by
  have posted {letter : Letter} {sequel : Sequel} {room : Nat}
      (own : hand.entry? = some (letter, sequel)) (goesOn : next = .go sequel)
      (is : after = { s with mailbox := { s.mailbox with
        letters := s.mailbox.letters ++ [letter], room := room } }.wakeWriter) :
      after.destined = s.destined ∨ ∃ message sequel,
        hand.entry? = some (.message message, sequel) ∧ next = .go sequel ∧
          after.destined = s.destined ++ [message] := by
    rw [is, wakeWriter_destined]
    unfold Server.destined hasEnded
    cases s.ending? with
    | some how => exact .inl rfl
    | none =>
        refine (Mailbox.ahead_append_singleton s.mailbox.letters letter).imp
          (congrArg (s.outbox ++ ·)) ?_
        rintro ⟨message, rfl, longer⟩
        refine ⟨message, sequel, own, goesOn, ?_⟩
        exact (congrArg (s.outbox ++ ·) longer).trans (List.append_assoc _ _ _).symm
  cases work with
  | place wanted => exact posted rfl rfl rfl
  | wake same => exact .inl (enlist_destined _)
  | post room => exact posted rfl rfl (send?_eq_some room).2
  | _ => exact .inl rfl

/-- The writer writes what was about to be written. -/
theorem write_destined_eq (goes : s.ending? = none) (last : s.takesLast = true → s.closing?.isSome) :
    s.write.destined = s.destined := by
  have taken := Mailbox.takeFirst_ahead s.writer.lettersInTurn s.mailbox.letters
  unfold destined hasEnded
  rw [write_ending?, write_outbox, write_letters, List.append_assoc, ← taken, goes]
  cases sealed : s.takesLast with
  | true =>
      have sealed' : (Mailbox.takeFirst s.writer.lettersInTurn s.mailbox.letters).2.2 = true := sealed
      rw [if_pos rfl, last sealed, sealed']
      simp
  | false =>
      have open? : (Mailbox.takeFirst s.writer.lettersInTurn s.mailbox.letters).2.2 = false := sealed
      rw [if_neg Bool.false_ne_true, open?]
      rfl

/-- All that is sent but notices and reports is among some answers, each as often as it is given,
and an answer that waits is the last of them. -/
structure Replies (answers : List Json) (hand : Hand) (s : Server ω) : Prop where
  goes : hand ≠ .free → s.ending? = none
  weighs : ∀ cost, IsFree cost → totalCost cost s.destined ≤ totalCost cost answers
  waits : ∀ message, Sending (.message message) .read hand s → ∃ given,
    answers = given ++ [message] ∧
      ∀ cost, IsFree cost → totalCost cost s.destined ≤ totalCost cost given
  tells : ∀ letter sequel, isReader sequel = false → Sending letter sequel hand s →
    Tells letter sequel

namespace Replies

variable {answers : List Json}

/-- What sends nothing new keeps it. -/
theorem same (h : Replies answers hand s) (goes : next ≠ .free → after.ending? = none)
    (destined : after.destined = s.destined)
    (sending : ∀ letter sequel, Sending letter sequel next after → Sending letter sequel hand s) :
    Replies answers next after := by
  refine ⟨goes, ?_, ?_, fun letter sequel run sends => h.tells letter sequel run (sending _ _ sends)⟩
  · rw [destined]
    exact h.weighs
  · intro message waits
    rw [destined]
    exact h.waits message (sending _ _ waits)

theorem work (h : Replies answers hand s) (reading : Reading next after)
    (work : Work outside hand s next after) : Replies answers next after := by
  have busy : hand ≠ .free := by
    rintro rfl
    cases work with
    | lost works none => exact works
  have sequels {sequel : Sequel} (reads : isReader sequel ≠ false) : sequel = .read := by
    cases sequel <;> simp_all [isReader]
  -- the letter that is put into the mailbox is told, or is the last answer
  have weighs : ∀ cost, IsFree cost → totalCost cost after.destined ≤ totalCost cost answers := by
    intro cost free
    rcases work.destined_cases with same | ⟨message, sequel, own, -, longer⟩
    · exact same ▸ h.weighs cost free
    · rw [longer, totalCost_append]
      by_cases run : isReader sequel = false
      · have told := (h.tells _ _ run (.inl own)).2 message rfl
        simpa [totalCost, free message told] using h.weighs cost free
      · obtain rfl := sequels run
        obtain ⟨given, rfl, less⟩ := h.waits message (.inl own)
        rw [totalCost_append]
        exact Nat.add_le_add_right (less cost free) _
  refine ⟨fun _ => work.untouched.2.2.2.2.trans (h.goes busy), weighs, ?_, ?_⟩
  · intro message waits
    obtain ⟨given, all, less⟩ := h.waits message ((work.sending waits).resolve_right fun tells => by
      simpa [isReader] using tells.2.1)
    refine ⟨given, all, fun cost free => ?_⟩
    rcases work.destined_cases with same | ⟨other, sequel, own, rfl, longer⟩
    · exact same ▸ less cost free
    · by_cases run : isReader sequel = false
      · have told := (h.tells _ _ run (.inl own)).2 other rfl
        rw [longer, totalCost_append]
        simpa [totalCost, free other told] using less cost free
      · obtain rfl := sequels run
        exact absurd waits (Awaits.notReading reading)
  · intro letter sequel run sends
    exact (work.sending sends).elim (h.tells letter sequel run) And.right

/-- The reader takes a frame, and holds its answer. -/
theorem frame (h : Replies answers (.go .read) s) (reading : Reading (.go .read) s)
    (session : Session) (rest : List UInt8) (answer? : Option Json)
    (own : next.entry? = answer?.map fun answer => (.message answer, .read)) :
    Replies (answers ++ answer?.toList) next (s.afterFrame session rest) := by
  have goes : s.ending? = none := h.goes nofun
  have before {letter : Letter} {sequel : Sequel}
      (sends : Sending letter sequel .free (s.afterFrame session rest)) :
      Sending letter sequel (.go .read) s :=
    have taken : Sending letter sequel .free { s with session := session, unread := rest } :=
      enlist_sending sends
    have still : Sending letter sequel .free s := taken
    still.any
  refine ⟨fun _ => (afterFrame_ending? s session rest).trans goes, ?_, ?_, ?_⟩
  · intro cost free
    rw [afterFrame_destined, totalCost_append]
    exact Nat.le_add_right_of_le (h.weighs cost free)
  · intro message waits
    rcases waits with mine | elsewhere
    · rw [own] at mine
      obtain ⟨answer, given, same⟩ := Option.map_eq_some_iff.mp mine
      obtain rfl := Letter.message.inj (Prod.mk.inj same).1
      refine ⟨answers, by rw [given]; rfl, fun cost free => ?_⟩
      rw [afterFrame_destined]
      exact h.weighs cost free
    · exact absurd (before (.inr elsewhere)) (Awaits.notReading reading)
  · intro letter sequel run sends
    rcases sends with mine | elsewhere
    · rw [own] at mine
      obtain ⟨answer, given, same⟩ := Option.map_eq_some_iff.mp mine
      obtain rfl := (Prod.mk.inj same).2
      exact nomatch run
    · exact h.tells letter sequel run (before (.inr elsewhere))

/-- The reading ends, and nothing is on its way to the mailbox but what was before. -/
theorem closing (h : Replies answers hand s) (busy : hand ≠ .free) (ending : Ending) :
    Replies answers (.send .close .nothing) (s.closingWith ending) := by
  have elsewhere {letter : Letter} {sequel : Sequel} (message : letter ≠ .close)
      (sends : Sending letter sequel (.send .close .nothing) (s.closingWith ending)) :
      Sending letter sequel hand s := by
    refine .inr (sends.resolve_left fun own => message ?_)
    exact (Prod.mk.inj (Option.some.inj own)).1.symm
  refine ⟨fun _ => h.goes busy, h.weighs, fun message waits => h.waits message (elsewhere nofun waits),
    fun letter sequel run sends => ?_⟩
  cases letter with
  | message content => exact h.tells _ sequel run (elsewhere nofun sends)
  | close => exact ⟨run, nofun⟩

theorem write (h : Replies answers (.job .write) s) (lawful : Lawful (.job .write) s)
    (reading : Reading (.job .write) s) : Replies answers .free s.write :=
  h.same (fun busy => absurd rfl busy) (write_destined_eq (h.goes nofun) (reading.last lawful))
    fun _ _ sends => (write_sending sends).any

/-- A job that gets its turn is in hand. -/
theorem turn (h : Replies answers .free s) (goes : s.ending? = none) {place : Nat} {job : Job}
    (found : s.jobs[place]? = some job) : Replies answers (.job job) (s.without place) :=
  h.same (fun _ => goes) rfl fun _ _ sends => sending_turn found sends

/-- The reader or the writer asks for a turn. -/
theorem asked (h : Replies answers .free s) {job : Job} (plain : job = .read ∨ job = .write) :
    Replies answers .free (s.ask job) := by
  exact h.same (fun busy => absurd rfl busy) rfl fun _ _ sends => ask_sending plain sends

theorem wakeReader (h : Replies answers .free s) : Replies answers .free s.wakeReader := by
  unfold Server.wakeReader
  split
  · exact h
  · exact h.asked (.inl rfl)

end Replies

end Server

end AsmDiagnostics
