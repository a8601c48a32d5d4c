import AsmDiagnostics.Proofs.Server.Account
import AsmDiagnostics.Proofs.Server.Places
import AsmDiagnostics.Proofs.Server.Punctual
import AsmDiagnostics.Proofs.Server.Schedule
import Mathlib.Data.List.Perm.Subperm

/-!
# Every request is answered once

What a server has written, at any time of any story, compared with the frames that it has read: every
frame that is to be answered is answered under its id and once.  The answers that need no build go
out in the order of their frames.  A question for the diagnostics of an open document may stay open;
when nobody asks for a turn any more, and the session goes on, its build is still running.
-/

namespace AsmDiagnostics

section Cost

variable {α : Type}

/-- Lists that weigh the same whatever their things weigh have the same things. -/
theorem perm_of_costs {first second : List α}
    (same : ∀ cost : α → Nat, totalCost cost first = totalCost cost second) :
    first.Perm second := by
  classical
  refine List.perm_iff_count.mpr fun a => ?_
  rw [← totalCost_count, ← totalCost_count]
  exact same _

/-- A list that never weighs more than another is a part of it. -/
theorem exists_perm_of_costs {first second : List α}
    (less : ∀ cost : α → Nat, totalCost cost first ≤ totalCost cost second) :
    ∃ rest, (first ++ rest).Perm second := by
  classical
  refine ⟨second.diff first, List.subperm_append_diff_self_of_count_le fun a _ => ?_⟩
  rw [← totalCost_count, ← totalCost_count]
  exact less _

end Cost

namespace Server

open Message

variable {ω : Type} {outside : Outside ω}

def idsOf (messages : List Json) : List Json := messages.filterMap fun message => message.get? "id"

/-- The id of a question whose build runs. -/
def awaited? (entry : Planned (Task Json)) : Option Json :=
  match entry.action with
  | .finish ⟨_, _, .pull id⟩ _ _ => some id
  | _ => none

/-- The ids of the questions whose builds run. -/
def running (s : Server ω) : List Json :=
  s.session.pipeline?.elim [] fun pipeline => pipeline.agenda.filterMap awaited?

/-- How the answers of a server stand to the frames that it has read. -/
structure Answered (settings : Settings) (input : List UInt8) (bodies : List (List UInt8))
    (s : Server ω) : Prop where
  /-- These are the frames at the front of what has come in. -/
  reads : Frame.Reads s.isClosed input bodies s.unread
  /-- Every message is an answer, with either a result or an error, or a notice without an id. -/
  proper : ∀ message ∈ s.outbox, Proper message
  /-- The frames that need no build have each its answer, under the id that is due; a frame that
  holds no message is refused. -/
  given : ((Session.start settings).exchanges bodies).map Prod.fst =
      (Session.start settings).atOnce bodies ∧
    ∀ body answer, (body, answer) ∈ (Session.start settings).exchanges bodies →
      ∃ id, due? body = some id ∧ IsAnswer id answer ∧
        (isGarbled body = true → isRefusal answer = true)
  /-- The first of these answers are written, in their order. All other answers are to questions,
  one to each; when nobody asks for a turn, no answer is left but those of builds that run. -/
  once : ∃ sent later others unanswered : List Json,
    (Session.start settings).answers bodies = sent ++ later ∧ sent.Sublist s.outbox ∧
      s.outbox.Perm (sent ++ others) ∧
      (idsOf others ++ unanswered).Perm ((Session.start settings).questions bodies) ∧
      (s.next?.isNone → later = []) ∧
      (s.next?.isNone → s.ending? = none → unanswered = s.running)
  /-- While the session goes on it has not been told to end, and when nobody asks for a turn no
  whole frame is left to be read. -/
  onward : s.closing? = none → (∀ body ∈ bodies, isExit body = false) ∧
    (s.next?.isNone → Frame.next s.isClosed s.unread = .incomplete)
  /-- It ends when it is told to, or when no frame can come any more. -/
  ends : s.closing?.isSome → (∃ earlier last, bodies = earlier ++ [last] ∧
      (∀ body ∈ earlier, isExit body = false) ∧ isExit last = true) ∨
    (∀ body ∈ bodies, isExit body = false) ∧ Frame.NoMore s.isClosed s.unread
  /-- Once nobody asks for a turn, it is over only if it has ended. -/
  ended : s.next?.isNone → s.closing?.isSome → s.ending?.isSome

variable {settings : Settings} {input : List UInt8} {s : Server ω} {bodies : List (List UInt8)}

/-! ## Weights -/

theorem ids_message (w : Json → Nat) (messages : List Json) :
    totalCost (Rates.ids w).message messages = totalCost w (idsOf messages) :=
  (totalCost_filterMap w _ messages).symm

theorem ids_running (w : Json → Nat) (punctual : s.Punctual) :
    (Rates.ids w).session s.session = totalCost w s.running := by
  unfold Rates.session running
  cases same : s.session.pipeline? with
  | none => rfl
  | some p =>
      have weigh (entry : Planned (Task Json)) (member : entry ∈ p.agenda) :
          (Rates.ids w).task entry.action = (awaited? entry).elim 0 w := by
        have delayed := (punctual p same).isDelayed member
        unfold awaited?
        cases kind : entry.action with
        | wake uri generation => rfl
        | ask uri id => simp [kind, Task.isDelayed] at delayed
        | start run => simp [kind, Task.isDelayed] at delayed
        | finish run document result =>
            obtain ⟨uri, generation, trigger⟩ := run
            cases trigger with
            | push => rfl
            | pull id => rfl
      have all (agenda : List (Planned (Task Json))) (inside : ∀ entry ∈ agenda, entry ∈ p.agenda) :
          totalCost (fun entry => (Rates.ids w).task entry.action) agenda =
            totalCost (fun entry => (awaited? entry).elim 0 w) agenda := by
        induction agenda with
        | nil => rfl
        | cons entry agenda ih =>
            rw [List.forall_mem_cons] at inside
            simp only [totalCost, weigh entry inside.1, ih inside.2]
      exact (all p.agenda fun _ => id).trans (totalCost_filterMap w awaited? p.agenda).symm

/-- All ids that are due are those of the answers given at once and of the questions. -/
theorem due_costs (w : Json → Nat) (t : Session) (bodies : List (List UInt8)) :
    totalCost w (bodies.filterMap due?) =
      totalCost (Rates.ids w).message (t.answers bodies) + totalCost w (t.questions bodies) := by
  have exchanged (exchanges : List (List UInt8 × Json))
      (inside : ∀ exchange ∈ exchanges, exchange ∈ t.exchanges bodies) :
      totalCost w (exchanges.filterMap fun exchange => due? exchange.1) =
        totalCost (Rates.ids w).message (exchanges.map Prod.snd) := by
    induction exchanges with
    | nil => rfl
    | cons exchange exchanges ih =>
        rw [List.forall_mem_cons] at inside
        obtain ⟨id, due, form, -⟩ := Session.exchanges_due inside.1
        have one := message_answer (Rates.ids w) form
        simp only [List.filterMap_cons, due, totalCost, List.map_cons, ih inside.2, one]
        rfl
  rw [totalCost_perm w (t.due_perm bodies), totalCost_append, exchanged _ fun _ => id]
  rfl

theorem ahead_cost (w : Rates) (letters : List Letter) :
    totalCost w.message (Mailbox.ahead letters) ≤ totalCost w.letter letters := by
  induction letters with
  | nil => exact Nat.le_refl _
  | cons letter letters ih =>
      cases letter with
      | close => exact Nat.zero_le _
      | message content =>
          simp only [Mailbox.ahead, totalCost, Rates.letter]
          omega

/-- An answer that waits is weighed apart from what is written or about to be. -/
theorem awaits_cost (w : Rates) {message : Json} (waits : Awaits message .free s) :
    totalCost w.message s.outbox + totalCost w.letter s.mailbox.letters + w.message message ≤
      w.server s := by
  have less : w.message message ≤ w.entry (.message message, .read) := Nat.le_add_right _ _
  simp only [Rates.server]
  rcases waits with own | asked | waits
  · cases own
  · have job := totalCost_mem w.job asked
    simp only [Rates.job] at job
    omega
  · have entry := totalCost_mem w.entry waits
    omega

/-! ## At rest -/

theorem next?_isNone_iff : s.next?.isNone ↔
    s.ending?.isSome ∨ s.jobs = [] ∧ s.writer.isResting = false := by
  unfold next? hasEnded
  cases s.ending? with
  | some ending => simp
  | none =>
      cases s.jobs with
      | nil => cases resting : s.writer.isResting <;> simp
      | cons job jobs => simp

/-- A server that goes on and where nobody asks for a turn: the mailbox is empty, nobody waits, and
the reader has read all whole frames. -/
theorem Housed.rest (h : Housed .free s) (reading : Reading .free s) (goes : s.ending? = none)
    (rest : s.next?.isNone) : s.mailbox.letters = [] ∧ s.jobs = [] ∧ s.mailbox.waiting = [] ∧
      s.closing? = none ∧ Frame.next s.isClosed s.unread = .incomplete := by
  obtain past | ⟨jobs, awake⟩ := next?_isNone_iff.mp rest
  · simp [goes] at past
  · have idle : s.writer.isIdle = true := by
      cases idle : s.writer.isIdle with
      | true => rfl
      | false =>
          rcases h.awake idle with resting | asked | own
          · exact nomatch awake.symm.trans resting
          · simp [jobs] at asked
          · exact nomatch own
    have letters := h.idle idle
    have room := h.places
    simp only [letters, jobs, totalCost, Hand.promised, List.length_nil, Mailbox.capacity] at room
    have waiting : s.mailbox.waiting = [] := by
      cases line : s.mailbox.waiting with
      | nil => rfl
      | cons entry others =>
          have full := h.full (by simp [line])
          omega
    have nothing (w : Rates) (free : ∀ id, w.id id = 0) : w.tally .free s = 0 := by
      have outbox := (totalCost_eq_zero w.message).mpr fun m (_ : m ∈ s.outbox) =>
        message_free w free m
      simp [Rates.tally, Rates.hand, Rates.server, outbox, letters, jobs, waiting, totalCost,
        session_free w free]
    have closing : s.closing? = none := by
      refine Option.not_isSome_iff_eq_none.mp fun past => ?_
      have last := reading.after past goes
      rw [nothing Rates.lasts fun _ => rfl] at last
      exact Nat.lt_irrefl 0 last
    exact ⟨letters, jobs, waiting, closing, reading.pausing closing (nothing Rates.turns fun _ => rfl)⟩

namespace Account

variable (h : Account settings input .free s bodies)

include h

/-- The answers given at once are written, or they are about to be, or the last of them waits; those
that are not written weigh no more than what is on its way. -/
theorem written : ∃ sent ready last : List Json,
    (Session.start settings).answers bodies = sent ++ (ready ++ last) ∧ sent.Sublist s.outbox ∧
      ready.Sublist (bif s.hasEnded then [] else Mailbox.ahead s.mailbox.letters) ∧
      (last = [] ∨ ∃ message, last = [message] ∧ Awaits message .free s) ∧
      ∀ w : Rates,
        totalCost w.message s.outbox + totalCost w.message (ready ++ last) ≤ w.server s := by
  obtain ⟨all, inside, order⟩ := h.order
  obtain ⟨sent, ready, rfl, written, behind⟩ := List.sublist_append_iff.mp inside
  have near (w : Rates) : totalCost w.message ready ≤ totalCost w.letter s.mailbox.letters := by
    refine Nat.le_trans (totalCost_sublist w.message behind) ?_
    cases s.hasEnded with
    | true => exact Nat.zero_le _
    | false => exact ahead_cost w s.mailbox.letters
  rcases order with all | ⟨-, message, all, waits⟩
  · refine ⟨sent, ready, [], by rw [all, List.append_nil], written, behind, .inl rfl, fun w => ?_⟩
    have near := near w
    simp only [List.append_nil, Rates.server]
    omega
  · refine ⟨sent, ready, [message], by rw [all, List.append_assoc], written, behind,
      .inr ⟨message, rfl, waits⟩, fun w => ?_⟩
    have near := near w
    have apart := awaits_cost w waits
    simp only [totalCost_append, totalCost]
    omega

/-- What is written besides answers to questions. -/
theorem questioned {sent later others : List Json}
    (all : (Session.start settings).answers bodies = sent ++ later)
    (perm : s.outbox.Perm (sent ++ others))
    (weigh : ∀ w : Rates,
      totalCost w.message s.outbox + totalCost w.message later ≤ w.server s) :
    ∃ unanswered, (idsOf others ++ unanswered).Perm ((Session.start settings).questions bodies) := by
  refine exists_perm_of_costs fun w => ?_
  have due := due_costs w (Session.start settings) bodies
  have tally := h.tally w
  have weigh := weigh (Rates.ids w)
  rw [totalCost_perm _ perm, totalCost_append, ids_message w others] at weigh
  rw [all, totalCost_append] at due
  simp only [Rates.tally, Rates.hand] at tally
  omega

/-- When nobody asks for a turn, all answers given at once are written. -/
theorem settledAtRest (reading : Reading .free s)
    (housed : s.ending? = none → Housed .free s) (rest : s.next?.isNone) :
    ((Session.start settings).answers bodies).Sublist s.outbox := by
  obtain ⟨sent, inside, order⟩ := h.order
  cases ending : s.ending? with
  | some how =>
      have past : s.ending?.isSome := by simp [ending]
      rw [destined_of_over past] at inside
      rcases order with all | ⟨open?, -⟩
      · rw [all]
        exact inside
      · simpa [open?] using reading.ended past
  | none =>
      obtain ⟨letters, jobs, waiting, -, -⟩ := (housed ending).rest reading ending rest
      rw [destined_of_goes ending, letters, Mailbox.ahead, List.append_nil] at inside
      rcases order with all | ⟨-, message, -, own | asked | waits⟩
      · rw [all]
        exact inside
      · exact nomatch own
      · simp [jobs] at asked
      · simp [waiting] at waits

/-- When nobody asks for a turn and the session goes on, the builds of all questions run that are not
answered. -/
theorem runningAtRest (reading : Reading .free s) (housed : Housed .free s) (punctual : s.Punctual)
    (goes : s.ending? = none) (rest : s.next?.isNone) {others : List Json}
    (perm : s.outbox.Perm ((Session.start settings).answers bodies ++ others)) :
    (idsOf others ++ s.running).Perm ((Session.start settings).questions bodies) := by
  obtain ⟨letters, jobs, waiting, -, -⟩ := housed.rest reading goes rest
  refine perm_of_costs fun w => ?_
  have due := due_costs w (Session.start settings) bodies
  have tally := h.tally w
  have outbox := totalCost_perm (Rates.ids w).message perm
  rw [totalCost_append, ids_message w others] at outbox
  simp only [Rates.tally, Rates.hand, Rates.server, letters, jobs, waiting, totalCost,
    ids_running w punctual] at tally
  rw [totalCost_append]
  omega

end Account

/-- All that is kept at all times. -/
structure Sound (settings : Settings) (input : List UInt8) (hand : Hand) (s : Server ω) : Prop where
  lawful : Lawful hand s
  reading : Reading hand s
  housed : s.ending? = none → Housed hand s
  punctual : s.ending? = none → s.Punctual
  account : ∃ bodies, Account settings input hand s bodies

theorem start_lawful (settings : Settings) (world : ω) : Lawful .free (start settings world) where
  written _ member := nomatch member
  letters _ member := nomatch member
  line _ member := nomatch member
  places _ _ member := nomatch member
  held _ _ own := nomatch own
  idle _ := ⟨id, (fun _ member => nomatch member), fun _ member => nomatch member⟩

theorem start_reading (settings : Settings) (world : ω) : Reading .free (start settings world) where
  once := Nat.zero_le _
  pausing _ _ := by
    change Frame.next false [] = .incomplete
    rw [Frame.next, Frame.readHeader]
    rfl
  before _ := rfl
  after past := nomatch past
  ended past := nomatch past

theorem start_orderly (settings : Settings) (world : ω) : orderly [] .free (start settings world) :=
  ⟨start_lawful settings world, start_reading settings world⟩

theorem start_housed (settings : Settings) (world : ω) : Housed .free (start settings world) where
  places := rfl
  full crowded := absurd rfl crowded
  idle _ := rfl
  awake woken := nomatch woken

theorem start_account (settings : Settings) (world : ω) :
    Account settings [] .free (start settings world) [] where
  reads := .none []
  session := rfl
  tally _ := rfl
  order := ⟨[], List.nil_sublist _, .inl rfl⟩
  onward _ _ member := nomatch member
  ends past := nomatch past

theorem sound_play (outside : Outside ω) (settings : Settings) (world : ω) (moves : List (Move ω)) :
    Sound settings ((start settings world).input outside moves) .free
      ((start settings world).play outside moves) := by
  have kept : Kept outside .any (orderly (ω := ω)) := orderly_kept
  have known : orderly [] .free (start settings world) := start_orderly settings world
  have mail := (kept.and housed_kept).story ⟨known, fun _ => start_housed settings world⟩ moves
  have times := (kept.and punctual_kept).story ⟨known, fun _ p same => nomatch same⟩ moves
  have account := (kept.and (account_kept settings)).story
    ⟨known, [], start_account settings world⟩ moves
  exact ⟨mail.1.1, mail.1.2, mail.2, times.2, account.2⟩

/-- While the session goes on, whole frames are read on. -/
theorem Sound.onward (h : Sound settings input .free s) (account : Account settings input .free s bodies)
    (open? : s.closing? = none) : (∀ body ∈ bodies, isExit body = false) ∧
      (s.next?.isNone → Frame.next s.isClosed s.unread = .incomplete) := by
  refine ⟨account.onward open?, fun rest => ?_⟩
  have goes : s.ending? = none := Option.not_isSome_iff_eq_none.mp fun past => by
    simpa [open?] using h.reading.ended past
  exact ((h.housed goes).rest h.reading goes rest).2.2.2.2

/-- A session that is over ends once nobody asks for a turn. -/
theorem Sound.ended (h : Sound settings input .free s) (rest : s.next?.isNone)
    (past : s.closing?.isSome) : s.ending?.isSome := by
  by_contra goes
  have goes := Option.not_isSome_iff_eq_none.mp goes
  simp [((h.housed goes).rest h.reading goes rest).2.2.2.1] at past

theorem Sound.answered (h : Sound settings input .free s) :
    ∃ bodies, Answered settings input bodies s := by
  obtain ⟨bodies, account⟩ := h.account
  refine ⟨bodies, account.reads, h.lawful.written,
    ⟨Session.exchanges_fst _ _, fun _ _ => Session.exchanges_due⟩, ?_, h.onward account,
    account.ends, h.ended⟩
  · by_cases rest : s.next?.isNone
    · have written := account.settledAtRest h.reading h.housed rest
      have all := (List.append_nil ((Session.start settings).answers bodies)).symm
      obtain ⟨others, perm⟩ := written.exists_perm_append
      cases ending : s.ending? with
      | some how =>
          obtain ⟨unanswered, questions⟩ := account.questioned all perm fun w => by
            simp only [totalCost, Rates.server]
            omega
          exact ⟨_, [], others, unanswered, all, written, perm, questions, fun _ => rfl,
            fun _ goes => by cases goes⟩
      | none =>
          exact ⟨_, [], others, s.running, all, written, perm,
            account.runningAtRest h.reading (h.housed ending) (h.punctual ending) ending rest perm,
            fun _ => rfl, fun _ _ => rfl⟩
    · obtain ⟨sent, ready, last, all, written, -, -, weigh⟩ := account.written
      obtain ⟨others, perm⟩ := written.exists_perm_append
      obtain ⟨unanswered, questions⟩ := account.questioned all perm weigh
      exact ⟨sent, ready ++ last, others, unanswered, all, written, perm, questions,
        fun other => absurd other rest, fun other => absurd other rest⟩

/-- At any time of any story every frame that has been read is answered once if it is to be
answered, or is still to be.  What lies in the mailbox while the session goes on is written even if
the session ends.  And after some turns nobody asks for one any more. -/
theorem every_request_answered_once (outside : Outside ω) (settings : Settings) (world : ω)
    (earlier later : List (Move ω)) :
    let before := (start settings world).play outside earlier
    let s := before.play outside later
    (∃ bodies,
        Answered settings ((start settings world).input outside (earlier ++ later)) bodies s) ∧
      (before.closing? = none → s.ending?.isSome →
        before.outbox ++ before.mailbox.letters.filterMap Letter.content? <+: s.outbox) ∧
      Follows outside s (s.settle outside) ∧ (s.settle outside).next?.isNone := by
  intro before s
  have sound := sound_play outside settings world earlier
  refine ⟨?_, fun open? past => ?_, proceed_follows _ s, proceed_rests _ s⟩
  · have whole := sound_play outside settings world (earlier ++ later)
    rw [play_append] at whole
    exact whole.answered
  · have goes : before.ending? = none := Option.not_isSome_iff_eq_none.mp fun past => by
      simpa [open?, before] using sound.reading.ended past
    have kept : before.destined <+: (before.play outside later).destined :=
      (destined_kept before.destined).story List.prefix_rfl later
    rw [destined_of_over past, destined_of_goes goes,
      Mailbox.ahead_eq_filterMap (sound.reading.unsealed open?)] at kept
    exact kept

/-! ### An editor that leaves too early

The editor asks for the diagnostics of a document, sends many frames without a message in them, and
leaves, all at once.  The mailbox is full of refusals when the tool turns out to be missing; the
answer to the question waits behind them, and the last letter comes before it.
-/

namespace Editor

def request (id : Int) (method : String) (params : Json) : List UInt8 :=
  (Json.object [("id", .int id), ("method", .str method), ("params", params)]).bytes

def notice (method : String) (params : Json) : List UInt8 :=
  (Message.notification method params).bytes

def document : Json := .str "file:///w/a"

def introduction : List UInt8 := request 1 "initialize" (Json.object [("rootUri", .str "file:///w")])

def opening : List UInt8 :=
  notice "textDocument/didOpen" (Json.object [("textDocument",
    Json.object [("uri", document), ("version", .int 1), ("text", .str "")])])

def question : List UInt8 :=
  request 2 "textDocument/diagnostic"
    (Json.object [("textDocument", Json.object [("uri", document)])])

def farewell : List UInt8 := request 3 "shutdown" .null

/-- A world where the tool is missing, and where attempts to start it are counted. -/
def toolless : Outside Nat where
  pathExists _ _ := false
  build attempts _ := (⟨false, "", some (.toolNotFound "rgbasm")⟩, 0, attempts + 1)

def isId (number : Int) : Json → Bool
  | .int other => decide (other = number)
  | _ => false

def answersTo (number : Int) (message : Json) : Bool := (message.get? "id").any (isId number)

/-- The document is open, and the editor has sent the question, a hundred and fifty bodies without a
message, the notification that it leaves, and one more request. -/
def asked : List (Move Nat) :=
  [.hear (Frame.write introduction ++ Frame.write opening), .turn 0, .turn 0,
    .hear (Frame.write question ++ (List.replicate 150 (Frame.write [])).flatten ++
      Frame.write (notice "exit" .null) ++ Frame.write (request 3 "shutdown" .null))]

/-- The turns up to the one in which the editor is found to leave, in the order in which they were
asked for. -/
def turns : List (Move Nat) :=
  [.turn 0, .turn 0, .turn 0, .turn 0, .turn 0, .rest, .turn 0, .turn 0, .turn 0, .rest, .turn 0]

/-- The server before it finds that the editor leaves. -/
def deserted : Server Nat := (start .default 0).play toolless (asked ++ turns)

def ended : Server Nat := deserted.play toolless [.turn 0, .turn 0, .rest, .turn 0, .rest, .turn 0]

end Editor

/-- The build for a question is over while the session still goes on, and yet the question is never
answered; nor is a request behind the notification that ends the session. -/
theorem finished_build_unanswered :
    ((Session.question? Editor.deserted.session Editor.question).any (Editor.isId 2) = true ∧
        Editor.deserted.closing?.isNone ∧ Editor.deserted.world = 1 ∧
        Editor.deserted.running.isEmpty) ∧
      Editor.ended.ending?.isSome ∧ Editor.ended.outbox.length = 153 ∧
        Editor.ended.outbox.all fun message =>
          !Editor.answersTo 2 message && !Editor.answersTo 3 message := by
  decide +kernel

/-- A whole session over an input is a story in which the input comes in. -/
theorem run_story (outside : Outside ω) (settings : Settings) (world : ω) (input : List UInt8) :
    ∃ moves, (start settings world).play outside moves = run outside settings world input ∧
      (start settings world).input outside moves = input := by
  have fresh : (start settings world).readerWaits = false := rfl
  obtain ⟨moves, received, whole⟩ := receive_story rfl fresh rfl input
  have sound := sound_play outside settings world moves
  have rests : ((start settings world).receive outside input).next?.isNone := proceed_rests _ _
  have ready (goes : ((start settings world).receive outside input).ending? = none) :
      ((start settings world).receive outside input).readerWaits = false := by
    rw [received] at sound
    obtain ⟨-, jobs, waiting, -, -⟩ := (sound.housed goes).rest sound.reading goes rests
    simp [readerWaits, jobs, waiting]
  obtain ⟨others, ended, nothing⟩ : Follows outside _ _ := endInput_follows ready
  refine ⟨moves ++ others, ?_, ?_⟩
  · rw [play_append, received, ended]
    rfl
  · rw [input_append, received, whole, nothing, List.append_nil]

/-- A whole session over an input answers every frame of it that it reads. -/
theorem run_answered (outside : Outside ω) (settings : Settings) (world : ω) (input : List UInt8) :
    ∃ bodies, Answered settings input bodies (run outside settings world input) := by
  obtain ⟨moves, played, whole⟩ := run_story outside settings world input
  have sound := sound_play outside settings world moves
  rw [played, whole] at sound
  exact sound.answered

end Server

end AsmDiagnostics
