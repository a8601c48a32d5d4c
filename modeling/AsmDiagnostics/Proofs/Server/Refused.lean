import AsmDiagnostics.Proofs.Server.OpenDocuments
import AsmDiagnostics.Proofs.Session.Refused

/-!
# Frames that a server refuses

A server that comes to a frame which its session refuses goes on right behind that frame, and
nothing else about it has changed; the reply to the frame is all that is sent.
-/

namespace AsmDiagnostics.Server

open Message

variable {ω : Type} {outside : Outside ω} {s : Server ω} {body rest : List UInt8}

/-- Nothing asks for a turn when all that waits lies in the future. -/
theorem Punctual.enlist_eq (h : s.Punctual) : s.enlist = s := by
  cases same : s.session.pipeline? with
  | none => simp [enlist, same]
  | some p =>
      have late : ∀ entry ∈ p.agenda, ¬ entry.due ≤ p.now := fun entry member =>
        Nat.not_le_of_lt ((h p same).later entry member)
      have nobody : p.agenda.takeWhile (fun entry => decide (entry.due ≤ p.now)) = [] := by
        cases agenda : p.agenda with
        | nil => rfl
        | cons first others =>
            exact List.takeWhile_cons_of_neg (by simpa using late first (agenda ▸ List.mem_cons_self))
      have all : p.agenda.dropWhile (fun entry => decide (entry.due ≤ p.now)) = p.agenda := by
        have both := List.takeWhile_append_dropWhile (l := p.agenda)
          (p := fun entry => decide (entry.due ≤ p.now))
        rwa [nobody] at both
      simp only [enlist, same, nobody, all, List.map_nil, List.append_nil, withPipeline]
      rw [← same]

/-- What the reader does next when it has refused a frame. -/
def rebuffing : Option Json → Hand
  | none => .go .read
  | some reply => .send (.message reply) .read

/-- The reader passes over a frame that is refused, and sends the reply; that is the one thing it can
do. -/
theorem Punctual.refuses (h : s.Punctual) (reading : s.closing? = none)
    (frame : Frame.next s.isClosed s.unread = .frame body rest) {reply? : Option Json}
    (taken : s.session.take body = ⟨reply?, false, s.session⟩) {next : Hand} {after : Server ω} :
    Step outside (.go .read) s next after ↔
      next = rebuffing reply? ∧ after = { s with unread := rest } := by
  have behind : s.afterFrame (s.session.take body).session rest = { s with unread := rest } := by
    rw [taken]
    have still : Punctual { s with unread := rest } := h
    exact still.enlist_eq
  have same {other behind : List UInt8}
      (found : Frame.next s.isClosed s.unread = .frame other behind) :
      other = body ∧ behind = rest := by
    injection found.symm.trans frame with one two
    exact ⟨one, two⟩
  constructor
  · intro step
    cases step with
    | work work =>
        cases work with
        | lost works => exact works.elim
    | stay past => simp [reading] at past
    | pause _ part => exact nomatch part.symm.trans frame
    | stop _ ends => simp [inputEnding?, frame] at ends
    | exit _ found ends =>
        obtain ⟨rfl, rfl⟩ := same found
        simp [taken] at ends
    | pass _ found _ silent =>
        obtain ⟨rfl, rfl⟩ := same found
        rw [taken] at silent
        obtain rfl : reply? = none := silent
        exact ⟨rfl, behind⟩
    | answer _ found _ replies =>
        obtain ⟨rfl, rfl⟩ := same found
        rw [taken] at replies
        obtain rfl : reply? = some _ := replies
        exact ⟨rfl, behind⟩
  · rintro ⟨rfl, rfl⟩
    rw [← behind]
    cases reply? with
    | none => exact .pass reading frame (by rw [taken]) (by rw [taken])
    | some reply => exact .answer reading frame (by rw [taken]) (by rw [taken])

/-- Where the reading goes on, whatever waits lies in the future. -/
theorem punctual_reached {settings : Settings} {world : ω} {input : List UInt8}
    (reached : Reaches outside .free (start settings world) input (.go .read) s)
    (reading : s.closing? = none) : s.Punctual := by
  have kept : Kept outside .any (orderly (ω := ω)) := orderly_kept
  obtain ⟨⟨-, readable⟩, punctual⟩ := (kept.and punctual_kept).reaches
    ⟨start_orderly settings world, fun _ p same => nomatch same⟩ reached
  refine punctual (Option.not_isSome_iff_eq_none.mp fun ended => ?_)
  simpa [reading] using readable.ended ended

/-- Wherever in a story the reader comes to a frame that the session refuses, it goes on right
behind that frame.  Nothing else has changed about the server, its session, its documents, its timers
and its runs; an error or an empty report is sent if the frame is no notification and no response.
All frames behind are taken as if that one were not there. -/
theorem refused_frames_leave_no_trace (outside : Outside ω) (settings : Settings) (world : ω)
    {input : List UInt8}
    (reached : Reaches outside .free (start settings world) input (.go .read) s)
    (reading : s.closing? = none) (frame : Frame.next s.isClosed s.unread = .frame body rest)
    (refused : s.session.Refuses body) :
    ∃ reply?, Session.Rebuff body reply? ∧ s.session.take body = ⟨reply?, false, s.session⟩ ∧
      (∀ next after, Step outside (.go .read) s next after ↔
        next = rebuffing reply? ∧ after = { s with unread := rest }) ∧
      ∀ later, s.session.afterAll (body :: later) = s.session.afterAll later ∧
        s.session.exchanges (body :: later) =
          (reply?.toList.map fun reply => (body, reply)) ++ s.session.exchanges later := by
  obtain ⟨reply?, rebuff, taken⟩ := Session.take_refused refused
  exact ⟨reply?, rebuff, taken,
    fun _ _ => (punctual_reached reached reading).refuses reading frame taken,
    Session.exchanges_refused taken⟩

/-- Bytes come in while the reader waits for none. -/
theorem hear_idle (idle : s.readerWaits = false) (bytes : List UInt8) :
    s.hear bytes = { s with unread := s.unread ++ bytes, jobs := s.jobs ++ [.read] } := by
  have still : readerWaits { s with unread := s.unread ++ bytes } = false := idle
  simp [hear, wakeReader, still, ask]

namespace Editor

def stranger : Uri := ⟨"file:///w/b", "file", "", "/w/b"⟩

def misdirected : List UInt8 :=
  notice "textDocument/didChange" (Json.object [("textDocument",
    Json.object [("uri", .str stranger.text), ("version", .int 2)]), ("contentChanges", .arr [])])

/-- The server in the morning, when the change of that document comes in. -/
def approached : Server Nat :=
  ((start .default 0).play toolless morning).hear (Frame.write misdirected)

/-- The reader has the turn in which it finds the change. -/
def misled : Server Nat := approached.without 0

end Editor

/-- A change of a document that is not open is passed over while another document, which is open,
waits for its build. -/
theorem misdirected_change_refused :
    let s := Editor.misled
    s.session.documents.contains Sample.uri ∧
      (s.session.pipeline?.any fun p => p.debouncer.isPending Sample.uri) ∧
      ∃ reply?, Session.Rebuff Editor.misdirected reply? ∧
        s.session.take Editor.misdirected = ⟨reply?, false, s.session⟩ := by
  intro s
  obtain ⟨goes, idle, jobs, opened, closed, hanging, unread, held, pending⟩ :
      ((start .default 0).play Editor.toolless Editor.morning).ending? = none ∧
        ((start .default 0).play Editor.toolless Editor.morning).readerWaits = false ∧
        ((start .default 0).play Editor.toolless Editor.morning).jobs.isEmpty ∧
        ((start .default 0).play Editor.toolless Editor.morning).isClosed = false ∧
        s.closing? = none ∧ s.isClosed = false ∧ s.unread = Frame.write Editor.misdirected ∧
        s.session.documents.contains Sample.uri ∧
        (s.session.pipeline?.any fun p => p.debouncer.isPending Sample.uri) := by
    decide +kernel
  obtain ⟨params, notice, elsewhere⟩ : ∃ params,
      Notice.ofBody? Editor.misdirected = some (.changed params) ∧
        s.session.documents.contains params.uri = false := by
    refine ⟨⟨Editor.stranger, 2, []⟩, ?_⟩
    decide +kernel
  have heard : (start .default 0).play Editor.toolless
      (Editor.morning ++ [.hear (Frame.write Editor.misdirected)]) = Editor.approached := by
    rw [play_append, Editor.approached]
    simp [play, move, unlessEnded, hasEnded, goes, opened]
  have asked : Editor.approached.jobs[0]? = some .read := by
    rw [Editor.approached, hear_idle idle, List.isEmpty_iff.mp jobs]
    rfl
  have waits : Editor.approached.ending? = none := by
    rw [Editor.approached, hear_idle idle]
    exact goes
  have reached : Reaches Editor.toolless .free (start .default 0) _ (.go .read) s :=
    .beyond (.refl _ _) (Editor.morning ++ [.hear (Frame.write Editor.misdirected)])
      (.within (heard ▸ waits) (heard ▸ asked) (heard ▸ (Work.read _).once))
  have frame : Frame.next s.isClosed s.unread = .frame Editor.misdirected [] := by
    rw [unread, ← List.append_nil (Frame.write _)]
    exact Frame.next_write_append _ (by decide +kernel) []
  obtain ⟨reply?, rebuff, taken, -⟩ := refused_frames_leave_no_trace Editor.toolless .default 0
    reached closed frame (.unheld notice elsewhere)
  exact ⟨held, pending, reply?, rebuff, taken⟩

end AsmDiagnostics.Server
