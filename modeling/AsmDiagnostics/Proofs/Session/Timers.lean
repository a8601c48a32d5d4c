import AsmDiagnostics.Proofs.Debouncer
import AsmDiagnostics.Proofs.Documents.Entries
import AsmDiagnostics.Proofs.Pipeline.Bookkeeping
import AsmDiagnostics.Proofs.Session.Notices

/-!
# Timers and open documents

Every event that is held back is for an open document, in its version, and so it stays whatever frame
is taken.  When files have changed, the timers of all open documents start anew.
-/

namespace AsmDiagnostics

open Message

/-- A timer that fires may only let go of an event. -/
theorem Debouncer.wake_fewer {κ π : Type} [DecidableEq κ] (d : Debouncer κ π) (key : κ)
    (generation : Nat) : (d.wake key generation).pending ⊆ d.pending := by
  unfold wake
  split
  · exact List.filter_subset_self _
  · exact List.Subset.refl _

namespace Pipeline

theorem wake_debouncer (p : Pipeline Json) (uri : Uri) (generation : Nat) :
    (p.wake uri generation).debouncer = p.debouncer.wake uri generation := by
  unfold wake
  split
  · exact begin_debouncer { p with debouncer := p.debouncer.wake uri generation } uri .push
  · rfl

/-- Every event that is held back is for an open document and carries its version. -/
def Tracks (p : Pipeline Json) (d : Documents) : Prop :=
  ∀ event ∈ p.debouncer.pending, ∃ document,
    d.get? event.key = some document ∧ document.version = event.payload

/-- The timer of an event has all of the window before it: it is due when the window is over, and no
other wakes up for the event. -/
structure HasFullWindow (p : Pipeline Json) (event : PendingEvent Uri Int) : Prop where
  waits : ⟨Agenda.after p.now p.window, .wake event.key event.generation⟩ ∈ p.agenda
  only : ∀ entry ∈ p.agenda, entry.action = .wake event.key event.generation →
    entry.due = Agenda.after p.now p.window

/-- The timers on the agenda belong to events that have come already. -/
def Stamped (p : Pipeline Json) : Prop :=
  ∀ entry ∈ p.agenda, ∀ uri generation, entry.action = .wake uri generation →
    generation ≤ p.debouncer.lastGeneration

def changeAll (p : Pipeline Json) (entries : List (Uri × TextDocument)) : Pipeline Json :=
  entries.foldl (fun p entry => p.change entry.1 entry.2.version) p

theorem changeAll_snoc (p : Pipeline Json) (entries : List (Uri × TextDocument))
    (entry : Uri × TextDocument) :
    p.changeAll (entries ++ [entry]) = (p.changeAll entries).change entry.1 entry.2.version := by
  simp [changeAll]

section Change

variable {p : Pipeline Json} {uri : Uri} {version : Int} {event : PendingEvent Uri Int}

theorem mem_change_pending : event ∈ (p.change uri version).debouncer.pending ↔
    event ∈ p.debouncer.pending ∧ event.key ≠ uri ∨
      event = ⟨uri, p.debouncer.nextGeneration, version⟩ := Keyed.mem_put

theorem mem_change_agenda {entry : Planned (Task Json)} : entry ∈ (p.change uri version).agenda ↔
    entry = ⟨Agenda.after p.now p.window, .wake uri p.debouncer.nextGeneration⟩ ∨
      entry ∈ p.agenda := Agenda.mem_add

theorem Stamped.change (h : p.Stamped) (uri : Uri) (version : Int) :
    (p.change uri version).Stamped := by
  intro entry member other generation timer
  rcases mem_change_agenda.mp member with rfl | old
  · obtain ⟨-, rfl⟩ := Task.wake.inj timer
    exact Nat.le_refl _
  · exact Nat.le_succ_of_le (h entry old other generation timer)

/-- The timer of a document that changes starts anew. -/
theorem Stamped.change_restarts (h : p.Stamped) :
    (p.change uri version).HasFullWindow ⟨uri, p.debouncer.nextGeneration, version⟩ := by
  refine ⟨mem_change_agenda.mpr (.inl rfl), fun entry member timer => ?_⟩
  rcases mem_change_agenda.mp member with rfl | old
  · rfl
  · exact absurd (h entry old _ _ timer) (Nat.not_succ_le_self _)

/-- The timers of other documents stay as they are. -/
theorem HasFullWindow.change (h : p.HasFullWindow event) (other : event.key ≠ uri) :
    (p.change uri version).HasFullWindow event := by
  refine ⟨mem_change_agenda.mpr (.inr h.waits), fun entry member timer => ?_⟩
  rcases mem_change_agenda.mp member with rfl | old
  · exact absurd (Task.wake.inj timer).1.symm other
  · exact h.only entry old timer

end Change

/-! ## Documents -/

namespace Tracks

variable {p q : Pipeline Json} {d e : Documents} {uri : Uri}

theorem fewer (h : p.Tracks d) (fewer : q.debouncer.pending ⊆ p.debouncer.pending) : q.Tracks d :=
  fun event member => h event (fewer member)

/-- A document is opened or edited, and no other. -/
theorem change (h : p.Tracks d) {document : TextDocument} (isOpen : e.get? uri = some document)
    (others : ∀ other, other ≠ uri → e.get? other = d.get? other) :
    (p.change uri document.version).Tracks e := by
  intro event member
  rcases mem_change_pending.mp member with ⟨old, different⟩ | rfl
  · rw [others event.key different]
    exact h event old
  · exact ⟨document, isOpen, rfl⟩

/-- A document that is closed has no event any more. -/
theorem close (h : p.Tracks d) (uri : Uri) : (p.close uri).Tracks (d.close uri) := by
  intro event member
  obtain ⟨old, different⟩ := List.mem_filter.mp member
  rw [Documents.get?_close, if_neg (by simpa using different)]
  exact h event old

theorem changeAll (h : p.Tracks d) {entries : List (Uri × TextDocument)}
    (isOpen : ∀ entry ∈ entries, d.get? entry.1 = some entry.2) :
    (p.changeAll entries).Tracks d := by
  induction entries generalizing p with
  | nil => exact h
  | cons entry entries ih =>
      rw [List.forall_mem_cons] at isOpen
      exact ih (h.change isOpen.1 fun _ _ => rfl) isOpen.2

end Tracks

/-- When documents are looked at again, the timers of all of them start anew. -/
theorem changeAll_restarts {p : Pipeline Json} (h : p.Stamped)
    (entries : List (Uri × TextDocument)) :
    let q := p.changeAll entries
    q.Stamped ∧ p.debouncer.lastGeneration ≤ q.debouncer.lastGeneration ∧
      (∀ event ∈ q.debouncer.pending,
        event ∈ p.debouncer.pending ∧ event.key ∉ entries.map Prod.fst ∨
          q.HasFullWindow event ∧ p.debouncer.lastGeneration < event.generation) ∧
      ∀ uri ∈ entries.map Prod.fst, uri ∈ q.debouncer.pending.map PendingEvent.key := by
  induction entries using List.reverseRecOn with
  | nil => exact ⟨h, Nat.le_refl _, fun event member => .inl ⟨member, nofun⟩, nofun⟩
  | append_singleton entries entry ih =>
      obtain ⟨stamped, later, restarted, all⟩ := ih
      intro q
      have last : q = (p.changeAll entries).change entry.1 entry.2.version :=
        changeAll_snoc p entries entry
      rw [last]
      refine ⟨stamped.change _ _, Nat.le_succ_of_le later, fun event member => ?_,
        fun uri member => ?_⟩
      · rcases mem_change_pending.mp member with ⟨old, different⟩ | rfl
        · refine (restarted event old).imp ?_ fun ⟨full, new⟩ => ⟨full.change different, new⟩
          rintro ⟨before, apart⟩
          refine ⟨before, ?_⟩
          rw [List.map_append, List.mem_append]
          exact fun either => either.elim apart fun same => different (List.mem_singleton.mp same)
        · exact .inr ⟨stamped.change_restarts, Nat.lt_succ_of_le later⟩
      · by_cases same : uri = entry.1
        · exact List.mem_map.mpr ⟨_, mem_change_pending.mpr (.inr rfl), same.symm⟩
        · rw [List.map_append, List.mem_append] at member
          obtain ⟨event, old, rfl⟩ := List.mem_map.mp
            (all uri (member.resolve_right fun other => same (List.mem_singleton.mp other)))
          exact List.mem_map.mpr ⟨event, mem_change_pending.mpr (.inl ⟨old, same⟩), rfl⟩

/-! ## Frames -/

/-- How the pipeline goes on beside the open documents: what has been superseded stays so, the
documents that have flights stay open, and the events that are held back stay theirs. -/
structure Onward (p : Pipeline Json) (d : Documents) (q : Pipeline Json) (e : Documents) : Prop where
  window : q.window = p.window
  flights : p.inFlight.Later q.inFlight
  isOpen : ∀ flight ∈ q.inFlight.flights, d.contains flight.uri → e.contains flight.uri
  stamp : p.debouncer.lastGeneration ≤ q.debouncer.lastGeneration
  tracks : p.Tracks d → q.Tracks e

/-- The pipeline has no new work, but perhaps new timers and questions, and it has let go of work only
with its flight. -/
structure OnlyCalls (p q : Pipeline Json) : Prop where
  fewer : q.inFlight.flights.Sublist p.inFlight.flights
  new : ∀ entry ∈ q.agenda, entry ∈ p.agenda ∨ entry.action.run? = none ∧
    ∀ uri generation, entry.action = .wake uri generation → generation ≤ q.debouncer.lastGeneration
  old : ∀ entry ∈ p.agenda, ∀ run, entry.action.run? = some run →
    run.flight ∈ q.inFlight.flights → entry ∈ q.agenda

theorem Onward.refl (p : Pipeline Json) (d : Documents) : p.Onward d p d :=
  ⟨rfl, .refl _, fun _ _ => id, Nat.le_refl _, id⟩

theorem OnlyCalls.refl (p : Pipeline Json) : p.OnlyCalls p :=
  ⟨.refl _, fun _ member => .inl member, fun _ member _ _ _ => member⟩

theorem OnlyCalls.trans {p q r : Pipeline Json} (first : p.OnlyCalls q) (second : q.OnlyCalls r)
    (stamp : q.debouncer.lastGeneration ≤ r.debouncer.lastGeneration) : p.OnlyCalls r where
  fewer := second.fewer.trans first.fewer
  new entry member := by
    rcases second.new entry member with old | new
    · refine (first.new entry old).imp_right fun ⟨idle, timers⟩ => ⟨idle, ?_⟩
      exact fun uri generation timer => Nat.le_trans (timers uri generation timer) stamp
    · exact .inr new
  old entry member run own flies :=
    second.old entry (first.old entry member run own (second.fewer.subset flies)) run own flies

section Calls

variable (p : Pipeline Json) {d e : Documents} {uri : Uri}

/-- A new task that is none of a run. -/
theorem plan_onlyCalls (delay : Nat) {task : Task Json} (idle : task.run? = none)
    (timers : ∀ uri generation, task = .wake uri generation →
      generation ≤ p.debouncer.lastGeneration) : p.OnlyCalls (p.plan delay task) where
  fewer := .refl _
  new entry member := by
    refine ((p.mem_plan delay task entry).mp member).symm.imp_right ?_
    rintro rfl
    exact ⟨idle, timers⟩
  old entry member _ _ _ := (p.mem_plan delay task entry).mpr (.inr member)

theorem change_onward {document : TextDocument} (isOpen : e.get? uri = some document)
    (others : ∀ other, other ≠ uri → e.get? other = d.get? other) :
    p.Onward d (p.change uri document.version) e ∧ p.OnlyCalls (p.change uri document.version) := by
  refine ⟨⟨rfl, .refl _, fun flight _ before => ?_, Nat.le_succ _, fun h => h.change isOpen others⟩,
    ?_⟩
  · by_cases same : flight.uri = uri
    · simp [Documents.contains, same, isOpen]
    · simpa [Documents.contains, others _ same] using before
  · have held : p.OnlyCalls
        { p with debouncer := p.debouncer.schedule uri document.version } :=
      ⟨.refl _, fun _ member => .inl member, fun _ member _ _ _ => member⟩
    refine held.trans (plan_onlyCalls _ _ rfl fun other generation timer => ?_) (Nat.le_refl _)
    obtain ⟨-, rfl⟩ := Task.wake.inj timer
    exact Nat.le_refl _

theorem close_onward : p.Onward d (p.close uri) (d.close uri) ∧ p.OnlyCalls (p.close uri) := by
  have apart {flight : Flight} (member : flight ∈ (p.close uri).inFlight.flights) :
      flight.uri ≠ uri := (InFlight.mem_drop.mp member).2
  refine ⟨⟨p.abortPush_window uri, .drop _ uri, fun flight member before => ?_, Nat.le_refl _,
    fun h => h.close uri⟩, List.filter_sublist, fun entry member => ?_,
    fun entry member run own flies => ?_⟩
  · simp [Documents.contains_close, apart member, before]
  · exact .inl ((p.abortPush_sublist uri).subset member)
  · exact (mem_abortPush_of_other own (apart flies)).mpr member

theorem changeAll_onward {entries : List (Uri × TextDocument)}
    (isOpen : ∀ entry ∈ entries, d.get? entry.1 = some entry.2) :
    p.Onward d (p.changeAll entries) d ∧ p.OnlyCalls (p.changeAll entries) := by
  induction entries generalizing p with
  | nil => exact ⟨.refl p d, .refl p⟩
  | cons entry entries ih =>
      rw [List.forall_mem_cons] at isOpen
      obtain ⟨first, calls⟩ := p.change_onward (d := d) isOpen.1 fun _ _ => rfl
      obtain ⟨later, others⟩ := ih (p.change entry.1 entry.2.version) isOpen.2
      exact ⟨⟨later.window.trans first.window, first.flights.trans later.flights, fun _ _ => id,
        Nat.le_trans first.stamp later.stamp, fun h => later.tracks (first.tracks h)⟩,
        calls.trans others later.stamp⟩

theorem shutdown_onward : p.Onward d p.shutdown d ∧ p.OnlyCalls p.shutdown :=
  ⟨⟨p.shutdown_window, ⟨Nat.le_refl _, nofun⟩, fun _ _ => id, Nat.le_refl _, fun _ => nofun⟩,
    List.nil_sublist _, fun _ member => .inl (p.shutdown_sublist.subset member),
    fun _ _ _ _ => nofun⟩

theorem pull_onward (id : Json) : p.Onward d (p.pull uri id) d ∧ p.OnlyCalls (p.pull uri id) :=
  ⟨⟨rfl, .refl _, fun _ _ before => before, Nat.le_refl _, fun h => h⟩,
    plan_onlyCalls p 0 rfl fun _ _ timer => by cases timer⟩

end Calls

end Pipeline

def Notice.opens (uri : Uri) (body : List UInt8) : Bool :=
  match ofBody? body with
  | some (.opened params) => decide (params.uri = uri)
  | _ => false

namespace Documents

/-- Only an opening makes a document open. -/
theorem heed_closed {d : Documents} {uri : Uri} (closed : d.contains uri = false) {notice : Notice}
    (other : ∀ params, notice = .opened params → params.uri ≠ uri) :
    (d.heed notice).contains uri = false := by
  cases notice with
  | opened params =>
      simp [heed, contains_openAt, closed, (other params rfl).symm]
  | changed params =>
      simp only [heed]
      cases edited : d.change? params.uri params.version params.edits with
      | none => exact closed
      | some documents => exact (contains_change? uri edited).trans closed
  | closed other => simp [heed, contains_close, closed]
  | filesChanged => exact closed

theorem InOrder.heed {d : Documents} (h : InOrder d.entries) (notice : Notice) :
    InOrder (d.heed notice).entries := by
  cases notice with
  | opened params => exact h.put _ _
  | changed params =>
      simp only [Documents.heed, change?]
      cases d.get? params.uri with
      | none => exact h
      | some document => exact h.put _ _
  | closed uri => exact h.filter _
  | filesChanged => exact h

/-- What is found for every entry is its document. -/
theorem InOrder.get? {d : Documents} (h : InOrder d.entries) (entry : Uri × TextDocument)
    (member : entry ∈ d.entries) : d.get? entry.1 = some entry.2 := h.find?_of_mem member

end Documents

namespace Session

variable {s later : Session} {body : List UInt8} {p : Pipeline Json}

/-- A notice is heeded. -/
theorem take_heard {notice : Notice} (heard : Notice.ofBody? body = some notice) :
    (s.take body).session = s.heed notice := by
  have other : ∀ id method params?, Incoming.ofBody? body ≠ some (.request id method params?) := by
    intro id method params? request
    rw [Notice.ofBody?, request] at heard
    cases heard
  rw [take_other other, heard]
  rfl

theorem heed_onward (ordered : Documents.InOrder s.documents.entries) (same : s.pipeline? = some p)
    (notice : Notice) : ∃ q, (s.heed notice).pipeline? = some q ∧
      p.Onward s.documents q (s.heed notice).documents ∧ p.OnlyCalls q := by
  have becomes (documents : Documents) (f : Pipeline Json → Pipeline Json) :
      (Session.withPipeline { s with documents := documents } f).pipeline? = some (f p) := by
    simp [withPipeline, same]
  cases notice with
  | opened params =>
      have isOpen := Documents.get?_openAt_self s.documents params.uri params.version params.text
      refine ⟨_, becomes _ _, p.change_onward isOpen fun other different => ?_⟩
      exact (Documents.get?_openAt _ _ _ _ _).trans (if_neg different)
  | changed params =>
      simp only [heed, changed]
      cases edited : s.documents.change? params.uri params.version params.edits with
      | none => exact ⟨p, same, .refl p _, .refl p⟩
      | some documents =>
          obtain ⟨document, isOpen, -⟩ := Option.map_eq_some_iff.mp edited
          have found := Documents.get?_change? params.uri isOpen edited
          rw [if_pos rfl] at found
          refine ⟨_, becomes _ _, p.change_onward found fun other different => ?_⟩
          exact (Documents.get?_change? other isOpen edited).trans (if_neg different)
  | closed uri => exact ⟨_, becomes _ _, p.close_onward⟩
  | filesChanged => exact ⟨_, becomes _ _, p.changeAll_onward ordered.get?⟩

/-- No frame brings back what has been superseded, or lets go of a document that has a flight. -/
theorem Made.onward (made : Made s body later) (ordered : Documents.InOrder s.documents.entries)
    (same : s.pipeline? = some p) : ∃ q, later.pipeline? = some q ∧
      p.Onward s.documents q later.documents ∧ p.OnlyCalls q := by
  have becomes (f : Pipeline Json → Pipeline Json) : (s.withPipeline f).pipeline? = some (f p) := by
    simp [withPipeline, same]
  cases made with
  | nothing unheard => exact ⟨p, same, .refl p _, .refl p⟩
  | heeded heard => exact heed_onward ordered same _
  | introduced request understood new => exact nomatch same.symm.trans new
  | asked unheard running isOpen id => exact ⟨_, becomes _, p.pull_onward id⟩
  | shut unheard ready running => exact ⟨_, becomes _, p.shutdown_onward⟩

theorem Made.ordered (made : Made s body later) (h : Documents.InOrder s.documents.entries) :
    Documents.InOrder later.documents.entries := by
  cases made with
  | heeded heard =>
      rw [heed_documents]
      exact h.heed _
  | _ => exact h

theorem Made.settings (made : Made s body later) : later.settings = s.settings := by
  cases made with
  | @heeded notice heard =>
      cases notice with
      | changed params =>
          simp only [heed, changed]
          cases s.documents.change? params.uri params.version params.edits <;> rfl
      | _ => rfl
  | _ => rfl

/-- A document that is closed stays so until a frame opens it. -/
theorem Made.closed (made : Made s body later) {uri : Uri}
    (closed : s.documents.contains uri = false) (calm : Notice.opens uri body = false) :
    later.documents.contains uri = false := by
  cases made with
  | heeded heard =>
      rw [heed_documents]
      refine Documents.heed_closed closed fun params opening => ?_
      subst opening
      simpa [Notice.opens, heard] using calm
  | _ => exact closed

/-- A session without a pipeline gets a new one. -/
theorem Made.fresh (made : Made s body later) (new : s.pipeline? = none)
    (same : later.pipeline? = some p) : ∃ root?, p = pipelineFor s.settings root? := by
  have none (documents : Documents) (f : Pipeline Json → Pipeline Json) :
      (Session.withPipeline { s with documents := documents } f).pipeline? ≠ some p := by
    simp [withPipeline, new]
  cases made with
  | nothing unheard => cases new.symm.trans same
  | @heeded notice heard =>
      cases notice with
      | changed params =>
          simp only [heed, changed] at same
          cases edited : s.documents.change? params.uri params.version params.edits with
          | none =>
              rw [edited] at same
              cases new.symm.trans same
          | some documents =>
              rw [edited] at same
              exact absurd same (none _ _)
      | _ => exact absurd same (none _ _)
  | introduced request understood new =>
      exact ⟨_, (Option.some.inj same).symm⟩
  | asked unheard running isOpen id => exact absurd same (none _ _)
  | shut unheard ready running => exact absurd new (Option.isSome_iff_ne_none.mp ready)

/-- When files have changed, the documents for which events are held back are the open ones, and
each event has the version of its document and all of the window before it. -/
theorem filesChanged_restarts (ordered : Documents.InOrder s.documents.entries)
    (tracks : p.Tracks s.documents) (stamped : p.Stamped) (same : s.pipeline? = some p) :
    ∃ q, s.filesChanged.pipeline? = some q ∧ q.window = p.window ∧ q.Tracks s.documents ∧
      (∀ uri, q.debouncer.isPending uri = s.documents.contains uri) ∧
      ∀ event ∈ q.debouncer.pending,
        q.HasFullWindow event ∧ p.debouncer.lastGeneration < event.generation := by
  obtain ⟨-, -, restarted, all⟩ := Pipeline.changeAll_restarts stamped s.documents.entries
  have later : (p.changeAll s.documents.entries).Tracks s.documents := tracks.changeAll ordered.get?
  refine ⟨_, by simp [filesChanged, withPipeline, same, Pipeline.changeAll],
    (p.changeAll_onward ordered.get?).1.window, later, fun uri => ?_, fun event member => ?_⟩
  · rw [Bool.eq_iff_iff, Debouncer.isPending_iff, Documents.contains, ← Documents.mem_uris_iff]
    refine ⟨fun member => ?_, all uri⟩
    obtain ⟨event, waits, rfl⟩ := List.mem_map.mp member
    obtain ⟨document, isOpen, -⟩ := later event waits
    exact (Documents.mem_uris_iff _ _).mpr (by rw [isOpen]; rfl)
  · refine (restarted event member).resolve_left ?_
    rintro ⟨before, apart⟩
    obtain ⟨document, isOpen, -⟩ := tracks event before
    exact apart (List.mem_map.mpr ⟨_, Documents.mem_of_find? isOpen, rfl⟩)

end Session

end AsmDiagnostics
