import AsmDiagnostics.Program.Basic
import AsmDiagnostics.Proofs.Frame.RoundTrip
import AsmDiagnostics.Proofs.Frame.Written
import AsmDiagnostics.Proofs.Server.Unread

/-!
# The end of the program

The program serves one editor until the session ends, and writes all that was put up for the editor;
its exit status tells whether the session ended properly, after a request to shut down.  What builds
meet may be anything.
-/

namespace AsmDiagnostics

open Message Server

namespace Program

theorem exitStatus_eq_zero_iff (ending? : Option Ending) :
    exitStatus ending? = 0 ↔ ending? = some (.ok true) := by
  unfold exitStatus
  split
  · simp
  · rename_i other
    simpa using other

def settingsAt (e : Environment) (folder : Machine.Place) (files : Machine.Files) : Settings :=
  Config.settingsFor e ((withLog folder files (logCandidates e)).at? folder)

variable (outside : Settings → Outside Machine.Files) (e : Environment) (folder : Machine.Place)
  (files : Machine.Files) (input : List UInt8)

def serverOf : Server Machine.Files :=
  Server.run (outside (settingsAt e folder files)) (settingsAt e folder files)
    (withLog folder files (logCandidates e)) input

theorem runIn_eq :
    runIn outside e folder files input =
      ⟨exitStatus (serverOf outside e folder files input).ending?,
        framesOf (serverOf outside e folder files input).outbox,
        (serverOf outside e folder files input).world⟩ :=
  rfl

/-- The program succeeds if the session ends properly, after a request to shut down. -/
theorem status_eq_zero_iff :
    (runIn outside e folder files input).status = 0 ↔
      ∃ bodies rest, Concludes (settingsAt e folder files) true input bodies rest (.ok true) := by
  obtain ⟨ending, ended, only⟩ := run_ends (outside (settingsAt e folder files))
    (settingsAt e folder files) (withLog folder files (logCandidates e)) input
  rw [runIn_eq, exitStatus_eq_zero_iff, only, serverOf, ended, Option.some.injEq]
  exact eq_comm

/-- What stands behind the end makes no difference to a run. -/
theorem runIn_beyond {front rest : List UInt8} {bodies : List (List UInt8)} {ending : Ending}
    (ends : Concludes (settingsAt e folder files) false front bodies rest ending)
    (more : List UInt8) :
    runIn outside e folder files (front ++ more) = runIn outside e folder files front := by
  have same : (serverOf outside e folder files (front ++ more)).withoutUnread =
      (serverOf outside e folder files front).withoutUnread := Server.run_beyond ends _ _ more
  have parts (s : Server Machine.Files) : s.ending? = s.withoutUnread.ending? ∧
      s.outbox = s.withoutUnread.outbox ∧ s.world = s.withoutUnread.world := ⟨rfl, rfl, rfl⟩
  obtain ⟨ending, outbox, world⟩ := parts (serverOf outside e folder files (front ++ more))
  rw [runIn_eq, runIn_eq, ending, outbox, world, same]
  rfl

/-- The messages of the outbox are written, each whole and in their order, and are read back if none
of them is too long for a reader. -/
theorem stdout_holds :
    ((∀ message ∈ (serverOf outside e folder files input).outbox,
        message.bytes.length ≤ Text.maxWord64) →
      Frame.Holds (runIn outside e folder files input).stdout
        ((serverOf outside e folder files input).outbox.map Json.bytes)) ∧
    ((∀ message ∈ (serverOf outside e folder files input).outbox,
        message.bytes.length ≤ Frame.maxBody) →
      Frame.readAll (runIn outside e folder files input).stdout =
        ((serverOf outside e folder files input).outbox.map Json.bytes, none)) := by
  rw [runIn_eq]
  simp only [framesOf, Frame.flatMap_ofMessage]
  exact ⟨fun short => Frame.holds_write (List.forall_mem_map.mpr short),
    fun short => Frame.readAll_write (List.forall_mem_map.mpr short)⟩

end Program

/-- However the turns are taken, a session ends as its input does: with the first notification that
the editor leaves, with the end of the input between two frames, or with a fault in the frames.  When
the end has come in, some turns bring the session there.  What stands in the mailbox while it goes on
is written before it ends, in its order.  From the time at which the end has come in, no byte behind
it makes a difference to anything but to what is left unread.

The program is such a session over its whole input.  It succeeds just in the case that the session
does not end with a fault and that a request to shut down came behind an introduction that was
granted.  Its output holds the messages of the session one behind another, each whole, and a reader
gets them all back if it refuses none of them for its length. -/
theorem sessions_end_as_their_input {ω : Type} (outside : Outside ω) (settings : Settings) (world : ω)
    (earlier later : List (Server.Move ω)) :
    let fresh := start settings world
    let before := fresh.play outside earlier
    let s := before.play outside later
    let input := fresh.input outside (earlier ++ later)
    EndsAsInput settings input s ∧
      (s.isClosed = true ∨ (∃ bodies rest ending, Concludes settings false input bodies rest ending) →
        (s.settle outside).ending?.isSome) ∧
      (before.ending? = none → s.ending?.isSome →
        before.outbox ++ Mailbox.ahead before.mailbox.letters <+: s.outbox) ∧
      (∀ front bodies rest ending,
        Concludes settings false (fresh.input outside (earlier ++ [.hear front])) bodies rest ending →
        ∀ more more' later', later.map Server.Move.deaf = later'.map Server.Move.deaf →
          (fresh.play outside (earlier ++ .hear (front ++ more) :: later)).withoutUnread =
            (fresh.play outside (earlier ++ .hear (front ++ more') :: later')).withoutUnread) ∧
      ∀ (outside : Settings → Outside Machine.Files) (e : Environment) (folder : Machine.Place)
        (files : Machine.Files) (input : List UInt8),
        let settings := Program.settingsAt e folder files
        let ran := Program.runIn outside e folder files input
        let served := Program.serverOf outside e folder files input
        (∃ world moves, (start settings world).play (outside settings) moves = served ∧
            (start settings world).input (outside settings) moves = input) ∧
          served.ending?.isSome ∧
          (ran.status = 0 ↔ ∃ bodies rest, Concludes settings true input bodies rest (.ok true)) ∧
          ((∀ message ∈ served.outbox, message.bytes.length ≤ Text.maxWord64) →
            Frame.Holds ran.stdout (served.outbox.map Json.bytes)) ∧
          ((∀ message ∈ served.outbox, message.bytes.length ≤ Frame.maxBody) →
            Frame.readAll ran.stdout = (served.outbox.map Json.bytes, none)) ∧
          ∀ front bodies rest ending more, Concludes settings false front bodies rest ending →
            Program.runIn outside e folder files (front ++ more) =
              Program.runIn outside e folder files front := by
  intro fresh before s input
  have whole : fresh.play outside (earlier ++ later) = s := play_append fresh earlier later
  refine ⟨?_, fun past => ?_, fun goes past => ?_, ?_, ?_⟩
  · have ends := endsAsInput_play outside settings world (earlier ++ later)
    rwa [whole] at ends
  · have ends := @settle_ends _ outside settings world (earlier ++ later)
    rw [whole] at ends
    exact ends past
  · have kept : before.destined <+: (before.play outside later).destined :=
      (destined_kept before.destined).story List.prefix_rfl later
    rwa [destined_of_over past, destined_of_goes goes] at kept
  · intro front bodies rest ending ends more more' later' same
    exact beyond_unheard ends more more' same
  · intro outside e folder files input settings ran served
    obtain ⟨held, readBack⟩ := Program.stdout_holds outside e folder files input
    obtain ⟨ending, ended, -⟩ := run_ends (outside settings) settings
      (Program.withLog folder files (Program.logCandidates e)) input
    refine ⟨⟨_, run_story (outside settings) settings _ input⟩, ?_,
      Program.status_eq_zero_iff outside e folder files input, held, readBack, ?_⟩
    · exact Option.isSome_iff_exists.mpr ⟨ending, ended⟩
    · intro front bodies rest ending more ends
      exact Program.runIn_beyond outside e folder files ends more

namespace Server.Editor

/-- The editor introduces itself, asks for something that there is not, asks to shut down, and
leaves. -/
def visit : List (List UInt8) :=
  [introduction, request 2 "textDocument/hover" .null, request 3 "shutdown" .null,
    notice "exit" .null]

/-- Behind the visit comes what no frame begins with. -/
def visiting : List UInt8 := visit.flatMap Frame.write ++ [Frame.newline]

def nowhere : Environment := ⟨none, none, none, none⟩

/-- A world where nothing is built. -/
def still (_ : Settings) : Outside Machine.Files where
  pathExists _ _ := false
  build files _ := (⟨true, "", none⟩, 0, files)

end Server.Editor

/-- A whole session of the program succeeds, and its output is read back as three answers. -/
theorem visit_answered :
    let ran := Program.runIn Editor.still Editor.nowhere [] Machine.Files.empty Editor.visiting
    ran.status = 0 ∧
      Frame.readAll ran.stdout =
        ([answer (.int 1) welcome, refusal (.int 2) (.methodNotFound "textDocument/hover"),
          answer (.int 3) .null].map Json.bytes, none) := by
  intro ran
  let served := Program.serverOf Editor.still Editor.nowhere [] Machine.Files.empty Editor.visiting
  obtain ⟨-, -, -, -, program⟩ := sessions_end_as_their_input Editor.toolless .default 0 [] []
  obtain ⟨-, -, succeeds, -, readBack, -⟩ :=
    program Editor.still Editor.nowhere [] Machine.Files.empty Editor.visiting
  have written : served.outbox.map Json.bytes =
      [answer (.int 1) welcome, refusal (.int 2) (.methodNotFound "textDocument/hover"),
        answer (.int 3) .null].map Json.bytes := by
    -- the reader has one turn and the writer another
    rw [show served = _ from run_eq_takeTurns 2 (by decide +kernel)]
    decide +kernel
  refine ⟨succeeds.mpr ⟨Editor.visit, [Frame.newline], ?_⟩, ?_⟩
  · have reads := @Frame.reads_write true Editor.visit (by decide +kernel) [Frame.newline]
    refine @Concludes.exit _ _ _ Editor.visit.dropLast _ _ _ reads (by decide +kernel)
      (by decide +kernel) ?_
    rw [Session.dismissed_iff]
    decide +kernel
  · have short : ∀ body ∈ served.outbox.map Json.bytes, body.length ≤ Frame.maxBody := by
      rw [written]
      decide +kernel
    exact (readBack fun message member => short _ (List.mem_map_of_mem member)).trans
      (congrArg (·, none) written)

end AsmDiagnostics
