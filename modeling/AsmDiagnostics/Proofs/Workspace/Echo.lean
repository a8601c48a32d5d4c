import AsmDiagnostics.Proofs.Report.Composing
import AsmDiagnostics.Proofs.Report.Layout
import AsmDiagnostics.Proofs.Report.RoundTrip
import AsmDiagnostics.Proofs.Workspace
import AsmDiagnostics.Proofs.Workspace.Named

/-!
# The file that the assembler is given

Without a build descriptor the assembler is given the whole path of the document, and it names the
document by that path in its reports. Such a report is recognised wherever it stands in an output:
the folding of the document's path and that of a reported path come to the same components, and the
line is neither the message of a report before it nor in need of a message behind it.
-/

namespace AsmDiagnostics

def echoLine (severity : Severity) (file : String) (number : UInt32) (message : String) : String :=
  severity.label ++ ": " ++ file ++ "(" ++ String.ofList (Text.decimal number.toNat) ++ "): " ++
    message

namespace Report

/-- A line that is not indented and has a report with a message is read between what stands before it
and what stands behind it. -/
theorem ofOutput_between {front line back : List Char} {report : Report}
    (starts : StartsLine front) (ends : EndsLine back) (single : '\n' ∉ line)
    (solid : IsSolid line) (flush : ¬ Indented line) (announces : Announces line report)
    (some : report.message ≠ []) :
    ofOutput (front ++ line ++ back) = ofOutput front ++ report :: ofOutput back := by
  have allSolid : ∀ other ∈ solidLines front ++ line :: solidLines back, IsSolid other := by
    rw [List.forall_mem_append, List.forall_mem_cons]
    exact ⟨fun _ => solid_of_mem_solidLines, solid, fun _ => solid_of_mem_solidLines⟩
  have own : bareLines line = [Text.trimEnd line] := by
    rw [bareLines_of_single single, if_neg (Bool.eq_false_iff.mp solid)]
  have bare : bareLines (front ++ line ++ back) =
      (solidLines front ++ line :: solidLines back).map Text.trimEnd := by
    rw [ends.bareLines_append, starts.bareLines_append, own, List.map_append, List.map_cons,
      map_trimEnd_solidLines, map_trimEnd_solidLines, List.append_assoc, List.singleton_append]
  have closed : ∀ other next, OpenEnded (solidLines front) other →
      (line :: solidLines back).head? = Option.some next → ¬ Indented next := by
    intro other next _ first
    obtain rfl := Option.some.inj first
    exact flush
  have apart := ofLines_append_apart (solidLines front) 0 closed rfl id
  rw [ofOutput_of_bareLines allSolid bare, apart, ofLines_own announces some]
  rfl

end Report

namespace Path

theorem head?_of_absolute {file : String} (absolute : (ofString file).isAbsolute = true) :
    file.toList.head? = some '/' := by
  have first : (Text.encode file.toList).head? = some slash := by
    simpa [isAbsolute, ofString, Text.bytesOf] using absolute
  cases whole : file.toList with
  | nil =>
      rw [whole] at first
      cases first
  | cons c rest =>
      rw [whole, Text.encode_cons, List.head?_append_of_ne_nil _ (Text.encodeChar_ne_nil c)] at first
      have inside : UInt8.ofNat '/'.toNat ∈ Text.encodeChar c := List.mem_of_head? first
      rw [List.head?_cons, (Text.mem_encodeChar_iff (by decide)).mp inside]

/-- A folded path that is reported as it is has the same components again. -/
theorem components_reported_normalize {p : Path} {file : String} (own : p.normalize = ofString file)
    (plain : '\\' ∉ file.toList) : (reported file.toList).components = p.normalize.components := by
  have folded : ∀ c ∈ p.normalize.components, c ≠ .here ∧ c ≠ .up := by
    intro c member
    rw [components_normalize] at member
    exact (mem_normalizeComponents member).2
  rw [reported_of_plain plain, ← own, foldComponents_of_folded folded,
    components_ofComponents (components_spelled _)]

end Path

def echoed (severity : Severity) {file : String} (number : UInt32) (message : String)
    (absolute : (Path.ofString file).isAbsolute = true) (single : '\n' ∉ file.toList)
    (free : ∀ front digits rest, ¬ Report.Located file.toList front digits rest)
    (oneLine : '\n' ∉ message.toList) (solid : ¬ Text.allBlank message.toList = true) :
    Announcement where
  severity := severity
  file := file.toList
  number := number
  message := message.toList
  file_single := single
  file_start := by
    intro c first
    rw [Path.head?_of_absolute absolute] at first
    obtain rfl : '/' = c := Option.some.inj first
    decide
  file_free := free
  message_single := oneLine
  message_solid := solid

namespace Announcement

variable (a : Announcement)

theorem not_indented (rest : List Char) : ¬ Indented (a.heading ++ rest) := by
  have first : ∃ c tail, a.heading ++ rest = c :: tail ∧ Text.isBlank c = false := by
    unfold heading
    cases a.severity with
    | error => exact ⟨'e', _, rfl, by decide⟩
    | warning => exact ⟨'w', _, rfl, by decide⟩
  obtain ⟨c, tail, whole, solid⟩ := first
  rw [indented_iff, whole, List.takeWhile_cons_of_neg (by simp [solid])]
  decide

/-- The line with the message, read between what stands before it and what stands behind it. -/
theorem ofOutput_between {front back : List Char} (starts : StartsLine front)
    (ends : EndsLine back) :
    Report.ofOutput (front ++ (a.heading ++ ' ' :: a.message) ++ back) =
      Report.ofOutput front ++ a.report :: Report.ofOutput back := by
  have single : '\n' ∉ a.heading ++ ' ' :: a.message := by
    simp [a.heading_single, a.message_single]
  have announces := a.announces (' ' :: a.message)
  have message : Text.trim (' ' :: a.message) = a.report.message :=
    Text.trim_append_blanks (show Text.allBlank [' '] = true by decide) a.message
  rw [message] at announces
  exact Report.ofOutput_between starts ends single (a.heading_solid _) (a.not_indented _) announces
    a.report_message_ne_nil

end Announcement

/-- A document is named by its own folded path. -/
theorem DocumentRef.isNamed_own {root path : Path} {file : String}
    (own : (ofPath root path).absolute = .ofString file)
    (absolute : (Path.ofString file).isAbsolute = true) (plain : '\\' ∉ file.toList) :
    (Path.reported file.toList).isAbsolute = true ∧
      (ofPath root path).isNamed (Path.reported file.toList) = true := by
  have same : (Path.reported file.toList).components = (ofPath root path).absolute.components :=
    Path.components_reported_normalize own plain
  have rooted : (Path.reported file.toList).isAbsolute = true := by
    rw [Path.isAbsolute_iff_head?, same, own, ← Path.isAbsolute_iff_head?]
    exact absolute
  refine ⟨rooted, ?_⟩
  unfold isNamed
  rw [if_pos rooted]
  exact decide_eq_true same

/-- Without a descriptor the assembler is given the whole path of the document; and whatever it then
reports about a file of this path, anywhere in an output, is among the diagnostics of the document,
between those of the text before and those of the text behind. -/
theorem echoed_report_recognised {root path : Path} {file : String}
    (own : (DocumentRef.ofPath root path).absolute = .ofString file)
    (absolute : (Path.ofString file).isAbsolute = true) (single : '\n' ∉ file.toList)
    (plain : '\\' ∉ file.toList)
    (free : ∀ front digits rest, ¬ Report.Located file.toList front digits rest) :
    (∀ (workspace : Workspace) (pathExists : Path → Bool),
      pathExists workspace.descriptor = false →
      (Build.Command.select workspace pathExists (.ofPath root path)).lastArguments =
        [some (Text.bytesOf file)]) ∧
    ∀ (severity : Severity) (number : UInt32) (message : String), '\n' ∉ message.toList →
      ¬ Text.allBlank message.toList = true →
      ∀ front back : String, StartsLine front.toList → EndsLine back.toList →
        (DocumentRef.ofPath root path).diagnostics
            (front ++ echoLine severity file number message ++ back) =
          (DocumentRef.ofPath root path).diagnostics front ++
            ⟨severity, UInt32.ofNat (number.toNat - 1), String.ofList (Text.trim message.toList)⟩ ::
            (DocumentRef.ofPath root path).diagnostics back := by
  refine ⟨fun workspace pathExists bare => ?_, ?_⟩
  · have alone : workspace.buildMode pathExists = .singleFile := by
      simp [Workspace.buildMode, bare]
    simp [Build.Command.lastArguments, Build.Command.select, alone, Build.Command.stepsFor, own,
      Path.ofString]
  · intro severity number message oneLine solid front back starts ends
    let a := echoed severity number message absolute single free oneLine solid
    have line : (echoLine severity file number message).toList = a.heading ++ ' ' :: a.message := by
      simp [echoLine, Announcement.heading, a, echoed]
    obtain ⟨rooted, named⟩ := DocumentRef.isNamed_own own absolute plain
    have concerned : a.report.concerns (DocumentRef.ofPath root path).isNamed = true :=
      (@Report.concerns_of_absolute _ a.report rooted).trans named
    unfold DocumentRef.diagnostics Report.diagnosticsFor
    rw [String.toList_append, String.toList_append, line, a.ofOutput_between starts ends,
      List.filter_append, List.filter_cons_of_pos concerned, List.map_append, List.map_cons,
      a.diagnostic_report]
    rfl

/-- The path of a document outside the root, with a blank and a number in parentheses, is recognised
behind a report that waits for its message. -/
theorem echo_behind_open_report :
    let root := Path.ofString "/work/my game"
    let path := Path.ofString "/work/lib (2)/./a b.asm"
    let file := "/work/lib (2)/a b.asm"
    (((DocumentRef.ofPath root path).absolute = .ofString file ∧
        (Path.ofString file).isAbsolute = true ∧ '\n' ∉ file.toList ∧ '\\' ∉ file.toList) ∧
        ∀ front digits rest, ¬ Report.Located file.toList front digits rest) ∧
      (DocumentRef.ofPath root path).diagnostics
          ("error: x.asm(1):\r\n" ++ echoLine .warning file 0 "late " ++ "\r\n    more") =
        (DocumentRef.ofPath root path).diagnostics "error: x.asm(1):\r\n" ++
          ⟨.warning, 0, "late"⟩ :: (DocumentRef.ofPath root path).diagnostics "\r\n    more" := by
  intro root path file
  have own : (DocumentRef.ofPath root path).absolute = .ofString file := by decide
  have absolute : (Path.ofString file).isAbsolute = true := by decide
  have single : '\n' ∉ file.toList := by decide
  have plain : '\\' ∉ file.toList := by decide
  have unnumbered : Report.splitLocation? file.toList = none := by decide +kernel
  have free : ∀ front digits rest, ¬ Report.Located file.toList front digits rest := by
    have spec := Report.splitLocation?_spec file.toList
    rw [unnumbered] at spec
    exact spec
  refine ⟨⟨⟨own, absolute, single, plain⟩, free⟩, ?_⟩
  have starts : StartsLine "error: x.asm(1):\r\n".toList := by
    simpa using StartsLine.newline "error: x.asm(1):\r".toList
  have ends : EndsLine "\r\n    more".toList := by
    simpa using EndsLine.returned "    more".toList
  have recognised := (echoed_report_recognised own absolute single plain free).2 .warning 0 "late "
    (by decide) (by decide) _ _ starts ends
  have late : String.ofList (Text.trim "late ".toList) = "late" := by decide
  rw [late] at recognised
  exact recognised

end AsmDiagnostics
