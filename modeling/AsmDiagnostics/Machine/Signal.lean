import AsmDiagnostics.Text.Digit

/-!
# Signals

The signals that a process may get, by their numbers: their names, what they do to a process that
has not asked for anything else, and what is said about a process that died of one. Zero stands for
the end of a shell.
-/

namespace AsmDiagnostics.Machine.Signal

/-- The numbers of signals, their names, and what is said about them. -/
def table : List (Nat × String × String) :=
  [(1, "HUP", "Hangup"), (2, "INT", "Interrupt"), (3, "QUIT", "Quit"),
    (4, "ILL", "Illegal instruction"), (5, "TRAP", "Trace/breakpoint trap"), (6, "ABRT", "Aborted"),
    (7, "BUS", "Bus error"), (8, "FPE", "Floating point exception"), (9, "KILL", "Killed"),
    (10, "USR1", "User defined signal 1"), (11, "SEGV", "Segmentation fault"),
    (12, "USR2", "User defined signal 2"), (13, "PIPE", "Broken pipe"), (14, "ALRM", "Alarm clock"),
    (15, "TERM", "Terminated"), (16, "16", "Stack fault"), (17, "CHLD", "Child exited"),
    (18, "CONT", "Continued"), (19, "STOP", "Stopped (signal)"), (20, "TSTP", "Stopped"),
    (21, "TTIN", "Stopped (tty input)"), (22, "TTOU", "Stopped (tty output)"),
    (23, "URG", "Urgent I/O condition"), (24, "XCPU", "CPU time limit exceeded"),
    (25, "XFSZ", "File size limit exceeded"), (26, "VTALRM", "Virtual timer expired"),
    (27, "PROF", "Profiling timer expired"), (28, "WINCH", "Window changed"),
    (29, "IO", "I/O possible"), (30, "PWR", "Power failure"), (31, "SYS", "Bad system call")]

def greatest : Nat := 64

def name (n : Nat) : List Char :=
  match table.find? fun entry => entry.1 = n with
  | some (_, name, _) => name.toList
  | none =>
      if n = 0 then "EXIT".toList
      else if n = 34 then "RTMIN".toList
      else if 34 < n ∧ n ≤ 49 then "RTMIN+".toList ++ Text.decimal (n - 34)
      else if 49 < n ∧ n < 64 then "RTMAX-".toList ++ Text.decimal (64 - n)
      else if n = 64 then "RTMAX".toList
      else Text.decimal n

def ofName? (text : List Char) : Option Nat :=
  (List.range (greatest + 1)).find? fun n => name n == text.map Char.toUpper

def ofText? (text : List Char) : Option Nat :=
  if !text.isEmpty && text.all Char.isDigit then
    let n := text.foldl (fun n c => 10 * n + (c.toNat - '0'.toNat)) 0
    if n ≤ greatest then some n else none
  else ofName? text

def epitaph? (n : Nat) : Option (List Char) :=
  if n = 2 ∨ n = 13 then none
  else
    match table.find? fun entry => entry.1 = n with
    | some (_, _, text) => some text.toList
    | none => some ("Real-time signal ".toList ++ Text.decimal (n - 34))

def isHarmless (n : Nat) : Bool := [0, 17, 18, 23, 28].contains n

/-- A process waits after the signal, for another one that never comes. -/
def stops (n : Nat) : Bool := 19 ≤ n && n ≤ 22

def isSure (n : Nat) : Bool := n == 9 || n == 19

def status (n : Nat) : Nat := 128 + n

end AsmDiagnostics.Machine.Signal
