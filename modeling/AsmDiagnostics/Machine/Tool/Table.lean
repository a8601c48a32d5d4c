import AsmDiagnostics.Machine.Condition
import AsmDiagnostics.Machine.Printing
import AsmDiagnostics.Machine.Tool.Columns
import AsmDiagnostics.Machine.Tool.Copying
import AsmDiagnostics.Machine.Tool.Counting
import AsmDiagnostics.Machine.Tool.Edit
import AsmDiagnostics.Machine.Tool.Expression
import AsmDiagnostics.Machine.Tool.Ordering
import AsmDiagnostics.Machine.Tool.Search
import AsmDiagnostics.Machine.Tool.Transfer

/-!
# The table of programs

The programs that a machine comes with: those that work by themselves, and those that start others.
-/

namespace AsmDiagnostics.Machine

namespace Shell

def echo : Tool := fun sh words => (sh.withStatus 0).output (Printing.echoed false words)

def printf : Tool := fun sh arguments =>
  let words := if arguments.head? == some ['-', '-'] then arguments.drop 1 else arguments
  match words with
  | [] => sh.misused "missing operand".toList 1
  | format :: rest =>
      let printed := Printing.formatted false format rest
      let told := printed.faults.foldl (fun sh fault => sh.say (fault.text false)) sh
      let done := (told.withStatus 0).output printed.text
      if printed.faults.isEmpty then done else done.withStatus 1

def pwd : Tool := fun sh _ => (sh.withStatus 0).output (pathText sh.folder ++ ['\n'])

def judge : Tool := fun sh words =>
  match Condition.holds ⟨sh.machine.files, sh.folder⟩ words with
  | .ok outcome => sh.withStatus (if outcome then 0 else 1)
  | .error fault => (sh.say fault.text).withStatus 2

def judgeInBrackets : Tool := fun sh words =>
  if words.getLast? == some [']'] then sh.judge words.dropLast
  else (sh.say "missing ']'".toList).withStatus 2

end Shell

def tool? (name : String) : Option Tool :=
  match name with
  | "true" => some fun sh _ => sh.withStatus 0
  | "false" => some fun sh _ => sh.withStatus 1
  | "sync" => some fun sh _ => sh.withStatus 0
  | "echo" => some Shell.echo
  | "printf" => some Shell.printf
  | "pwd" => some Shell.pwd
  | "test" => some Shell.judge
  | "[" => some Shell.judgeInBrackets
  | "cat" => some Shell.cat
  | "tac" => some Shell.tac
  | "rev" => some Shell.rev
  | "head" => some Shell.head
  | "tail" => some Shell.tail
  | "tee" => some Shell.tee
  | "yes" => some Shell.repeatLine
  | "nl" => some Shell.numberLines
  | "fold" => some Shell.fold
  | "dd" => some Shell.copyBlocks
  | "wc" => some Shell.wc
  | "seq" => some Shell.seq
  | "sleep" => some Shell.sleep
  | "sort" => some Shell.sort
  | "uniq" => some Shell.uniq
  | "comm" => some Shell.comm
  | "cut" => some Shell.cut
  | "paste" => some Shell.paste
  | "tr" => some Shell.tr
  | "expand" => some Shell.expandTabs
  | "grep" => some Shell.grep
  | "egrep" => some (Shell.grepAs [['-', 'E']])
  | "fgrep" => some (Shell.grepAs [['-', 'F']])
  | "sed" => some Shell.sed
  | "expr" => some Shell.expr
  | "touch" => some Shell.touch
  | "rm" => some Shell.rm
  | "rmdir" => some Shell.rmdir
  | "mkdir" => some Shell.mkdir
  | "ls" => some Shell.ls
  | "chmod" => some Shell.chmod
  | "cp" => some (Shell.transfer .copy)
  | "mv" => some (Shell.transfer .move)
  | "ln" => some (Shell.transfer .link)
  | "basename" => some Shell.basename
  | "dirname" => some Shell.dirname
  | "realpath" => some (Shell.realpath false)
  | "readlink" => some Shell.readlink
  | "mktemp" => some Shell.mktemp
  | "truncate" => some Shell.truncate
  | _ => none

def toolNames : List String :=
  ["true", "false", "sync", "echo", "printf", "pwd", "test", "[", "cat", "tac", "rev", "head",
    "tail", "tee", "yes", "nl", "fold", "dd", "wc", "seq", "sleep", "sort", "uniq", "comm", "cut",
    "paste", "tr", "expand", "grep", "egrep", "fgrep", "sed", "expr", "touch", "rm", "rmdir",
    "mkdir", "ls", "chmod", "cp", "mv", "ln", "basename", "dirname", "realpath", "readlink",
    "mktemp", "truncate"]

def starterNames : List String :=
  ["sh", "dash", "bash", "env", "nohup", "setsid", "nice", "stdbuf", "timeout", "xargs", "find",
    "kill"]

def programNames : List String := toolNames ++ starterNames

end AsmDiagnostics.Machine
