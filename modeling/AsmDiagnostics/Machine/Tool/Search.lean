import AsmDiagnostics.Machine.Regex.Reader
import AsmDiagnostics.Machine.Tool.Copying

/-!
# Searching

The program that prints the lines of files in which a pattern fits.
-/

namespace AsmDiagnostics.Machine.Shell

structure Search where
  patterns : List Regex
  ignoresCase : Bool
  /-- A text fits only as a whole word. -/
  byWords : Bool
  /-- A text fits only as a whole line. -/
  byLines : Bool
  isInverted : Bool

namespace Search

def accepts (s : Search) (subject : Regex.Subject) (first last : Nat) : Bool :=
  if s.byLines then first = 0 && last = subject.text.size
  else if s.byWords then
    !(subject.before? first).any Regex.inWord && !(subject.char? last).any Regex.inWord
  else true

/-- The first and longest text in a line that some pattern fits, from a position on. -/
def find? (s : Search) (subject : Regex.Subject) (position : Nat) : Option (Nat × Nat) :=
  s.patterns.foldl
    (fun best? pattern =>
      match pattern.searchFor? subject (s.accepts subject) position, best? with
      | none, _ => best?
      | some found, none => some (found.first, found.last)
      | some found, some (first, last) =>
          if found.first < first || (found.first = first && last < found.last) then
            some (found.first, found.last)
          else best?)
    none

def subject (s : Search) (line : List Char) : Regex.Subject := ⟨line.toArray, s.ignoresCase, false⟩

def selects (s : Search) (line : List Char) : Bool :=
  (s.find? (s.subject line) 0).isSome != s.isInverted

/-- The texts in a line that fit, one after another, with their positions. -/
def textsIn (s : Search) (line : List Char) : List (Nat × List Char) :=
  let subject := s.subject line
  go subject (line.length + 1) 0
where
  /-- The texts from a position on. -/
  go (subject : Regex.Subject) : Nat → Nat → List (Nat × List Char)
    | 0, _ => []
    | bound + 1, position =>
        match s.find? subject position with
        | none => []
        | some (first, last) =>
            if first = last then go subject bound (first + 1)
            else (first, subject.slice first last) :: go subject bound last

end Search

def searchKinds : List OptionKind :=
  OptionKind.flags "EFGPivwxclLnHhoqsrRbzaUITuZ" ++ OptionKind.values "efmABC" ++
    [⟨'e', "regexp", .always⟩, ⟨'f', "file", .always⟩, ⟨'i', "ignore-case", .never⟩,
      ⟨'v', "invert-match", .never⟩, ⟨'w', "word-regexp", .never⟩, ⟨'x', "line-regexp", .never⟩,
      ⟨'c', "count", .never⟩, ⟨'l', "files-with-matches", .never⟩,
      ⟨'L', "files-without-match", .never⟩, ⟨'n', "line-number", .never⟩,
      ⟨'H', "with-filename", .never⟩, ⟨'h', "no-filename", .never⟩, ⟨'o', "only-matching", .never⟩,
      ⟨'q', "quiet", .never⟩, ⟨'q', "silent", .never⟩, ⟨'s', "no-messages", .never⟩,
      ⟨'r', "recursive", .never⟩, ⟨'b', "byte-offset", .never⟩, ⟨'m', "max-count", .always⟩,
      ⟨'A', "after-context", .always⟩, ⟨'B', "before-context", .always⟩, ⟨'C', "context", .always⟩,
      ⟨'E', "extended-regexp", .never⟩, ⟨'F', "fixed-strings", .never⟩,
      ⟨'G', "basic-regexp", .never⟩, ⟨'a', "text", .never⟩, ⟨'k', "color", .sometimes⟩,
      ⟨'k', "colour", .sometimes⟩, ⟨'k', "line-buffered", .never⟩, ⟨'y', "y", .never⟩,
      ⟨'N', "include", .always⟩, ⟨'X', "exclude", .always⟩, ⟨'z', "null-data", .never⟩, ⟨'Z', "null", .never⟩,
      ⟨'T', "initial-tab", .never⟩]

def searchPatterns (g : Given) (text : List Char) : Except Regex.Fault (List Regex) :=
  (splitAll (· == '\n') text).mapM fun line =>
    let way? := g.last? "EFGP"
    if way? == some 'F' then .ok (Regex.ofLiteral line)
    else
      let isExtended := way? == some 'E' || way? == some 'P'
      (Regex.ofText ⟨isExtended, false, way? == some 'P'⟩ line).map Prod.fst

/-- The signs that repeat something but stand where an expression begins. -/
def baseless : Nat → Bool → List Char → List (List Char)
  | 0, _, _ => []
  | _ + 1, _, [] => []
  | bound + 1, isFront, c :: rest =>
      let sign := fun (text after : List Char) =>
        if isFront then text :: baseless bound true after else baseless bound false after
      match c with
      | '\\' =>
          let isEdge := rest.head?.any fun d => "<>bB\x60'".toList.contains d
          baseless bound (isFront && isEdge) (rest.drop 1)
      | '(' => baseless bound true rest
      | '|' => baseless bound true rest
      | '^' => baseless bound isFront rest
      | '$' => baseless bound isFront rest
      | '[' =>
          match Regex.set ⟨true, false, false⟩ rest with
          | .ok (_, after) => baseless bound false after
          | .error _ => []
      | '\x7b' =>
          if Regex.isInterval rest then
            sign "\x7b...\x7d".toList ((rest.dropWhile (· != '\x7d')).drop 1)
          else baseless bound false rest
      | _ => if "*+?".toList.contains c then sign [c] rest else baseless bound false rest

def warnOfBaseless (g : Given) (sh : Shell) (text : List Char) : Shell :=
  if g.last? "EFGP" == some 'E' then
    (baseless (text.length + 1) true text).foldl
      (fun sh sign => sh.say ("warning: ".toList ++ sign ++ " at start of expression".toList)) sh
  else sh

def patternFault (g : Given) (fault : Regex.Fault) : String :=
  if g.last? "EFGP" == some 'P' then
    match fault with
    | .openSet => "missing terminating ] for character class"
    | .bareSet => "missing terminating ] for character class"
    | .openGroup => "missing closing parenthesis"
    | .closedGroup => "unmatched closing parenthesis"
    | .badInterval => "numbers out of order in \x7b\x7d quantifier"
    | _ => fault.text
  else fault.text

structure SearchReport where
  /-- What stands in front of a line, given the sign behind its parts. -/
  front : Char → Nat → Nat → List Char
  /-- What stands behind a line. -/
  newline : Char
  /-- The numbers of lines that are shown before and behind a selected one. -/
  before : Nat
  behind : Nat
  most? : Option Nat
  onlyTexts : Bool

/-- The lines that are selected, and those around them: each with its number, its offset, whether it
is selected, and the line itself. -/
def SearchReport.lines (r : SearchReport) (s : Search) (lines : List (List Char)) :
    List (Nat × Nat × Bool × List Char) × Nat :=
  let numbered := (lines.foldl
    (fun (state : Nat × Nat × List (Nat × Nat × Bool × List Char)) line =>
      let (n, offset, done) := state
      (n + 1, offset + line.length + 1, (n, offset, s.selects line, line) :: done))
    (1, 0, [])).2.2.reverse
  let selected := numbered.filter fun (_, _, isSelected, _) => isSelected
  let counted := match r.most? with
    | some most => selected.take most
    | none => selected
  let numbers := counted.map Prod.fst
  let last := numbers.getLast?.getD 0
  let isOver := fun n : Nat => r.most?.any (fun most => most ≤ counted.length) && last < n
  let shown := numbered.filterMap fun (n, offset, isSelected, line) =>
    if numbers.contains n then some (n, offset, true, line)
    else if isOver n && isSelected then none
    else if (r.before > 0 || r.behind > 0) && numbers.any fun m =>
        (m < n && n ≤ m + r.behind) || (n < m && m ≤ n + r.before) then
      some (n, offset, false, line)
    else none
  (shown, counted.length)

def SearchReport.text (r : SearchReport) (s : Search)
    (lines : List (Nat × Nat × Bool × List Char)) : List Char :=
  (lines.foldl
    (fun (state : Option Nat × List (List Char)) (n, offset, isSelected, line) =>
      let (last?, done) := state
      let separator :=
        if (r.before > 0 || r.behind > 0) && last?.any (fun last => last + 1 < n) then ["--\n".toList]
        else []
      let shown :=
        if r.onlyTexts then
          if isSelected && !s.isInverted then
            (s.textsIn line).flatMap fun (place, text) =>
              r.front ':' n (offset + place) ++ text ++ [r.newline]
          else []
        else r.front (if isSelected then ':' else '-') n offset ++ line ++ [r.newline]
      (some n, shown :: (separator ++ done)))
    (none, [])).2.reverse.flatten

def adviseSearch (sh : Shell) : Shell :=
  ((sh.complain "Usage: grep [OPTION]... PATTERNS [FILE]...".toList).complain
    "Try 'grep --help' for more information.".toList).withStatus 2

/-- Prints the lines of files in which a pattern fits. -/
def grepAs (front : List (List Char)) : Tool := fun sh arguments =>
  let short := arguments.map fun argument =>
    match argument with
    | '-' :: d :: more => if d.isDigit && more.all Char.isDigit then '-' :: 'C' :: d :: more else argument
    | _ => argument
  match Given.ofArguments searchKinds (front ++ short) with
  | .error text => (sh.say text).adviseSearch
  | .ok g =>
      let sh := sh.withStatus 0
      let isStated := g.has 'e' || g.has 'f'
      let operands := if isStated then g.operands else g.operands.drop 1
      let files := g.arguments 'f'
      let (fromFiles, sh) := files.foldl
        (fun (state : List (List Char) × Shell) path =>
          match state.2.source path with
          | (.ok text, rest) =>
              (state.1 ++ (if text.isEmpty then [] else [bareLine text]), rest)
          | (.error reason, rest) =>
              (state.1, (rest.say (path ++ ": ".toList ++ reason.toList)).withStatus 2))
        ([], sh)
      let texts := g.arguments 'e' ++ fromFiles ++ (if isStated then [] else g.operands.take 1)
      let number? := fun text : List Char => if text.all Char.isDigit then count? text else none
      let context := fun letter : Char =>
        let own := g.options.reverse.find? fun option => option.1 == letter || option.1 == 'C'
        (own.bind Prod.snd).getD ['0']
      if sh.status = 2 then sh
      else if !isStated && g.operands.isEmpty then sh.adviseSearch
      else
        match (['A', 'B', 'C'].flatMap g.arguments).find? fun text => (number? text).isNone with
        | some text =>
            (sh.say (text ++ ": invalid context length argument".toList)).withStatus 2
        | none =>
          if (g.argument? 'm').any fun text => (number? text).isNone then
            (sh.say "invalid max count".toList).withStatus 2
          else
            match texts.mapM (searchPatterns g) with
            | .error fault => (sh.say (patternFault g fault).toList).withStatus 2
            | .ok patterns =>
                let sh := texts.foldl (warnOfBaseless g) sh
                let search : Search :=
                  ⟨patterns.flatten, g.has 'i' || g.has 'y', g.has 'w', g.has 'x', g.has 'v'⟩
                run sh g search operands ((number? (context 'B')).getD 0)
                  ((number? (context 'A')).getD 0) ((g.argument? 'm').bind number?)
where
  /-- Searches files. -/
  run (sh : Shell) (g : Given) (search : Search) (operands : List (List Char)) (before behind : Nat)
      (most? : Option Nat) : Shell :=
    let isDeep := g.has 'r' || g.has 'R'
    let given := if operands.isEmpty then (if isDeep then [['.']] else [['-']]) else operands
    let paths := if isDeep then given.flatMap (below sh operands.isEmpty) else given
    let paths := if g.has 'N' then
        paths.filter fun path => (g.arguments 'N').any fun pattern =>
          Pattern.fits (Pattern.ofText pattern) ((splitAll (· == '/') path).getLast?.getD path)
      else paths
    let isNamed := !g.has 'h' && (g.has 'H' || isDeep || 1 < paths.length)
    let isListing := g.has 'l' || g.has 'L'
    let linesIn := fun text : List Char =>
      if g.has 'z' then
        let parts := splitAll (· == '\x00') text
        if parts.getLast? == some [] then parts.dropLast else parts
      else bareLinesOf text
    let done := paths.foldl
      (fun (state : Shell × Bool × Bool) path =>
        let (sh, hasFound, hasFailed) := state
        if g.has 'q' && hasFound then state
        else
          let name := if path = ['-'] then "(standard input)".toList else path
          match sh.source path with
          | (.error reason, rest) =>
              (if g.has 's' then rest
                else rest.say (path ++ ": ".toList ++ reason.toList), hasFound, true)
          | (.ok text, rest) =>
              let report : SearchReport :=
                { front := fun sign n offset =>
                    let number := fun value : Nat =>
                      let digits := Text.decimal value
                      List.replicate (if g.has 'T' then 2 - digits.length else 0) ' ' ++
                        digits ++ [sign]
                    let parts :=
                      (if isNamed then name ++ (if g.has 'Z' then ['\x00'] else [sign]) else []) ++
                        (if g.has 'n' then number n else []) ++
                          (if g.has 'b' then number offset else [])
                    if g.has 'T' && !parts.isEmpty then parts ++ ['\t'] else parts
                  newline := if g.has 'z' then '\x00' else '\n'
                  before := before
                  behind := behind
                  most? := most?
                  onlyTexts := g.has 'o' }
              let (lines, count) := report.lines search (linesIn text)
              let isFound := 0 < count
              let isListed := isFound != g.has 'L'
              let shown :=
                if g.has 'q' then rest
                else if isListing then
                  if isListed then rest.output (name ++ [if g.has 'Z' then '\x00' else '\n'])
                  else rest
                else if g.has 'c' then
                  rest.output ((if isNamed then name ++ [if g.has 'Z' then '\x00' else ':'] else []) ++
                    Text.decimal count ++
                    ['\n'])
                else if text.contains '\x00' && !g.has 'a' && !g.has 'z' then
                  if 0 < count then rest.say (name ++ ": binary file matches".toList) else rest
                else rest.output (report.text search lines)
              (shown, hasFound || isFound, hasFailed))
      (sh, false, false)
    let (sh, hasFound, hasFailed) := done
    if hasFailed && !(g.has 'q' && hasFound) then sh.withStatus 2
    else sh.withStatus (if hasFound then 0 else 1)
  /-- The files below a path. -/
  below (sh : Shell) (isBare : Bool) (path : List Char) : List (List Char) :=
    match sh.resolve? path with
    | none => [path]
    | some place =>
        if sh.machine.files.isFolder place then
          let names := (sh.machine.files.filesBelow place).map fun p => Text.ofOctets p.bytes
          if isBare then names
          else names.map fun name =>
            (if path.getLast? == some '/' then path else path ++ ['/']) ++ name
        else [path]

/-- Prints the lines of files in which a pattern fits. -/
def grep : Tool := grepAs []

end AsmDiagnostics.Machine.Shell
