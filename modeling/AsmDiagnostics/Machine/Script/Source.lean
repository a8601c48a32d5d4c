import AsmDiagnostics.Machine.Script

/-!
# Reading a script

The text of a script is read from left to right. A source is what is left of it, with the number of
the line it is on and the documents that are announced on that line and follow it.
-/

namespace AsmDiagnostics.Machine

inductive ScriptFault where
  /-- A symbol does not belong where it stands; another one may be the only one that does. -/
  | unexpected (symbol : String) (expected? : Option String)
  | badLoopVariable
  | badFunctionName
  | openQuote
  | openBrace
  | openArithmetic
  | openBackquote
  | tooDeep
  deriving DecidableEq, Repr

def ScriptFault.message : ScriptFault → String
  | .unexpected symbol none => symbol ++ " unexpected"
  | .unexpected symbol (some expected) =>
      symbol ++ " unexpected (expecting " ++ expected ++ ")"
  | .badLoopVariable => "Bad for loop variable"
  | .badFunctionName => "Bad function name"
  | .openQuote => "Unterminated quoted string"
  | .openBrace => "Missing '\x7d'"
  | .openArithmetic => "Missing '))'"
  | .openBackquote => "EOF in backquote substitution"
  | .tooDeep => "too deep"

inductive Symbol where
  | finish
  | newline
  /-- An operator between commands, or a parenthesis. -/
  | operator (text : String)
  /-- A word with a meaning of its own. -/
  | keyword (text : String)
  | redirection (channel : Nat) (kind : RedirectionKind)
  /-- A redirection to a document; `stripped` says that its lines begin behind their tabs. -/
  | document (channel : Nat) (stripped : Bool)
  | word (pieces : List Piece) (quoted : Bool)

def Symbol.name : Symbol → String
  | .finish => "end of file"
  | .newline => "newline"
  | .operator text => "\"" ++ text ++ "\""
  | .keyword text => "\"" ++ text ++ "\""
  | .redirection _ _ => "redirection"
  | .document _ _ => "redirection"
  | .word _ _ => "word"

/-- A document that has been announced: its number, the line that ends it, and whether its lines
begin behind their tabs, and whether it is taken as it is. -/
structure Announced where
  number : Nat
  mark : List Char
  stripped : Bool
  isLiteral : Bool

structure Source where
  text : List Char
  line : Nat
  /-- The documents that follow the line. -/
  announced : List Announced
  /-- The documents that were read, by their numbers. -/
  documents : List (Nat × List Piece)
  nextDocument : Nat
  /-- A symbol that was read and not used. -/
  peeked? : Option Symbol
  /-- Names that stand for a text where a command begins. -/
  aliases : List (List Char × List Char)
  /-- The aliases whose text is being read, and how much of the script is behind it. -/
  replaced : List (List Char × Nat)
  /-- What is read belongs to a document. -/
  inDocument : Bool

namespace Source

def ofText (text : List Char) : Source where
  text := text
  line := 1
  announced := []
  documents := []
  nextDocument := 0
  peeked? := none
  aliases := []
  replaced := []
  inDocument := false

def goTo (s : Source) (text : List Char) (lines : Nat) : Source :=
  { s with text := text, line := s.line + lines }

def joined (s : Source) : Source :=
  let (text, lines) := skip s.text
  s.goTo text lines
where
  /-- The text behind such line ends, and their number. -/
  skip : List Char → List Char × Nat
    | '\\' :: '\n' :: rest => ((skip rest).1, (skip rest).2 + 1)
    | rest => (rest, 0)

/-- The text of an alias that stands here, unless it is being read already. -/
def aliasText? (s : Source) (name : List Char) : Option (List Char) :=
  if s.replaced.any fun entry => entry.1 == name && entry.2 < s.text.length then none
  else (s.aliases.find? fun entry => entry.1 == name).map Prod.snd

/-- Only blanks are left of an alias that is being read, so that the word behind it may be an alias
too. -/
def leavesAlias (s : Source) : Bool :=
  s.replaced.any fun entry =>
    let left := s.text.take (s.text.length - entry.2)
    !left.isEmpty && left.all fun c => c == ' ' || c == '\t'

def withAlias (s : Source) (name text : List Char) : Source :=
  { s with
    text := text ++ s.text
    replaced := (name, s.text.length) :: s.replaced }

end Source

/-- A step of reading takes some of the source, or ends with a fault and its line. -/
abbrev Reading := StateT Source (Except (Nat × ScriptFault))

namespace Reader

def endsWord (c : Char) : Bool := " \t\n;&|<>()".toList.contains c

def beginsName (c : Char) : Bool := c.isAlpha || c == '_'

def inName (c : Char) : Bool := c.isAlphanum || c == '_'

def isName (s : List Char) : Bool := s.head?.any beginsName && s.all inName

def isMark (c : Char) : Bool := "?$!#-@*".toList.contains c || c.isDigit

def keywords : List String :=
  ["if", "then", "else", "elif", "fi", "while", "until", "do", "done", "for", "in", "case", "esac",
    "\x7b", "\x7d", "!"]

def assignment? (s : List Char) : Option (List Char × List Char) :=
  let name := s.takeWhile inName
  match s.dropWhile inName with
  | '=' :: rest => if isName name then some (name, rest) else none
  | _ => none

def assignmentOf? : List Piece → Option Assignment
  | .literal false text :: rest =>
      (assignment? text).map fun (name, value) =>
        .mk name (if value.isEmpty then rest else .literal false value :: rest)
  | _ => none

def withText (quoted : Bool) (text : List Char) (pieces : List Piece) : List Piece :=
  if text.isEmpty then pieces
  else
    match pieces with
    | .literal other more :: rest =>
        if other = quoted then .literal quoted (text ++ more) :: rest
        else .literal quoted text :: pieces
    | _ => .literal quoted text :: pieces

def unquoted : List Piece → List Char
  | [] => []
  | .literal _ text :: rest => text ++ unquoted rest
  | _ :: rest => unquoted rest

/-- The text up to a closing backquote with the backslashes taken away that stand for themselves,
the number of its lines, and the text behind it. -/
def backquoted (inQuotes : Bool) : List Char → Option (List Char × Nat × List Char)
  | [] => none
  | '\x60' :: rest => some ([], 0, rest)
  | '\\' :: '\n' :: rest =>
      (backquoted inQuotes rest).map fun (inner, lines, after) => (inner, lines + 1, after)
  | '\\' :: c :: rest =>
      (backquoted inQuotes rest).map fun (inner, lines, after) =>
        if c = '\x60' ∨ c = '\\' ∨ c = '$' ∨ (c = '"' ∧ inQuotes) then (c :: inner, lines, after)
        else ('\\' :: c :: inner, lines, after)
  | c :: rest =>
      (backquoted inQuotes rest).map fun (inner, lines, after) =>
        (c :: inner, if c = '\n' then lines + 1 else lines, after)

def withPiece : Piece → List Piece → List Piece
  | .literal quoted text, pieces => withText quoted text pieces
  | piece, pieces => piece :: pieces

def linesUpTo (a : Announced) : Nat → List Char → List Char × Nat × List Char
  | 0, s => ([], 0, s)
  | _ + 1, [] => ([], 0, [])
  | bound + 1, s =>
      let whole := s.takeWhile (· != '\n')
      let rest := s.drop whole.length
      let line := if a.stripped then whole.dropWhile (· == '\t') else whole
      if line == a.mark then ([], 1, rest.drop 1)
      else
        let (others, lines, after) := linesUpTo a bound (rest.drop 1)
        (line ++ rest.take 1 ++ others, lines + 1, after)

/-- The characters of a kind at the front, the text behind them, and the number of the joined lines
between them. -/
def spanJoined (p : Char → Bool) : List Char → List Char × List Char × Nat
  | [] => ([], [], 0)
  | '\\' :: '\n' :: rest =>
      let (taken, after, lines) := spanJoined p rest
      (taken, after, lines + 1)
  | c :: rest =>
      if p c then
        let (taken, after, lines) := spanJoined p rest
        (c :: taken, after, if c = '\n' then lines + 1 else lines)
      else ([], c :: rest, 0)

/-- What is left behind blanks, joined lines and a comment, and the number of the joined lines. -/
def behindBlanks : List Char → List Char × Nat
  | ' ' :: rest => behindBlanks rest
  | '\t' :: rest => behindBlanks rest
  | '\\' :: '\n' :: rest => ((behindBlanks rest).1, (behindBlanks rest).2 + 1)
  | '#' :: rest => (rest.dropWhile (· != '\n'), 0)
  | rest => (rest, 0)

def fail {α : Type} (fault : ScriptFault) : Reading α := do
  throw ((← get).line, fault)

def failAt {α : Type} (symbol : Symbol) (expected? : Option String) : Reading α :=
  fail (.unexpected symbol.name expected?)

def peekChar : Reading (Option Char) :=
  modifyGet fun s => (s.joined.text.head?, s.joined)

def takeChar : Reading (Option Char) :=
  modifyGet fun s =>
    match s.text with
    | [] => (none, s)
    | c :: rest => (some c, s.goTo rest (if c = '\n' then 1 else 0))

def takeAll (p : Char → Bool) : Reading (List Char) :=
  modifyGet fun s =>
    let (taken, rest, lines) := spanJoined p s.text
    (taken, s.goTo rest lines)

def takeQuoted : Reading (List Char) := do
  let s ← get
  let inner := s.text.takeWhile (· != '\'')
  set (s.goTo (s.text.drop (inner.length + 1)) (inner.count '\n'))
  if inner.length < s.text.length then pure inner else fail .openQuote

def takeLines (a : Announced) : Reading (List Char) :=
  modifyGet fun s =>
    let (text, lines, rest) := linesUpTo a (s.text.length + 1) s.text
    (text, s.goTo rest lines)

/-- Takes the tabs in front of a line of a document, and the line itself if it ends the document. -/
def takeMark (a : Announced) : Reading Bool :=
  modifyGet fun s =>
    let text := if a.stripped then s.text.dropWhile (· == '\t') else s.text
    let line := text.takeWhile (· != '\n')
    if line == a.mark then (true, s.goTo (text.drop (line.length + 1)) 1)
    else (false, s.goTo text 0)

def takeBlanks : Reading Unit :=
  modify fun s => s.goTo (behindBlanks s.text).1 (behindBlanks s.text).2

def putBack (symbol : Symbol) : Reading Unit :=
  modify fun s => { s with peeked? := some symbol }

def announce (mark : List Char) (stripped isLiteral : Bool) : Reading Nat :=
  modifyGet fun s =>
    (s.nextDocument,
      { s with
        announced := s.announced ++ [⟨s.nextDocument, mark, stripped, isLiteral⟩]
        nextDocument := s.nextDocument + 1 })

end Reader

end AsmDiagnostics.Machine
