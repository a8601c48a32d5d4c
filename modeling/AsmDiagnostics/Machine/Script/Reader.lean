import AsmDiagnostics.Machine.Script.Source

/-!
# The grammar of scripts

A script is read symbol by symbol. A symbol may be put back and read once more; whether a word is a
keyword or an alias depends on where it stands. Every call goes one step down from a bound on the
depth.
-/

namespace AsmDiagnostics.Machine.Reader

structure Look where
  /-- Newlines are skipped. -/
  overLines : Bool
  /-- A word may be a keyword. -/
  keywords : Bool
  /-- A word may be an alias. -/
  aliases : Bool

namespace Look

def bare : Look := ⟨false, false, false⟩

def name : Look := ⟨false, false, true⟩

def command : Look := ⟨false, true, true⟩

def later : Look := ⟨true, true, true⟩

def case : Look := ⟨true, true, false⟩

end Look

inductive ListKind where
  /-- A line of a script. -/
  | line
  /-- A list with at least one command. -/
  | block
  /-- A list that may be empty. -/
  | any
  deriving DecidableEq

def endsList : Symbol → Bool
  | .finish => true
  | .operator text => text == ")" || text == ";;"
  | .keyword text =>
      ["do", "done", "elif", "else", "esac", "fi", "then", "\x7d"].contains text
  | _ => false

def operatorsFrom (c : Char) : List String :=
  match c with
  | '&' => ["&&", "&"]
  | '|' => ["||", "|"]
  | ';' => [";;", ";"]
  | '(' => ["("]
  | ')' => [")"]
  | _ => []

def takeOperator? : Reading (Option String) :=
  modifyGet fun s =>
    match s.text with
    | [] => (none, s)
    | c :: rest =>
        let behind := (s.goTo rest 0).joined
        match operatorsFrom c with
        | [] => (none, s)
        | [only] => (some only, s.goTo rest 0)
        | long :: short :: _ =>
            match behind.text with
            | d :: after => if d = c then (some long, behind.goTo after 0) else (some short, behind)
            | [] => (some short, behind)

def redirectionsFrom (c : Char) : List (Char × RedirectionKind) :=
  if c = '<' then [('&', .duplicate), ('>', .both)]
  else [('>', .append), ('|', .overwrite), ('&', .duplicate)]

/-- Takes a redirection, if there is one: a digit may tell its channel. -/
def takeRedirection? : Reading (Option Symbol) :=
  modifyGet fun s =>
    let digit? := s.text.head?.filter Char.isDigit
    let start := if digit?.isSome then (s.goTo (s.text.drop 1) 0).joined else s
    match start.text with
    | [] => (none, s)
    | c :: rest =>
        if c = '<' ∨ c = '>' then
          let usual := if c = '<' then 0 else 1
          let channel := (digit?.map fun d => d.toNat - '0'.toNat).getD usual
          let behind := (start.goTo rest 0).joined
          let plain := if c = '<' then RedirectionKind.read else .write
          match behind.text with
          | [] => (some (.redirection channel plain), behind)
          | d :: after =>
              if c = '<' ∧ d = '<' then
                let last := (behind.goTo after 0).joined
                if last.text.head? = some '-' then
                  (some (.document channel true), last.goTo (last.text.drop 1) 0)
                else (some (.document channel false), last)
              else
                match (redirectionsFrom c).find? fun entry => entry.1 = d with
                | some (_, kind) => (some (.redirection channel kind), behind.goTo after 0)
                | none => (some (.redirection channel plain), behind)
        else (none, s)

def isPlain (c : Char) : Bool := !endsWord c && !"'\"\\$\x60".toList.contains c

def isPlainQuoted (c : Char) : Bool := !"\"\\$\x60".toList.contains c

/-- A backslash between double quotes takes the meaning of a character away. -/
def isEscapable (inBraces : Bool) (c : Char) : Bool :=
  "\\\x60$".toList.contains c || c == '"' || (inBraces && c == '\x7d')

def modifier? (emptyCounts : Bool) (c : Char) : Option Modifier :=
  match c with
  | '-' => some (.substitute emptyCounts true)
  | '+' => some (.substitute emptyCounts false)
  | '=' => some (.assign emptyCounts)
  | '?' => some (.demand emptyCounts)
  | _ => none

/-- What stands in braces: a parameter and what is done with it, or its length. -/
inductive Braced where
  | value (name : List Char)
  | length (name : List Char)
  | modified (name : List Char) (modifier : Modifier)
  /-- It has no meaning; what follows up to the closing brace belongs to it. -/
  | meaningless

def takeName : Reading (List Char) := do
  match ← peekChar with
  | some c =>
      if beginsName c then takeAll inName
      else if c.isDigit then takeAll Char.isDigit
      else pure []
  | none => pure []

def takeModifier (name : List Char) : Reading Braced := do
  let first ← peekChar
  match first with
  | none => pure .meaningless
  | some '\x7d' =>
      let _ ← takeChar
      pure (.value name)
  | some c =>
      let _ ← takeChar
      if c = '%' ∨ c = '#' then
        if (← peekChar) = some c then
          let _ ← takeChar
          pure (.modified name (.trim (c = '%') true))
        else pure (.modified name (.trim (c = '%') false))
      else if c = ':' then
        match ← peekChar with
        | none => pure .meaningless
        | some d =>
            let _ ← takeChar
            pure ((modifier? true d).elim .meaningless (.modified name))
      else pure ((modifier? false c).elim .meaningless (.modified name))

/-- Takes what stands in braces, behind the opening one, up to a word in it. -/
def takeBraced : Reading Braced := do
  let name ← takeName
  if !name.isEmpty then takeModifier name
  else
    match ← peekChar with
    | none => pure .meaningless
    | some '#' =>
        let _ ← takeChar
        let inner ← takeName
        if !inner.isEmpty then
          if (← peekChar) = some '\x7d' then
            let _ ← takeChar
            pure (.length inner)
          else pure .meaningless
        else
          let before ← get
          match ← peekChar with
          | none => pure .meaningless
          | some '\x7d' => takeModifier ['#']
          | some c =>
              let _ ← takeChar
              if (← peekChar) = some '\x7d' then
                let _ ← takeChar
                pure (if isMark c then .length [c] else .meaningless)
              else
                set before
                takeModifier ['#']
    | some c =>
        if c = '\x7d' then pure .meaningless
        else
          let _ ← takeChar
          if isMark c then takeModifier [c] else pure .meaningless

def joinScripts : Option Script → Script → Script
  | none, second => second
  | some first, second => .sequence first second

def reservedNames : List String :=
  ["break", ":", "continue", ".", "eval", "exec", "exit", "export", "readonly", "local", "return",
    "set", "shift", "times", "trap", "unset"]

def functionName? (word : List Piece) : Option (List Char) :=
  match word with
  | [.literal false text] =>
      if isName text && !reservedNames.contains (String.ofList text) then some text else none
  | _ => none

/-- What stands between double quotes is a field even if it is empty, unless it is all arguments and
there are none. -/
def anchored (pieces : List Piece) : List Piece :=
  match pieces with
  | [.parameter true ['@']] => pieces
  | _ => .literal true [] :: pieces

/-- Reads what follows a backslash between double quotes. -/
def escaped (isDocument inBraces : Bool) : Reading Piece := do
  match ← takeChar with
  | none => pure (.literal true ['\\'])
  | some c =>
      if isEscapable inBraces c && !(c == '"' && isDocument) then pure (.literal true [c])
      else pure (.literal true ['\\', c])

mutual

/-- Reads a word, or the rest of one, and says whether some of it is quoted. In the mark of a
document nothing is expanded. -/
def word : Nat → Bool → Reading (List Piece × Bool)
  | 0, _ => fail .tooDeep
  | bound + 1, isMarkWord => do
      let text ← takeAll isPlain
      let next ← peekChar
      match next with
      | none => return (withText false text [], false)
      | some c =>
          if endsWord c then return (withText false text [], false)
          else
            let _ ← takeChar
            let (piece, quotes) ←
              if c = '\'' then do
                pure ([Piece.literal true (← takeQuoted)], true)
              else if c = '"' then do
                pure (anchored (← quotedText bound isMarkWord), true)
              else if c = '\\' then do
                pure ([Piece.literal true [(← takeChar).getD '\\']], true)
              else if isMarkWord then pure ([Piece.literal false [c]], false)
              else if c = '$' then do pure ([← dollar bound false], false)
              else do pure ([← backquote bound false], false)
            let (others, more) ← word bound isMarkWord
            return (withText false text (piece ++ others), quotes || more)

def quotedText : Nat → Bool → Reading (List Piece)
  | 0, _ => fail .tooDeep
  | bound + 1, isMarkWord => do
      let text ← takeAll isPlainQuoted
      let next ← peekChar
      match next with
      | none => fail .openQuote
      | some c =>
          let _ ← takeChar
          if c = '"' then return withText true text []
          else
            let piece ←
              if c = '\\' then escaped false false
              else if isMarkWord then pure (Piece.literal true [c])
              else if c = '$' then dollar bound true
              else backquote bound true
            let others ← quotedText bound isMarkWord
            return withText true text (piece :: others)

/-- Reads a document up to the line that ends it; `isStart` says that a line begins here. -/
def document : Nat → Announced → Bool → Reading (List Piece)
  | 0, _, _ => fail .tooDeep
  | bound + 1, announced, isStart => do
      if isStart && (← takeMark announced) then return []
      let text ← takeAll fun c => (isPlainQuoted c || c == '"') && c != '\n'
      let next ← peekChar
      match next with
      | none => return withText true text []
      | some c =>
          let _ ← takeChar
          let piece ←
            if c = '\n' then pure (Piece.literal true [c])
            else if c = '\\' then escaped true false
            else if c = '$' then dollar bound true
            else backquote bound true
          let others ← document bound announced (c = '\n')
          return withText true text (withPiece piece others)

def dollar : Nat → Bool → Reading Piece
  | 0, _ => fail .tooDeep
  | bound + 1, quoted => do
      let next ← peekChar
      match next with
      | none => return .literal quoted ['$']
      | some c =>
          if c = '(' then
            let _ ← takeChar
            if (← peekChar) = some '(' then
              let _ ← takeChar
              return .arithmetic quoted (← arithmetic bound 0)
            else
              let outer ← get
              set { outer with announced := [], inDocument := false }
              let script ← list bound .any false none
              expect bound (.operator ")")
              modify fun s => { s with announced := outer.announced, inDocument := outer.inDocument }
              return .output quoted (script.getD .nothing)
          else if c = '\x7b' then
            let _ ← takeChar
            match ← takeBraced with
            | .value name => return .parameter quoted name
            | .length name => return .length quoted name
            | .modified name modifier =>
                let inner := quoted && !modifier.takesPattern
                return .modified quoted name modifier (← bracedWord bound inner false)
            | .meaningless =>
                let _ ← bracedWord bound quoted false
                return .meaningless
          else if beginsName c then return .parameter quoted (← takeAll inName)
          else if isMark c then
            let _ ← takeChar
            return .parameter quoted [c]
          else return .literal quoted ['$']

/-- Reads a word up to a closing brace; `inQuotes` says that a double quote stands open in it. -/
def bracedWord : Nat → Bool → Bool → Reading (List Piece)
  | 0, _, _ => fail .tooDeep
  | bound + 1, quoted, inQuotes => do
      let text ← takeAll fun c => isPlainQuoted c && c != '\x7d' && (quoted || c != '\'')
      let next ← peekChar
      match next with
      | none => fail (if quoted && !(← get).inDocument then .openQuote else .openBrace)
      | some c =>
          let _ ← takeChar
          if c = '\x7d' ∧ !inQuotes then return withText quoted text []
          else
            let (pieces, toggles) ←
              if c = '\x7d' then pure ([Piece.literal quoted [c]], false)
              else if c = '\'' then do pure ([Piece.literal true (← takeQuoted)], false)
              else if c = '"' then
                if quoted then pure ([], true)
                else do pure (.literal true [] :: (← quotedText bound false), false)
              else if c = '\\' then
                if quoted then do pure ([← escaped false true], false)
                else do pure ([Piece.literal true [(← takeChar).getD '\\']], false)
              else if c = '$' then do pure ([← dollar bound quoted], false)
              else do pure ([← backquote bound quoted], false)
            let others ← bracedWord bound quoted (inQuotes != toggles)
            return withText quoted text (pieces ++ others)

/-- Reads a calculation up to the parentheses that close it; `depth` is the number of its own
parentheses that are open. -/
def arithmetic : Nat → Nat → Reading (List Piece)
  | 0, _ => fail .tooDeep
  | bound + 1, depth => do
      let text ← takeAll fun c => !"()$\\\x60".toList.contains c
      let next ← peekChar
      match next with
      | none => fail .openArithmetic
      | some c =>
          let _ ← takeChar
          if c = ')' && depth == 0 && (← peekChar) == some ')' then
            let _ ← takeChar
            return withText true text []
          else
            let (piece, inner) ←
              if c = '(' then pure (Piece.literal true [c], depth + 1)
              else if c = ')' then pure (Piece.literal true [c], depth - 1)
              else if c = '\\' then do pure (← escaped false false, depth)
              else if c = '$' then do pure (← dollar bound true, depth)
              else do pure (← backquote bound true, depth)
            let others ← arithmetic bound inner
            return withText true text (piece :: others)

def backquote : Nat → Bool → Reading Piece
  | 0, _ => fail .tooDeep
  | bound + 1, quoted => do
      let outer ← get
      match backquoted quoted outer.text with
      | none =>
          set (outer.goTo [] (outer.text.count '\n'))
          fail .openBackquote
      | some (inner, lines, after) =>
          set
            { outer with
              text := inner
              line := 1
              announced := []
              replaced := []
              inDocument := false }
          let script ← list bound .any false none
          modify fun s =>
            { s with
              text := after
              line := outer.line + lines
              announced := outer.announced
              replaced := outer.replaced
              inDocument := outer.inDocument
              peeked? := none }
          return .output quoted (script.getD .nothing)

def documents : Nat → Reading Unit
  | 0 => fail .tooDeep
  | bound + 1 => do
      let outer ← get
      match outer.announced with
      | [] => return
      | first :: others =>
          set { outer with announced := [], replaced := [], inDocument := true }
          let pieces ←
            if first.isLiteral then do pure [Piece.literal true (← takeLines first)]
            else document bound first true
          modify fun s =>
            { s with
              announced := others
              documents := (first.number, pieces) :: s.documents
              replaced := outer.replaced
              inDocument := outer.inDocument }
          documents bound

def symbol : Nat → Bool → Reading Symbol
  | 0, _ => fail .tooDeep
  | bound + 1, isMarkWord => do
      let s ← get
      match s.peeked? with
      | some peeked =>
          set { s with peeked? := none }
          return peeked
      | none =>
          takeBlanks
          let next ← peekChar
          match next with
          | none => return .finish
          | some '\n' =>
              let _ ← takeChar
              return .newline
          | some _ =>
              if let some text ← takeOperator? then return .operator text
              if let some redirection ← takeRedirection? then return redirection
              let (pieces, quotes) ← word bound isMarkWord
              return .word pieces quotes

def next : Nat → Look → Reading Symbol
  | 0, _ => fail .tooDeep
  | bound + 1, look => do
      let before ← get
      let found ← symbol bound false
      match found with
      | .newline =>
          if look.overLines then
            documents bound
            next bound look
          else return .newline
      | .word [.literal false text] false =>
          let name := String.ofList text
          if look.keywords && keywords.contains name then return .keyword name
          else if look.aliases || before.leavesAlias then
            match (← get).aliasText? text with
            | some value =>
                modify fun s => s.withAlias text value
                next bound look
            | none => return found
          else return found
      | _ => return found

def expect : Nat → Symbol → Reading Unit
  | 0, _ => fail .tooDeep
  | bound + 1, wanted => do
      let found ← next bound .bare
      if found.name == wanted.name then return else failAt found (some wanted.name)

def list : Nat → ListKind → Bool → Option Script → Reading (Option Script)
  | 0, _, _, _ => fail .tooDeep
  | bound + 1, kind, isBehind, first? => do
      let found ← next bound (if kind = .line then .command else .later)
      match found with
      | .newline =>
          documents bound
          return first?
      | .finish =>
          documents bound
          putBack .finish
          return first?
      | _ =>
          putBack found
          if (kind = .any ∨ (kind = .block ∧ isBehind)) ∧ endsList found then return first?
          else
            let second ← chain bound .bare
            let separator ← next bound .bare
            match separator with
            | .operator "&" => list bound kind true (joinScripts first? (.background second))
            | .operator ";" => list bound kind true (joinScripts first? second)
            | .newline =>
                putBack .newline
                list bound kind true (joinScripts first? second)
            | .finish =>
                documents bound
                putBack .finish
                return joinScripts first? second
            | _ =>
                if kind = .line then failAt separator none
                else
                  putBack separator
                  return joinScripts first? second

def chain : Nat → Look → Reading Script
  | 0, _ => fail .tooDeep
  | bound + 1, look => do
      let first ← pipeline bound look
      chainFrom bound first

def chainFrom : Nat → Script → Reading Script
  | 0, _ => fail .tooDeep
  | bound + 1, first => do
      let found ← next bound .bare
      match found with
      | .operator "&&" => chainFrom bound (.both first (← pipeline bound .later))
      | .operator "||" => chainFrom bound (.either first (← pipeline bound .later))
      | _ =>
          putBack found
          return first

def pipeline : Nat → Look → Reading Script
  | 0, _ => fail .tooDeep
  | bound + 1, look => do
      let found ← next bound look
      match found with
      | .keyword "!" => return .negated (← pipelineFrom bound [← command bound .command])
      | _ =>
          putBack found
          pipelineFrom bound [← command bound .bare]

/-- Reads the rest of a pipeline; the commands before it stand in reverse. -/
def pipelineFrom : Nat → List Script → Reading Script
  | 0, _ => fail .tooDeep
  | bound + 1, parts => do
      let found ← next bound .bare
      match found with
      | .operator "|" => pipelineFrom bound ((← command bound .later) :: parts)
      | _ =>
          putBack found
          match parts with
          | [only] => return only
          | _ => return .pipe parts.reverse

def command : Nat → Look → Reading Script
  | 0, _ => fail .tooDeep
  | bound + 1, look => do
      let found ← next bound look
      let line := (← get).line
      match found with
      | .keyword "if" => redirected bound line (← conditional bound)
      | .keyword "while" => redirected bound line (← loop bound true)
      | .keyword "until" => redirected bound line (← loop bound false)
      | .keyword "for" => redirected bound line (← each bound line)
      | .keyword "case" => redirected bound line (← choice bound line)
      | .keyword "\x7b" =>
          let body ← list bound .block false none
          expect bound (.keyword "\x7d")
          redirected bound line (body.getD .nothing)
      | .operator "(" =>
          let body ← list bound .block false none
          expect bound (.operator ")")
          let targets ← redirections bound .command
          return .subshell line (body.getD .nothing) targets
      | .word _ _ =>
          putBack found
          simple bound line [] [] []
      | .redirection _ _ =>
          putBack found
          simple bound line [] [] []
      | .document _ _ =>
          putBack found
          simple bound line [] [] []
      | _ => failAt found none

def redirected : Nat → Nat → Script → Reading Script
  | 0, _, _ => fail .tooDeep
  | bound + 1, line, body => do
      let targets ← redirections bound .command
      return if targets.isEmpty then body else .redirected line body targets

def redirections : Nat → Look → Reading (List Redirection)
  | 0, _ => fail .tooDeep
  | bound + 1, look => do
      let found ← next bound look
      match ← redirection? bound found with
      | some first => return first :: (← redirections bound .bare)
      | none =>
          putBack found
          return []

def redirection? : Nat → Symbol → Reading (Option Redirection)
  | 0, _ => fail .tooDeep
  | bound + 1, found => do
      match found with
      | .redirection channel kind =>
          match ← next bound .bare with
          | .word pieces _ => return some (.file channel kind pieces)
          | other => failAt other none
      | .document channel stripped =>
          match ← symbol bound true with
          | .word pieces quotes =>
              return some (.document channel (← announce (unquoted pieces) stripped quotes))
          | other => failAt other none
      | _ => return none

/-- Reads the assignments, words and redirections of a command; those before stand in reverse. A
single word with parentheses behind it is the name of a function. -/
def simple : Nat → Nat → List Assignment → List (List Piece) → List Redirection → Reading Script
  | 0, _, _, _, _ => fail .tooDeep
  | bound + 1, line, assignments, words, targets => do
      let found ← next bound (if words.isEmpty then .name else .bare)
      match found with
      | .word pieces _ =>
          match if words.isEmpty then assignmentOf? pieces else none with
          | some assignment => simple bound line (assignment :: assignments) words targets
          | none => simple bound line assignments (pieces :: words) targets
      | _ =>
          match ← redirection? bound found with
          | some target => simple bound line assignments words (target :: targets)
          | none =>
              match found, words with
              | .operator "(", [name] =>
                  if assignments.isEmpty && targets.isEmpty then function bound name
                  else
                    putBack found
                    return .simple line assignments.reverse words targets.reverse
              | _, _ =>
                  putBack found
                  return .simple line assignments.reverse words.reverse targets.reverse

def function : Nat → List Piece → Reading Script
  | 0, _ => fail .tooDeep
  | bound + 1, name => do
      expect bound (.operator ")")
      match functionName? name with
      | none => fail .badFunctionName
      | some text =>
          let line := (← get).line
          return .function line text (← command bound .later)

def conditional : Nat → Reading Script
  | 0 => fail .tooDeep
  | bound + 1 => do
      let test ← list bound .block false none
      expect bound (.keyword "then")
      let body ← list bound .block false none
      let otherwise ← alternative bound
      return .conditional (test.getD .nothing) (body.getD .nothing) otherwise

/-- Reads what is done when a condition does not hold, and the end of the conditional. -/
def alternative : Nat → Reading Script
  | 0 => fail .tooDeep
  | bound + 1 => do
      let found ← next bound .bare
      match found with
      | .keyword "elif" => conditional bound
      | .keyword "else" =>
          let otherwise ← list bound .block false none
          expect bound (.keyword "fi")
          return otherwise.getD .nothing
      | _ =>
          putBack found
          expect bound (.keyword "fi")
          return .nothing

def loop : Nat → Bool → Reading Script
  | 0, _ => fail .tooDeep
  | bound + 1, wanted => do
      let test ← list bound .block false none
      return .loop wanted (test.getD .nothing) (← loopBody bound .bare)

def loopBody : Nat → Look → Reading Script
  | 0, _ => fail .tooDeep
  | bound + 1, look => do
      let found ← next bound look
      match found with
      | .keyword "do" =>
          let body ← list bound .block false none
          expect bound (.keyword "done")
          return body.getD .nothing
      | _ => failAt found (some "\"do\"")

def each : Nat → Nat → Reading Script
  | 0, _ => fail .tooDeep
  | bound + 1, line => do
      match ← next bound .bare with
      | .word [.literal false name] false =>
          if !isName name then fail .badLoopVariable
          else
            let found ← next bound .later
            match found with
            | .keyword "in" =>
                let words ← wordsUpToEnd bound []
                return .each line name (some words) (← loopBody bound .later)
            | .operator ";" => return .each line name none (← loopBody bound .later)
            | _ =>
                putBack found
                return .each line name none (← loopBody bound .later)
      | _ => fail .badLoopVariable

/-- Reads words up to a semicolon or a newline; those before stand in reverse. -/
def wordsUpToEnd : Nat → List (List Piece) → Reading (List (List Piece))
  | 0, _ => fail .tooDeep
  | bound + 1, words => do
      let found ← next bound .bare
      match found with
      | .word pieces _ => wordsUpToEnd bound (pieces :: words)
      | .newline => return words.reverse
      | .operator ";" => return words.reverse
      | _ => failAt found none

def choice : Nat → Nat → Reading Script
  | 0, _ => fail .tooDeep
  | bound + 1, line => do
      let found ← next bound .bare
      match found with
      | .word subject _ =>
          match ← next bound .later with
          | .keyword "in" => return .choice line subject (← cases bound)
          | other => failAt other (some "\"in\"")
      | _ => failAt found (some "word")

def cases : Nat → Reading (List Case)
  | 0 => fail .tooDeep
  | bound + 1 => do
      let found ← next bound .case
      match found with
      | .keyword "esac" => return []
      | _ =>
          let first ← if found.name == "\"(\"" then next bound .bare else pure found
          let patterns ← patternsUpToEnd bound first
          let body ← list bound .any false none
          let found ← next bound .case
          match found with
          | .keyword "esac" => return [.mk patterns (body.getD .nothing)]
          | .operator ";;" => return .mk patterns (body.getD .nothing) :: (← cases bound)
          | _ => failAt found (some "\";;\"")

/-- Reads the patterns of a case, of which the first is at hand, and the parenthesis behind them. -/
def patternsUpToEnd : Nat → Symbol → Reading (List (List Piece))
  | 0, _ => fail .tooDeep
  | bound + 1, first => do
      let pattern :=
        match first with
        | .word pieces _ => pieces
        | .keyword text => [.literal false text.toList]
        | _ => []
      let found ← next bound .bare
      match found with
      | .operator "|" => return pattern :: (← patternsUpToEnd bound (← next bound .bare))
      | .operator ")" => return [pattern]
      | _ => failAt found (some "\")\"")

end

end AsmDiagnostics.Machine.Reader

namespace AsmDiagnostics.Machine

inductive Line where
  /-- The script is over. -/
  | finish
  /-- Commands, if there are any; `isLast` says that the script is over behind them. -/
  | commands (script? : Option Script) (isLast : Bool)

def Source.depth (s : Source) : Nat := 1000000 + 8 * s.text.length

def Source.nextLine (s : Source) : Except (Nat × ScriptFault) (Line × Source) := do
  let (script?, rest) ← (Reader.list s.depth .line false none).run { s with peeked? := none }
  let isLast := rest.peeked?.any fun symbol => symbol.name == Symbol.finish.name
  if script?.isNone && isLast then pure (.finish, rest)
  else pure (.commands script? isLast, rest)

end AsmDiagnostics.Machine
