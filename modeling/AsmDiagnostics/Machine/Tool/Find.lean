import AsmDiagnostics.Machine.Shell.Expansion
import AsmDiagnostics.Machine.Shell.Lookup
import AsmDiagnostics.Machine.Regex.Reader
import AsmDiagnostics.Machine.Tool.Basic

/-!
# Looking for files

The conditions that `find` tries on what is below some folders. Some of them do something with the
file at hand.
-/

namespace AsmDiagnostics.Machine.Find

inductive Amount where
  | exactly (n : Nat)
  | more (n : Nat)
  | less (n : Nat)
  deriving DecidableEq, Repr

def Amount.holds (n : Nat) : Amount → Bool
  | .exactly m => n == m
  | .more m => m < n
  | .less m => n < m

inductive Test where
  | always
  | never
  | name (pattern : List Pattern) (ignoresCase : Bool)
  | path (pattern : List Pattern) (ignoresCase : Bool)
  | regex (regex : Regex)
  | kind (letters : List Char)
  | isEmpty
  | isExecutable
  | size (amount : Amount) (unit : Nat)
  /-- Prints the path and a character behind it. -/
  | print (finish : Char)
  | printf (format : List Char)
  /-- Runs a command for the file. -/
  | run (words : List (List Char))
  /-- Runs a command for many files; its number tells it from others. -/
  | runMany (number : Nat) (words : List (List Char))
  | delete
  | prune
  | quit
  | negated (test : Test)
  | both (first second : Test)
  | either (first second : Test)
  /-- The first test is only there for what it does. -/
  | list (first second : Test)

structure Options where
  least : Nat
  most? : Option Nat
  /-- What is in a folder comes before the folder. -/
  isDeep : Bool
  /-- The number of commands for many files. -/
  batches : Nat
  /-- Something is done with files, so that they need not be printed. -/
  acts : Bool

inductive Fault where
  | unknownPredicate (word : List Char)
  | missingArgument (word : List Char)
  | unknownKind (text : List Char)
  | badNumber (word text : List Char)
  | openParenthesis
  | closedParenthesis
  | nothingBefore (operator : List Char)
  | nothingBehind (operator : List Char)
  | pathBehind (word : List Char)

def Fault.text : Fault → List Char
  | .unknownPredicate word => "unknown predicate \x60".toList ++ word ++ ['\'']
  | .missingArgument word => "missing argument to \x60".toList ++ word ++ ['\'']
  | .unknownKind text => "Unknown argument to -type: ".toList ++ text
  | .badNumber word text =>
      "Expected a positive decimal integer argument to ".toList ++ word ++ ", but got ".toList ++
        inQuotes text
  | .openParenthesis =>
      "invalid expression; I was expecting to find a ')' somewhere but did not see one.".toList
  | .closedParenthesis => "you have too many ')'".toList
  | .nothingBefore operator =>
      "invalid expression; you have used a binary operator ".toList ++ inQuotes operator ++
        " with nothing before it.".toList
  | .nothingBehind operator => "expected an expression after ".toList ++ inQuotes operator
  | .pathBehind word => "paths must precede expression: \x60".toList ++ word ++ ['\'']

structure Work where
  rest : List (List Char)
  options : Options

abbrev Reading := StateT Work (Except Fault)

def argument (word : List Char) : Reading (List Char) := do
  let work ← get
  match work.rest with
  | [] => throw (.missingArgument word)
  | first :: rest =>
      set { work with rest := rest }
      return first

def commandWords (word : List Char) : Nat → List (List Char) → Reading (List (List Char) × Bool)
  | 0, _ => throw (.missingArgument word)
  | bound + 1, before => do
      let work ← get
      match work.rest with
      | [] => throw (.missingArgument word)
      | first :: rest =>
          set { work with rest := rest }
          if first = [';'] then return (before.reverse, false)
          else if first = ['+'] ∧ before.head? = some "\x7b\x7d".toList then
            return ((before.drop 1).reverse, true)
          else commandWords word bound (first :: before)

def act : Reading Unit :=
  modify fun work =>
    let options := work.options
    { work with options := { options with acts := true } }

def option (change : Options → Options) : Reading Unit :=
  modify fun work => { work with options := change work.options }

def numberOf (word : List Char) : Reading Nat := do
  let text ← argument word
  if !text.isEmpty && text.all Char.isDigit then return Numeral.decimalValue text
  else throw (.badNumber word text)

/-- Reads the size that is wanted: the number of units, of which a file fills the last one only in
part. -/
def sizeOf (word : List Char) : Reading Test := do
  let text ← argument word
  let sign := text.head?.filter fun c => c == '+' || c == '-'
  let digits := (if sign.isSome then text.drop 1 else text).takeWhile Char.isDigit
  let n := Numeral.decimalValue digits
  let amount := match sign with
    | some '+' => Amount.more n
    | some _ => .less n
    | none => .exactly n
  let unit := match (text.drop ((if sign.isSome then 1 else 0) + digits.length)) with
    | ['c'] => 1
    | ['w'] => 2
    | ['k'] => 1024
    | ['M'] => 1048576
    | ['G'] => 1073741824
    | _ => 512
  return .size amount unit

def predicate (word : List Char) : Reading Test := do
  match String.ofList word with
  | "-true" => return .always
  | "-false" => return .never
  | "-name" => return .name (Pattern.ofText (← argument word)) false
  | "-iname" => return .name (Pattern.ofText ((← argument word).map Char.toLower)) true
  | "-path" => return .path (Pattern.ofText (← argument word)) false
  | "-wholename" => return .path (Pattern.ofText (← argument word)) false
  | "-ipath" => return .path (Pattern.ofText ((← argument word).map Char.toLower)) true
  | "-regex" =>
      match Regex.ofText ⟨false, false, false⟩ (← argument word) with
      | .ok (regex, _) => return .regex regex
      | .error _ => return .never
  | "-type" =>
      let text ← argument word
      match text.find? fun c => !"bcdpflsD,".toList.contains c with
      | some _ => throw (.unknownKind text)
      | none => return .kind text
  | "-empty" => return .isEmpty
  | "-executable" => return .isExecutable
  | "-readable" => return .always
  | "-writable" => return .always
  | "-size" => sizeOf word
  | "-perm" =>
      let text ← argument word
      return if text.any fun c => "1357x".toList.contains c then .isExecutable else .always
  | "-user" => return if (← argument word) = "root".toList then .always else .never
  | "-newer" => do
      let _ ← argument word
      return .never
  | "-print" => do
      act
      return .print '\n'
  | "-print0" => do
      act
      return .print '\x00'
  | "-printf" => do
      act
      return .printf (← argument word)
  | "-ls" => do
      act
      return .print '\n'
  | "-exec" => do
      act
      let (words, isMany) ← commandWords word (← get).rest.length.succ []
      if isMany then
        let number := (← get).options.batches
        option fun o => { o with batches := number + 1 }
        return .runMany number words
      else return .run words
  | "-delete" => do
      act
      option fun o => { o with isDeep := true }
      return .delete
  | "-prune" => return .prune
  | "-quit" => return .quit
  | "-depth" => do
      option fun o => { o with isDeep := true }
      return .always
  | "-d" => do
      option fun o => { o with isDeep := true }
      return .always
  | "-maxdepth" => do
      let n ← numberOf word
      option fun o => { o with most? := some n }
      return .always
  | "-mindepth" => do
      let n ← numberOf word
      option fun o => { o with least := n }
      return .always
  | "-xdev" => return .always
  | "-mount" => return .always
  | "-follow" => return .always
  | "-nowarn" => return .always
  | _ => throw (if word.head? = some '-' then .unknownPredicate word else .pathBehind word)

mutual

def list : Nat → Reading Test
  | 0 => return .always
  | bound + 1 => do
      let first ← alternatives bound
      match (← get).rest with
      | [','] :: rest =>
          modify fun work => { work with rest := rest }
          return .list first (← list bound)
      | _ => return first

def alternatives : Nat → Reading Test
  | 0 => return .always
  | bound + 1 => do
      let first ← conjunction bound
      match (← get).rest with
      | word :: rest =>
          if word = "-o".toList ∨ word = "-or".toList then
            modify fun work => { work with rest := rest }
            if rest.isEmpty then throw (.nothingBehind word)
            return .either first (← alternatives bound)
          else return first
      | [] => return first

def conjunction : Nat → Reading Test
  | 0 => return .always
  | bound + 1 => do
      let first ← single bound
      match (← get).rest with
      | [] => return first
      | word :: rest =>
          if ["-o", "-or", ",", ")"].contains (String.ofList word) then return first
          else if word = "-a".toList ∨ word = "-and".toList then
            modify fun work => { work with rest := rest }
            if rest.isEmpty then throw (.nothingBehind word)
            return .both first (← conjunction bound)
          else return .both first (← conjunction bound)

def single : Nat → Reading Test
  | 0 => return .always
  | bound + 1 => do
      let work ← get
      match work.rest with
      | [] => return .always
      | word :: rest =>
          set { work with rest := rest }
          match String.ofList word with
          | "(" => do
              let inner ← list bound
              match (← get).rest with
              | [')'] :: after =>
                  modify fun work => { work with rest := after }
                  return inner
              | _ => throw .openParenthesis
          | ")" => throw .closedParenthesis
          | "!" => do
              if rest.isEmpty then throw (.nothingBehind word)
              return .negated (← single bound)
          | "-not" => do
              if rest.isEmpty then throw (.nothingBehind word)
              return .negated (← single bound)
          | "-o" => throw (.nothingBefore word)
          | "-or" => throw (.nothingBefore word)
          | "-a" => throw (.nothingBefore word)
          | "-and" => throw (.nothingBefore word)
          | "," => throw (.nothingBefore word)
          | _ => predicate word

end

/-- A search: the paths that it begins with, and what is tried there. -/
structure Request where
  paths : List (List Char)
  test : Test
  options : Options

def beginsTests (word : List Char) : Bool :=
  (word.head? == some '-' && 1 < word.length) || word == ['('] || word == ['!'] || word == [')'] ||
    word == [',']

def request (words : List (List Char)) : Except Fault Request := do
  let words := words.dropWhile fun word => ["-L", "-H", "-P"].contains (String.ofList word)
  let paths := words.takeWhile fun word => !beginsTests word
  let rest := words.drop paths.length
  let (test, work) ← (list (8 * (rest.length + 2))).run ⟨rest, ⟨0, none, false, 0, false⟩⟩
  if !work.rest.isEmpty then throw .closedParenthesis
  let whole := if work.options.acts then test else .both test (.print '\n')
  return ⟨if paths.isEmpty then [['.']] else paths, whole, work.options⟩

structure Visit where
  path : List Char
  place : Place
  depth : Nat
  /-- The path that the search has begun with. -/
  origin : List Char

def nameOf (path : List Char) : List Char :=
  match (path.reverse.dropWhile (· == '/')).reverse with
  | [] => path.take 1
  | bare => (bare.reverse.takeWhile (· != '/')).reverse

def kindOf (files : Files) (place : Place) : Char :=
  match files.get? place with
  | some .folder => 'd'
  | some .nullDevice => 'c'
  | some .zeroDevice => 'c'
  | _ => 'f'

def sizeAt (files : Files) (place : Place) : Nat :=
  match files.get? place with
  | some (.file content _) => content.length
  | some .folder => 4096
  | _ => 0

def formatted (files : Files) (v : Visit) : List Char → List Char
  | [] => []
  | '%' :: c :: rest => directive files v c ++ formatted files v rest
  | '\\' :: c :: rest =>
      (match c with
        | 'n' => ['\n']
        | 't' => ['\t']
        | '0' => ['\x00']
        | '\\' => ['\\']
        | _ => ['\\', c]) ++ formatted files v rest
  | c :: rest => c :: formatted files v rest
where
  /-- The text of one directive. -/
  directive (files : Files) (v : Visit) (c : Char) : List Char :=
    let name := nameOf v.path
    match c with
    | 'p' => v.path
    | 'f' => name
    | 'h' =>
        let above := v.path.take (v.path.length - name.length)
        if above.isEmpty then ['.'] else if above.length = 1 then above else above.dropLast
    | 'y' => [kindOf files v.place]
    | 'd' => Text.decimal v.depth
    | 'P' => (v.path.drop v.origin.length).dropWhile (· == '/')
    | 'H' => v.origin
    | 's' => Text.decimal (sizeAt files v.place)
    | 'm' =>
        match files.get? v.place with
        | some .folder => "755".toList
        | some (.file _ true) => "755".toList
        | _ => "644".toList
    | 'u' => "root".toList
    | 'g' => "root".toList
    | '%' => ['%']
    | _ => ['%', c]

def Test.holds (files : Files) (v : Visit) : Test → Bool
  | .always => true
  | .never => false
  | .name pattern ignoresCase =>
      let name := nameOf v.path
      Pattern.fits pattern (if ignoresCase then name.map Char.toLower else name)
  | .path pattern ignoresCase =>
      Pattern.fits pattern (if ignoresCase then v.path.map Char.toLower else v.path)
  | .regex r =>
      let subject : Regex.Subject := ⟨v.path.toArray, false, false⟩
      (r.searchFor? subject (fun first last => first == 0 && last == subject.text.size)
        0).isSome
  | .kind letters => letters.contains (kindOf files v.place)
  | .isEmpty =>
      match files.get? v.place with
      | some .folder => (files.namesIn v.place).isEmpty
      | some (.file content _) => content.isEmpty
      | _ => false
  | .isExecutable =>
      match files.get? v.place with
      | some .folder => true
      | some entry => Shell.isStartable entry
      | none => false
  | .size amount unit => amount.holds ((sizeAt files v.place + unit - 1) / unit)
  | _ => true

structure Progress where
  shell : Shell
  /-- What is below the file at hand is left out. -/
  isPruned : Bool
  isOver : Bool
  /-- The files for each command for many files, the latest first. -/
  collected : List (Nat × List Char)

/-- The commands for many files among tests, with their numbers. -/
def Test.batches : Test → List (Nat × List (List Char))
  | .runMany number words => [(number, words)]
  | .negated test => test.batches
  | .both first second => first.batches ++ second.batches
  | .either first second => first.batches ++ second.batches
  | .list first second => first.batches ++ second.batches
  | _ => []

def Progress.commands (p : Progress) (test : Test) : List (List (List Char)) :=
  test.batches.filterMap fun (number, words) =>
    match (p.collected.reverse.filter fun entry => entry.1 = number).map Prod.snd with
    | [] => none
    | paths => some (words ++ paths)

end AsmDiagnostics.Machine.Find
