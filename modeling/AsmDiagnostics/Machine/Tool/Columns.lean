import AsmDiagnostics.Machine.Shell.Expansion
import AsmDiagnostics.Machine.Tool.Ordering

/-!
# Parts of lines

Programs that select parts of lines, put lines side by side, or replace characters.
-/

namespace AsmDiagnostics.Machine.Shell

/-- A range of positions from one on; without an end it goes on for ever. -/
structure PositionRange where
  first : Nat
  last? : Option Nat
  deriving DecidableEq, Repr

def PositionRange.holds (n : Nat) (range : PositionRange) : Bool :=
  decide (range.first ≤ n) && range.last?.all fun last => decide (n ≤ last)

structure PositionKind where
  value : String
  position : String

def positionRange (kind : PositionKind) (text : List Char) : Except (List Char) PositionRange :=
  let number : List Char → Except (List Char) Nat := fun digits =>
    if digits.all Char.isDigit then
      if Numeral.decimalValue digits = 0 then
        .error (kind.position ++ " are numbered from 1").toList
      else .ok (Numeral.decimalValue digits)
    else .error ("invalid ".toList ++ kind.value.toList ++ " ".toList ++ inQuotes text)
  let first := text.takeWhile (· != '-')
  match text.drop first.length with
  | [] =>
      if text.isEmpty then .error (kind.position ++ " are numbered from 1").toList
      else (number text).map fun n => ⟨n, some n⟩
  | _ :: last =>
      if first.isEmpty && last.isEmpty then .error "invalid range with no endpoint: -".toList
      else if first.isEmpty then (number last).map fun n => ⟨1, some n⟩
      else if last.isEmpty then (number first).map fun n => ⟨n, none⟩
      else
        match number first, number last with
        | .ok m, .ok n =>
            if n < m then .error "invalid decreasing range".toList else .ok ⟨m, some n⟩
        | .error text, _ => .error text
        | _, .error text => .error text

def positionRanges (kind : PositionKind) (text : List Char) :
    Except (List Char) (List PositionRange) :=
  (splitAll (fun c => c == ',' || c == ' ' || c == '\t') text).mapM (positionRange kind)

/-- The parts of a line that are selected, with those that follow one another marked by where a
stretch of them begins. -/
def selected (isSelected : Nat → Bool) (parts : List (List Char)) : List (Bool × List Char) :=
  let numbered := parts.zipIdx.map fun (part, i) => (i + 1, part)
  (numbered.filter fun (n, _) => isSelected n).map fun (n, part) => (!isSelected (n - 1) || n = 1, part)

def cut : Tool := fun sh arguments =>
  let kinds := OptionKind.values "bcfd" ++ OptionKind.flags "nsz" ++
    [⟨'b', "bytes", .always⟩, ⟨'c', "characters", .always⟩, ⟨'f', "fields", .always⟩,
      ⟨'d', "delimiter", .always⟩, ⟨'s', "only-delimited", .never⟩, ⟨'C', "complement", .never⟩,
      ⟨'O', "output-delimiter", .always⟩]
  sh.withGiven (Given.ofArguments kinds arguments) 1 fun sh g =>
    let lists := g.options.filter fun option => ['b', 'c', 'f'].contains option.1
    let byFields := g.has 'f'
    let kind : PositionKind :=
      if byFields then ⟨"field value", "fields"⟩
      else ⟨"byte or character position", "byte/character positions"⟩
    match lists with
    | [] => sh.misused "you must specify a list of bytes, characters, or fields".toList 1
    | _ :: _ :: _ => sh.misused "only one list may be specified".toList 1
    | [(_, list?)] =>
        let delimiter := (g.argument? 'd').getD ['\t']
        if 1 < delimiter.length then
          sh.misused "the delimiter must be a single character".toList 1
        else if g.has 'd' && !byFields then
          sh.misused "an input delimiter may be specified only when operating on fields".toList 1
        else if g.has 's' && !byFields then
          sh.misused
            "suppressing non-delimited lines makes sense\n\tonly when operating on fields".toList 1
        else
          match positionRanges kind (list?.getD []) with
          | .error text => sh.misused text 1
          | .ok ranges =>
              let isSelected := fun n : Nat =>
                decide (0 < n) && (ranges.any fun range => range.holds n) != g.has 'C'
              let sign := delimiter.head?.getD '\x00'
              let line := fun text : List Char =>
                if byFields then
                  if !text.contains sign then if g.has 's' then [] else text ++ ['\n']
                  else
                    let parts := (selected isSelected (splitAll (· == sign) text)).map Prod.snd
                    ((g.argument? 'O').getD [sign]).intercalate parts ++ ['\n']
                else
                  let parts := selected isSelected (text.map fun c => [c])
                  let separator := (g.argument? 'O').getD []
                  (parts.zipIdx.flatMap fun ((begins, part), i) =>
                    (if begins && 0 < i then separator else []) ++ part) ++ ['\n']
              sh.withSources g.operands fun sh _ text =>
                sh.output ((bareLinesOf text).flatMap line)

def joinedInTurn (separators : List (List Char)) (texts : List (List Char)) : List Char :=
  texts.zipIdx.flatMap fun (text, i) =>
    if i = 0 then text
    else (separators[(i - 1) % separators.length]?.getD []) ++ text

def separatorsOf : List Char → List (List Char)
  | [] => []
  | '\\' :: c :: rest =>
      (match c with
        | 'n' => ['\n']
        | 't' => ['\t']
        | '0' => []
        | other => [other]) :: separatorsOf rest
  | c :: rest => [c] :: separatorsOf rest

/-- Prints lines of files side by side, or the lines of each file on one line. -/
def paste : Tool := fun sh arguments =>
  let kinds := OptionKind.values "d" ++ OptionKind.flags "sz" ++
    [⟨'d', "delimiters", .always⟩, ⟨'s', "serial", .never⟩]
  sh.withGiven (Given.ofArguments kinds arguments) 1 fun sh g =>
    let given := separatorsOf ((g.argument? 'd').getD ['\t'])
    let separators := if given.isEmpty then [[]] else given
    let paths := orInput g.operands
    let inputs := paths.filter (· == ['-'])
    let (files, rest) := (paths.eraseDups).foldl
      (fun (state : List (List Char × List (List Char)) × Shell) path =>
        match state.2.sourceOrSay path with
        | (some text, rest) => ((path, bareLinesOf text) :: state.1, rest)
        | (none, rest) => (state.1, rest))
      ([], sh)
    let linesFor := fun (path : List Char) =>
      ((files.find? fun entry => entry.1 == path).map Prod.snd).getD []
    if files.length < paths.eraseDups.length && !g.has 's' then rest
    else if g.has 's' then
      rest.output ((paths.filter fun path => files.any fun entry => entry.1 == path).flatMap
        fun path => joinedInTurn separators (linesFor path) ++ ['\n'])
    else
      let isShared := fun path : List Char => path == ['-'] && 1 < inputs.length
      let columns := paths.zipIdx.map fun (path, i) =>
        if isShared path then
          let before := ((paths.take i).filter (· == ['-'])).length
          let all := (linesFor path).zipIdx
          (all.filter fun (_, n) => n % inputs.length = before).map Prod.fst
        else linesFor path
      let height := (columns.map List.length).foldl max 0
      rest.output ((List.range height).flatMap fun row =>
        joinedInTurn separators (columns.map fun column => column[row]?.getD []) ++ ['\n'])

inductive CharacterItem where
  | char (c : Char)
  | range (first last : Char)
  | named (name : String)
  /-- As many of a character as there is room for, or as many as it says. -/
  | repeated (c : Char) (count : Nat)
  deriving Repr

/-- A character at the front of a set, with its escape carried out, and the rest. -/
def setCharacter : List Char → Option (Char × List Char)
  | [] => none
  | '\\' :: rest =>
      match Printing.escape true false rest with
      | ([c], after) =>
          if c = '\\' ∧ rest.head? != some '\\' ∧ after == rest then
            match rest with
            | d :: more => some (d, more)
            | [] => some ('\\', [])
          else some (c, after)
      | _ => some ('\\', rest)
  | c :: rest => some (c, rest)

def characterItems : Nat → List Char → Except (List Char) (List CharacterItem)
  | 0, _ => .ok []
  | _ + 1, [] => .ok []
  | bound + 1, s =>
      let plain : Unit → Except (List Char) (List CharacterItem) := fun _ =>
        match setCharacter s with
        | none => .ok []
        | some (a, '-' :: more) =>
            match setCharacter more with
            | none => (characterItems bound ('-' :: more)).map (.char a :: ·)
            | some (b, rest) =>
                if b < a then
                  .error ("range-endpoints of ".toList ++ inQuotes [a, '-', b] ++
                    " are in reverse collating sequence order".toList)
                else (characterItems bound rest).map (.range a b :: ·)
        | some (a, rest) => (characterItems bound rest).map (.char a :: ·)
      match s with
      | '[' :: ':' :: rest =>
          let name := rest.takeWhile Char.isLower
          match rest.drop name.length with
          | ':' :: ']' :: after =>
              if (characterClass? (String.ofList name)).isSome then
                (characterItems bound after).map (.named (String.ofList name) :: ·)
              else .error ("invalid character class ".toList ++ inQuotes name)
          | _ => plain ()
      | '[' :: '=' :: c :: '=' :: ']' :: after => (characterItems bound after).map (.char c :: ·)
      | '[' :: c :: '*' :: rest =>
          let digits := rest.takeWhile Char.isDigit
          match rest.drop digits.length with
          | ']' :: after =>
              let base := if digits.head? == some '0' then 8 else 10
              (characterItems bound after).map (.repeated c (Numeral.valueOf base digits) :: ·)
          | _ => plain ()
      | _ => plain ()

def allCharacters : List Char := (List.range 256).map Char.ofNat

def charactersOf (items : List CharacterItem) (room : Nat) : List Char :=
  let expand : CharacterItem → List Char
    | .char c => [c]
    | .range a b => (List.range (b.toNat + 1 - a.toNat)).map fun i => Char.ofNat (a.toNat + i)
    | .named name => allCharacters.filter fun c => (characterClass? name).any fun p => p c
    | .repeated c count => List.replicate count c
  let fixed := (items.flatMap expand).length
  items.flatMap fun item =>
    match item with
    | .repeated c 0 => List.replicate (room - fixed) c
    | other => expand other

/-- Deletes, replaces or squeezes characters. -/
def tr : Tool := fun sh arguments =>
  let kinds := OptionKind.flags "cCdst" ++
    [⟨'c', "complement", .never⟩, ⟨'d', "delete", .never⟩, ⟨'s', "squeeze-repeats", .never⟩,
      ⟨'t', "truncate-set1", .never⟩]
  sh.withGiven (Given.ofLeading kinds arguments) 1 fun sh g =>
    let deletes := g.has 'd'
    let squeezes := g.has 's'
    let most := if deletes && !squeezes then 1 else 2
    let least := if deletes == squeezes then 2 else 1
    let items := fun text : List Char => characterItems (text.length + 1) text
    let sayMore := fun (text : List Char) (more : String) =>
      ((sh.say text).complain more.toList).advise 1
    match g.operands with
    | [] => sh.misused "missing operand".toList 1
    | first :: others =>
        if others.length + 1 < least then
          sayMore ("missing operand after ".toList ++ inQuotes first)
            (if squeezes then "Two strings must be given when both deleting and squeezing repeats."
              else "Two strings must be given when translating.")
        else if most < others.length + 1 then
          let extra := (others.drop (most - 1)).head?.getD []
          let text := "extra operand ".toList ++ inQuotes extra
          if most = 1 ∧ others.length = 1 then
            sayMore text "Only one string may be given when deleting without squeezing repeats."
          else sh.misused text 1
        else
          match items first, items (others.head?.getD []) with
          | .error text, _ => sh.sayFailed text
          | _, .error text => sh.sayFailed text
          | .ok firstItems, .ok secondItems =>
              let isOther := g.has 'c' || g.has 'C'
              let given := charactersOf firstItems 0
              let source := if isOther then allCharacters.filter fun c => !given.contains c else given
              let target := charactersOf secondItems source.length
              let squeezed := fun (set : List Char) (text : List Char) =>
                (text.foldl
                  (fun done c => if done.head? == some c && set.contains c then done else c :: done)
                  []).reverse
              let translates := !deletes && !others.isEmpty
              if translates && target.isEmpty && !g.has 't' then
                sh.sayFailed "when not truncating set1, string2 must be non-empty".toList
              else
                let source := if g.has 't' then source.take target.length else source
                let replace := fun c : Char =>
                  match (source.reverse.findIdx? (· == c)).map fun i => source.length - 1 - i with
                  | some i => ((target[i]?).or target.getLast?).getD c
                  | none => c
                let (text, rest) := sh.readAll 0
                let changed :=
                  if deletes then text.filter fun c => !source.contains c
                  else if translates then text.map replace
                  else text
                rest.output
                  (if !squeezes then changed
                    else squeezed (if others.isEmpty then source else target) changed)

def expandTabs : Tool := fun sh arguments =>
  let kinds := OptionKind.values "t" ++ OptionKind.flags "i" ++ [⟨'t', "tabs", .always⟩]
  sh.withGiven (Given.ofArguments kinds arguments) 1 fun sh g =>
    let size := (((g.argument? 't').bind count?).filter (0 < ·)).getD 8
    sh.withSources g.operands fun sh _ text =>
      sh.output ((text.foldl
        (fun (state : Nat × List Char) c =>
          let (column, done) := state
          if c = '\n' then (0, c :: done)
          else if c = '\t' then
            let width := size - column % size
            (column + width, List.replicate width ' ' ++ done)
          else (column + 1, c :: done))
        (0, [])).2.reverse)

end AsmDiagnostics.Machine.Shell
