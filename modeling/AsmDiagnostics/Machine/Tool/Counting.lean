import AsmDiagnostics.Machine.Printing
import AsmDiagnostics.Machine.Tool.Copying

/-!
# Counting

Programs that count what they read, print numbers in order, or wait for some time.
-/

namespace AsmDiagnostics.Machine.Shell

def wordCount (text : List Char) : Nat :=
  (text.foldl
    (fun (state : Nat × Bool) c =>
      if Numeral.isBlank c then (state.1, false)
      else if state.2 then state
      else (state.1 + 1, true))
    (0, false)).1

/-- The width of the widest line; a tab goes on to the next multiple of eight. -/
def widestLine (text : List Char) : Nat :=
  (bareLinesOf text).foldl
    (fun widest line =>
      max widest (line.foldl
        (fun column c => if c = '\t' then (column / 8 + 1) * 8 else column + 1) 0))
    0

def countsOf (g : Given) (text : List Char) : List Nat :=
  let usual := g.options.all fun option => option.1 == 'T'
  let asked := fun c => g.has c || (usual && c != 'm' && c != 'L')
  (if asked 'l' then [text.count '\n'] else []) ++
    (if asked 'w' then [wordCount text] else []) ++
      (if asked 'm' then [text.length] else []) ++
        (if asked 'c' then [text.length] else []) ++
          (if asked 'L' then [widestLine text] else [])

/-- Counts lines, words and bytes. Several counts are as wide as the size of all files, and seven
places wide when something else is among them. -/
def wc : Tool := fun sh arguments =>
  let kinds := [⟨'l', "lines", .never⟩, ⟨'w', "words", .never⟩, ⟨'m', "chars", .never⟩,
    ⟨'c', "bytes", .never⟩, ⟨'L', "max-line-length", .never⟩]
  sh.withGiven (Given.ofArguments kinds arguments) 1 fun sh g =>
    let paths := orInput g.operands
    let sizes := paths.map fun path =>
      if path = ['-'] then
        if sh.readsFile 0 then some (sh.readAll 0).1.length else none
      else
        match sh.standing? path with
        | some (.file content _) => some content.length
        | some _ => none
        | none => some 0
    let isSingle := paths.length = 1 && (countsOf g []).length = 1
    let firstIsMissing := paths.head?.any fun path => path != ['-'] && (sh.standing? path).isNone
    let digits := (Text.decimal ((sizes.filterMap id).foldl (· + ·) 0)).length
    let width :=
      if isSingle || firstIsMissing then 1
      else if sizes.any Option.isNone then max 7 digits
      else digits
    let shown := fun (counts : List Nat) (name : List Char) =>
      [' '].intercalate (counts.map (inWidth width)) ++
        (if name.isEmpty then [] else ' ' :: name) ++ ['\n']
    let counted := paths.foldl
      (fun (state : Shell × List (List Nat)) path =>
        match state.1.source path with
        | (.ok text, rest) =>
            let counts := countsOf g text
            (rest.output (shown counts (if g.operands.isEmpty then [] else path)),
              counts :: state.2)
        | (.error reason, rest) =>
            let told := rest.sayFailed (path ++ ": ".toList ++ reason.toList)
            if reason = "Is a directory" then
              (told.output (shown (countsOf g []) path), countsOf g [] :: state.2)
            else (told, state.2))
      (sh, [])
    if paths.length ≤ 1 then counted.1
    else
      let zero := countsOf g []
      let total := counted.2.foldl (fun sums counts => List.zipWith (· + ·) sums counts) zero
      counted.1.output (shown total "total".toList)

def placesOf (text : List Char) : Nat := ((text.dropWhile (· != '.')).drop 1).length

def fractionOf? (text : List Char) : Option (Int × Nat) :=
  match Number.Amount.front? text with
  | some (⟨isNegative, .finite n d⟩, []) => some (if isNegative then -(n : Int) else n, d)
  | _ => none

def progression (first step last : Int) : List Int :=
  let count := if step = 0 then 0 else (last - first) / step + 1
  (List.range count.toNat).map fun i : Nat => first + step * (i : Int)

def seq : Tool := fun sh arguments =>
  let kinds := [⟨'s', "separator", .always⟩, ⟨'w', "equal-width", .never⟩, ⟨'f', "format", .always⟩]
  let options := arguments.takeWhile fun argument =>
    match argument with
    | '-' :: c :: _ => !c.isDigit && c != '.'
    | _ => false
  let taken := if options.getLast? == some ['-', 's'] || options.getLast? == some ['-', 'f'] then 1
    else 0
  let front := arguments.take (options.length + taken)
  sh.withGiven ((Given.ofArguments kinds front).map fun g =>
    { g with operands := g.operands ++ arguments.drop front.length }) 1 fun sh g =>
    let texts := g.operands
    let terms := match texts with
      | [last] => some (['1'], ['1'], last)
      | [first, last] => some (first, ['1'], last)
      | [first, step, last] => some (first, step, last)
      | _ => none
    match terms, texts.find? fun text => (fractionOf? text).isNone with
    | none, _ =>
        match texts with
        | [] => sh.misused "missing operand".toList 1
        | _ => sh.misused ("extra operand ".toList ++ inQuotes (texts[3]?.getD [])) 1
    | _, some text => sh.misused ("invalid floating point argument: ".toList ++ inQuotes text) 1
    | some (first, step, last), none =>
        let places := max (placesOf first) (placesOf step)
        let unit := max places (placesOf last)
        let scaled := fun text : List Char =>
          match fractionOf? text with
          | some (n, d) => n * (Nat.pow 10 unit : Nat) / (d : Int)
          | none => 0
        if scaled step = 0 then
          sh.misused ("invalid Zero increment value: ".toList ++ inQuotes step) 1
        else
          let all := progression (scaled first) (scaled step) (scaled last)
          let shift := Nat.pow 10 (unit - places)
          let plain := fun n : Int =>
            (if n < 0 then ['-'] else []) ++
              Number.Amount.pointed places false (Text.decimal (n.natAbs / shift))
          let widest := ((all.head?.toList ++ all.getLast?.toList).map fun n =>
            (plain n).length).foldl max 0
          let text := fun n : Int =>
            match g.argument? 'f' with
            | some format =>
                (Printing.formatted false format [plain n]).text
            | none =>
                let digits := plain n
                if g.has 'w' then
                  let sign := if n < 0 then ['-'] else []
                  sign ++ List.replicate (widest - digits.length) '0' ++ digits.drop sign.length
                else digits
          let separator := (g.argument? 's').getD ['\n']
          if all.isEmpty then sh
          else sh.output (separator.intercalate (all.map text) ++ ['\n'])

/-- The microseconds that a time stands for: a decimal number, and a unit of seconds, minutes, hours
or days. -/
def duration? (text : List Char) : Option Nat :=
  match Number.Amount.front? text with
  | some (⟨false, .finite n d⟩, unit) =>
      let seconds? : Option Nat :=
        match unit with
        | [] => some 1
        | ['s'] => some 1
        | ['m'] => some 60
        | ['h'] => some 3600
        | ['d'] => some 86400
        | _ => none
      seconds?.map fun seconds => n * seconds * 1000000 / d
  | some (⟨false, .infinite⟩, []) => some (1000000000000 * 1000000)
  | _ => none

def sleep : Tool := fun sh arguments =>
  sh.withGiven (Given.ofArguments [] arguments) 1 fun sh g =>
    if g.operands.isEmpty then sh.misused "missing operand".toList 1
    else
      match g.operands.filter fun time => (duration? time).isNone with
      | [] => sh.spend ((g.operands.filterMap duration?).foldl (· + ·) 0)
      | unknown =>
          (unknown.foldl
            (fun sh time => sh.say ("invalid time interval ".toList ++ inQuotes time))
            sh).advise 1

end AsmDiagnostics.Machine.Shell
