import AsmDiagnostics.Machine.Numeral
import AsmDiagnostics.Machine.Tool.Basic

/-!
# Copying texts

Programs that print what they read, all of it or some part, as it is or line by line in another
form.
-/

namespace AsmDiagnostics.Machine.Shell

def inWidth (width n : Nat) : List Char :=
  let digits := Text.decimal n
  List.replicate (width - digits.length) ' ' ++ digits

def visible (tabs ends : Bool) (c : Char) : List Char :=
  let n := c.toNat
  let low := fun m : Nat => if m < 32 then ['^', Char.ofNat (m + 64)] else
    if m = 127 then ['^', '?'] else [Char.ofNat m]
  if c = '\n' then [c]
  else if c = '\t' then (if tabs then ['^', 'I'] else [c])
  else if !ends then [c]
  else if 128 ≤ n then 'M' :: '-' :: low (n - 128)
  else low n

def cat : Tool := fun sh arguments =>
  let kinds := OptionKind.flags "AbeEnstTuv" ++
    [⟨'n', "number", .never⟩, ⟨'b', "number-nonblank", .never⟩, ⟨'s', "squeeze-blank", .never⟩,
      ⟨'A', "show-all", .never⟩, ⟨'E', "show-ends", .never⟩, ⟨'T', "show-tabs", .never⟩,
      ⟨'v', "show-nonprinting", .never⟩]
  sh.withGiven (Given.ofArguments kinds arguments) 1 fun sh g =>
    let isPlain := g.options.all fun option => option.1 == 'u'
    if isPlain then sh.withSources g.operands fun sh _ text => sh.output text
    else
      let (text, rest) := sh.sources g.operands
      rest.output (shown g text)
where
  /-- The text with what the options add. -/
  shown (g : Given) (text : List Char) : List Char :=
    let anyOf := fun letters : String => (g.last? letters).isSome
    let isNumbered := fun line : List Char =>
      if g.has 'b' then line != ['\n'] else g.has 'n'
    let step := fun (state : Nat × Bool × List (List Char)) (line : List Char) =>
      let (count, afterBlank, done) := state
      let isBlank := line == ['\n']
      if isBlank && afterBlank && g.has 's' then state
      else
        let count := if isNumbered line then count + 1 else count
        let front := if isNumbered line then inWidth 6 count ++ ['\t'] else []
        let body := (bareLine line).flatMap (visible (anyOf "AtT") (anyOf "Aetv"))
        let finish := if line.getLast? == some '\n' then
          (if anyOf "AeE" then ['$', '\n'] else ['\n']) else []
        (count, isBlank, (front ++ body ++ finish) :: done)
    ((linesOf text).foldl step (0, false, [])).2.2.reverse.flatten

def tac : Tool := fun sh arguments =>
  sh.withGiven (Given.ofArguments [] arguments) 1 fun sh g =>
    (orInput g.operands).foldl
      (fun sh path =>
        match sh.source path with
        | (.ok text, rest) => rest.output (linesOf text).reverse.flatten
        | (.error "Is a directory", rest) =>
            rest.sayFailed (path ++ ": read error: Is a directory".toList)
        | (.error reason, rest) =>
            rest.sayFailed ("failed to open ".toList ++ inQuotes path ++ " for reading: ".toList ++
              reason.toList))
      sh

def rev : Tool := fun sh arguments =>
  sh.withGiven (Given.ofArguments [] arguments) 1 fun sh g =>
    (orInput g.operands).foldl
      (fun sh path =>
        match sh.source path with
        | (.ok text, rest) =>
            rest.output ((linesOf text).flatMap fun line =>
              (bareLine line).reverse ++ line.drop (bareLine line).length)
        | (.error reason, rest) =>
            rest.sayFailed ("cannot open ".toList ++ path ++ ": ".toList ++ reason.toList))
      sh

def unit? (unit : List Char) : Option Nat :=
  let power := fun (base : Nat) (c : Char) =>
    ("KMGTPEZY".toList.findIdx? (· == c.toUpper)).map fun i => Nat.pow base (i + 1)
  match unit with
  | [] => some 1
  | ['b'] => some 512
  | [c] => if c = 'k' ∨ c.isUpper then power 1024 c else none
  | [c, 'B'] => power 1000 c
  | [c, 'i', 'B'] => power 1024 c
  | _ => none

/-- The number of lines or bytes that a text asks for, with an optional unit. -/
def count? (text : List Char) : Option Nat :=
  let digits := text.takeWhile Char.isDigit
  if digits.isEmpty then none
  else (unit? (text.drop digits.length)).map fun unit => Numeral.decimalValue digits * unit

/-- What a program that prints an end of its input is asked for. -/
structure Portion where
  /-- Bytes are counted, not lines. -/
  inBytes : Bool
  count : Nat
  /-- The count tells what is left out, or where the portion begins. -/
  isOther : Bool

def Portion.parts (p : Portion) (text : List Char) : List (List Char) :=
  if p.inBytes then text.map fun c => [c] else linesOf text

def miscounted (sh : Shell) (inBytes : Bool) (text : List Char) : Shell :=
  sh.sayFailed ((if inBytes then "invalid number of bytes: " else "invalid number of lines: ").toList ++
    inQuotes text)

def endKinds : List OptionKind :=
  OptionKind.flags "qvzfF" ++
    [⟨'n', "lines", .always⟩, ⟨'c', "bytes", .always⟩, ⟨'q', "quiet", .never⟩,
      ⟨'q', "silent", .never⟩, ⟨'v', "verbose", .never⟩, ⟨'f', "follow", .sometimes⟩]

/-- The options that letters behind a count of lines stand for, each spelled out, and the first
letter that stands for none. -/
def headLetters (digits : List Char) : List Char → List (List Char) × Option Char
  | [] => ([['-', 'n'] ++ digits], none)
  | letters =>
      let bad? := letters.find? fun c => !"cbkmlqvz".toList.contains c
      let counted := letters.filter "cbkml".toList.contains
      let count :=
        match counted.getLast? with
        | some 'c' => ['-', 'c'] ++ digits
        | some 'b' => ['-', 'c'] ++ digits ++ ['b']
        | some 'k' => ['-', 'c'] ++ digits ++ ['K']
        | some 'm' => ['-', 'c'] ++ digits ++ ['M']
        | _ => ['-', 'n'] ++ digits
      (count :: (letters.filter "qvz".toList.contains).map fun c => ['-', c], bad?)

/-- The options that a count of lines in front of at most one file stands for, with a sign and
letters behind it. -/
def tailLetters? (arguments : List (List Char)) : Option (List (List Char)) := do
  let isAlone :=
    match arguments with
    | [_] => true
    | [_, file] => file.head? != some '-' || file = ['-'] || file = ['-', '-']
    | [_, marker, _] => marker = ['-', '-']
    | _ => false
  let first ← arguments.head?
  let sign ← first.head?
  let text := first.drop 1
  let digits := text.takeWhile Char.isDigit
  let rest := text.drop digits.length
  let (unit, rest) :=
    match rest with
    | 'b' :: more => ("c".toList, more)
    | 'c' :: more => ("c".toList, more)
    | 'l' :: more => ("n".toList, more)
    | _ => ("n".toList, rest)
  let isKnown := isAlone && (sign = '+' || sign = '-' && !text.isEmpty && text != ['c'])
  if isKnown && (rest.isEmpty || rest = ['f']) && (!digits.isEmpty || sign = '+') then
    let count := if digits.isEmpty then ['1', '0'] else digits
    let signed := if sign = '+' then '+' :: count else count
    let unitSign := if text[digits.length]? = some 'b' then ['b'] else []
    some ((('-' :: unit) ++ signed ++ unitSign) ::
      (if rest.isEmpty then [] else [['-', 'f']]))
  else none

def digitKinds : List OptionKind := OptionKind.flags "0123456789"

def digit? (g : Given) : Option Char := (g.options.map Prod.fst).find? Char.isDigit

/-- Prints portions of files, with the name of each in front when there are several. -/
def portions (sh : Shell) (g : Given) (cut : List Char → List Char)
    (use : Shell → List Char → Shell) : Shell :=
  let paths := orInput g.operands
  let isNamed := g.has 'v' || (paths.length > 1 && !g.has 'q')
  (paths.foldl
    (fun (state : Shell × Bool) path =>
      let (sh, isFirst) := state
      let shown := if path = ['-'] then "standard input".toList else path
      let title := fun sh : Shell =>
        if isNamed then
          sh.output ((if isFirst then [] else ['\n']) ++ "==> ".toList ++ shown ++ " <==\n".toList)
        else sh
      match sh.source path with
      | (.ok text, rest) =>
          let rest := if rest.readsFile 0 && path = ['-'] then use rest text else rest
          ((title rest).output (cut text), false)
      | (.error "Is a directory", rest) =>
          ((title rest).sayFailed
            ("error reading ".toList ++ inQuotes path ++ ": Is a directory".toList), false)
      | (.error reason, rest) =>
          (rest.sayFailed ("cannot open ".toList ++ inQuotes path ++ " for reading: ".toList ++
            reason.toList), isFirst))
    (sh, true)).1

/-- Prints the front of files; what is not printed of a file that is the input can still be read. -/
def head : Tool := fun sh arguments =>
  let (spelled, bad?) :=
    match arguments with
    | ('-' :: d :: more) :: rest =>
        if d.isDigit then
          let digits := (d :: more).takeWhile Char.isDigit
          let (options, bad?) := headLetters digits ((d :: more).drop digits.length)
          (options ++ rest, bad?)
        else (arguments, none)
    | _ => (arguments, none)
  sh.withGiven (Given.ofArguments (endKinds ++ digitKinds) spelled) 1 fun sh g =>
    match bad? <|> digit? g with
    | some c => sh.misused ("invalid trailing option -- ".toList ++ [c]) 1
    | none =>
        let inBytes := g.last? "nc" == some 'c'
        let text := (g.argument? (if inBytes then 'c' else 'n')).getD ['1', '0']
        match text, count? (if text.head? == some '-' then text.drop 1 else text) with
        | _, none => sh.miscounted inBytes (if text.head? == some '-' then text.drop 1 else text)
        | text, some count =>
            let portion : Portion := ⟨inBytes, count, text.head? == some '-'⟩
            let cut := fun text : List Char =>
              let parts := portion.parts text
              (parts.take (if portion.isOther then parts.length - count else count)).flatten
            portions sh g cut fun sh text => sh.putBack 0 (text.drop (cut text).length)

/-- Prints the end of files. One that waits for more waits for ever. -/
def tail : Tool := fun sh arguments =>
  let spelled :=
    match tailLetters? arguments with
    | some options => options ++ arguments.drop 1
    | none => arguments
  sh.withGiven (Given.ofArguments (endKinds ++ digitKinds) spelled) 1 fun sh g =>
    match digit? g with
    | some c => sh.sayFailed ("option used in invalid context -- ".toList ++ [c])
    | none =>
        let inBytes := g.last? "nc" == some 'c'
        let text := (g.argument? (if inBytes then 'c' else 'n')).getD ['1', '0']
        let isFrom := text.head? == some '+'
        let bare := if isFrom || text.head? == some '-' then text.drop 1 else text
        match count? bare with
        | none => sh.miscounted inBytes text
        | some count =>
            let portion : Portion := ⟨inBytes, count, isFrom⟩
            let cut := fun text : List Char =>
              let parts := portion.parts text
              (parts.drop (if isFrom then count - 1 else parts.length - count)).flatten
            let done := portions sh g cut fun sh _ => sh
            if g.has 'f' || g.has 'F' then done.exhausted else done

def tee : Tool := fun sh arguments =>
  let kinds := OptionKind.flags "aip" ++ [⟨'a', "append", .never⟩]
  sh.withGiven (Given.ofArguments kinds arguments) 1 fun sh g =>
    let (text, rest) := sh.readAll 0
    g.operands.foldl
      (fun sh path =>
        match sh.writeFile path text (g.has 'a') with
        | .ok done => done
        | .error reason => sh.sayFailed (path ++ ": ".toList ++ reason.toList))
      (rest.output text)

def repeatLine : Tool := fun sh arguments =>
  sh.withGiven (Given.ofArguments [] arguments) 1 fun sh g =>
    let words := if g.operands.isEmpty then [['y']] else g.operands
    let text := [' '].intercalate words ++ ['\n']
    if sh.channel? 1 = some .null then sh.exhausted
    else sh.output (List.replicate (Files.endlessSize / text.length) text).flatten

/-- Prints lines with their numbers; empty ones have a number only when they are asked for. -/
def numberLines : Tool := fun sh arguments =>
  let kinds := OptionKind.values "bdfhilnsvw" ++ OptionKind.flags "p"
  sh.withGiven (Given.ofArguments kinds arguments) 1 fun sh g =>
    let (text, rest) := sh.sources g.operands
    let style := (g.argument? 'b').getD ['t']
    let width := ((g.argument? 'w').bind count?).getD 6
    let start := ((g.argument? 'v').bind count?).getD 1
    let stride := ((g.argument? 'i').bind count?).getD 1
    let sign := (g.argument? 's').getD ['\t']
    let number := fun n : Nat =>
      match g.argument? 'n' with
      | some ['l', 'n'] =>
          let digits := Text.decimal n
          digits ++ List.replicate (width - digits.length) ' '
      | some ['r', 'z'] =>
          let digits := Text.decimal n
          List.replicate (width - digits.length) '0' ++ digits
      | _ => inWidth width n
    let step := fun (state : Nat × List (List Char)) (line : List Char) =>
      let (n, done) := state
      if style = ['a'] ∨ (style = ['t'] ∧ !line.isEmpty) then
        (n + stride, (number n ++ sign ++ line ++ ['\n']) :: done)
      else (n, (List.replicate (width + sign.length) ' ' ++ line ++ ['\n']) :: done)
    rest.output ((bareLinesOf text).foldl step (start, [])).2.reverse.flatten

/-- A line in pieces of some width; with `atBlanks` each ends behind a blank, if it can. -/
def folded (width : Nat) (atBlanks : Bool) : Nat → List Char → List (List Char)
  | 0, line => [line]
  | bound + 1, line =>
      if line.length ≤ width then [line]
      else
        let front := line.take width
        let upToBlank := (front.reverse.dropWhile (· != ' ')).reverse
        let piece := if atBlanks && !upToBlank.isEmpty then upToBlank else front
        piece :: folded width atBlanks bound (line.drop piece.length)

def fold : Tool := fun sh arguments =>
  let kinds := OptionKind.flags "bs" ++ [⟨'w', "width", .always⟩, ⟨'s', "spaces", .never⟩]
  sh.withGiven (Given.ofArguments kinds arguments) 1 fun sh g =>
    let text := (g.argument? 'w').getD ['8', '0']
    match (count? text).filter (0 < ·) with
    | none => sh.sayFailed ("invalid number of columns: ".toList ++ inQuotes text)
    | some width =>
        sh.withSources g.operands fun sh _ text =>
          sh.output ((linesOf text).flatMap fun line =>
            let bare := bareLine line
            ['\n'].intercalate (folded width (g.has 's') (bare.length + 1) bare) ++
              line.drop bare.length)

def copyBlocks : Tool := fun sh operands =>
  let operand? := fun name : String =>
    (operands.reverse.find? fun operand => name.toList.isPrefixOf operand).map (·.drop name.length)
  let number := fun (name : String) (usual : Nat) => ((operand? name).bind count?).getD usual
  let sh := sh.withStatus 0
  let (text?, rest) :=
    match operand? "if=" with
    | some path => sh.source path
    | none =>
            let (text, rest) := sh.readAll 0
            (.ok text, rest)
  match text? with
  | .error reason =>
          rest.sayFailed ("failed to open ".toList ++ inQuotes ((operand? "if=").getD []) ++
            ": ".toList ++ reason.toList)
  | .ok text =>
          let block := number "bs=" (number "ibs=" 512)
          let skipped := text.drop (block * number "skip=" 0)
          let copied :=
            match operand? "count=" with
            | some count => skipped.take (block * (count? count).getD 0)
            | none => skipped
          let records := fun direction : String =>
            Text.decimal (copied.length / block) ++ '+' ::
              Text.decimal (if copied.length % block = 0 then 0 else 1) ++
                (" records " ++ direction).toList
          let size := Text.decimal copied.length ++
            (if copied.length = 1 then " byte" else " bytes").toList
          let printed : Except String Shell :=
            match operand? "of=" with
            | none => .ok (rest.output copied)
            | some path => rest.writeFile path copied false
          match printed with
          | .error reason =>
              rest.sayFailed ("failed to open ".toList ++ inQuotes ((operand? "of=").getD []) ++
                ": ".toList ++ reason.toList)
          | .ok done =>
              match operand? "status=" with
              | some ['n', 'o', 'n', 'e'] => done
              | status =>
                  let told := (done.complain (records "in")).complain (records "out")
                  if status == some "noxfer".toList then told
                  else told.complain (size ++ " copied, 0.0001 s, 1.0 MB/s".toList)

end AsmDiagnostics.Machine.Shell
