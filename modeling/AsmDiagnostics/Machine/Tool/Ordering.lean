import AsmDiagnostics.Machine.Tool.Counting

/-!
# Order

Programs that put lines in order, and compare lines that stand next to each other or in two files.
-/

namespace AsmDiagnostics.Machine.Shell

structure SortKey where
  firstField : Nat
  firstChar : Nat
  lastField? : Option Nat
  /-- Zero stands for the end of the field. -/
  lastChar : Nat
  /-- The letters that say how the part is compared. -/
  flags : List Char
  skipsBlanks : Bool
  skipsLastBlanks : Bool
  deriving Repr

def sortFlags : List Char := "bdfghiMnRrV".toList

/-- A number at the front of a text, and the text behind it; `what` tells what is wrong without
one. -/
def sortCount (what : String) (text : List Char) : Except (List Char) (Nat × List Char) :=
  let digits := text.takeWhile Char.isDigit
  if digits.isEmpty then
    .error (what.toList ++ ": invalid count at start of ".toList ++ inQuotes text)
  else .ok (Numeral.decimalValue digits, text.drop digits.length)

def sortKey (text : List Char) : Except (List Char) SortKey := do
  let refused := fun (what : String) =>
    throw (what.toList ++ ": invalid field specification ".toList ++ inQuotes text)
  let place := fun rest : List Char =>
    if rest.head? == some '.' then
      (sortCount "invalid number after '.'" (rest.drop 1)).map fun (n, rest) => (some n, rest)
    else .ok (none, rest)
  let (firstField, rest) ← sortCount "invalid number at field start" text
  if firstField = 0 then refused "field number is zero"
  let (firstChar?, rest) ← place rest
  if firstChar? = some 0 then refused "character offset is zero"
  let firstFlags := rest.takeWhile sortFlags.contains
  let rest := rest.drop firstFlags.length
  let key : SortKey :=
    ⟨firstField, firstChar?.getD 1, none, 0, firstFlags.filter (· != 'b'),
      firstFlags.contains 'b', false⟩
  if rest.head? == some ',' then
    let (lastField, rest) ← sortCount "invalid number after ','" (rest.drop 1)
    if lastField = 0 then refused "field number is zero"
    let (lastChar?, rest) ← place rest
    let lastFlags := rest.takeWhile sortFlags.contains
    if !(rest.drop lastFlags.length).isEmpty then refused "stray character in field spec"
    return { key with
      lastField? := some lastField
      lastChar := lastChar?.getD 0
      flags := (firstFlags ++ lastFlags).filter (· != 'b')
      skipsLastBlanks := lastFlags.contains 'b' }
  else
    if !rest.isEmpty then refused "stray character in field spec"
    return key

def isSortBlank (c : Char) : Bool := c == ' ' || c == '\t'

def behindFields (separator? : Option Char) : Nat → List Char → List Char
  | 0, s => s
  | count + 1, s =>
      match separator? with
      | some c => behindFields separator? count ((s.dropWhile (· != c)).drop 1)
      | none =>
          behindFields separator? count ((s.dropWhile isSortBlank).dropWhile fun c => !isSortBlank c)

def SortKey.part (key : SortKey) (separator? : Option Char) (line : List Char) : List Char :=
  let start := behindFields separator? (key.firstField - 1) line
  let start := if key.skipsBlanks then start.dropWhile isSortBlank else start
  let front := start.drop (key.firstChar - 1)
  match key.lastField? with
  | none => front
  | some field =>
      let rest :=
        if key.lastChar = 0 then
          let behind := behindFields separator? field line
          if separator?.isSome && behind.length < line.length &&
              (line.count (separator?.getD ' ')) ≥ field then
            separator?.getD ' ' :: behind
          else behind
        else
          let last := behindFields separator? (field - 1) line
          let last := if key.skipsLastBlanks then last.dropWhile isSortBlank else last
          last.drop key.lastChar
      front.take (front.length - rest.length)

/-- A decimal number at the front of a text as a sign and a fraction over a power of ten. -/
def sortNumber (text : List Char) : Int × Nat :=
  let s := text.dropWhile isSortBlank
  let isNegative := s.head? == some '-'
  let s := if isNegative then s.drop 1 else s
  let whole := s.takeWhile Char.isDigit
  let rest := s.drop whole.length
  let places := if rest.head? == some '.' then (rest.drop 1).takeWhile Char.isDigit else []
  let size : Int := Numeral.decimalValue (whole ++ places)
  (if isNegative then -size else size, places.length)

def compareNumbers (a b : Int × Nat) : Ordering :=
  compare (a.1 * (Nat.pow 10 b.2 : Nat)) (b.1 * (Nat.pow 10 a.2 : Nat))

def unitRank (text : List Char) : Nat :=
  let s := (text.dropWhile isSortBlank).dropWhile fun c => c.isDigit || c == '.' || c == '-'
  match s.head? with
  | some c => ("KMGTPEZY".toList.findIdx? (· == c.toUpper)).elim 0 (· + 1)
  | none => 0

def monthOf (text : List Char) : Nat :=
  let name := ((text.dropWhile isSortBlank).take 3).map Char.toUpper
  (["JAN", "FEB", "MAR", "APR", "MAY", "JUN", "JUL", "AUG", "SEP", "OCT", "NOV", "DEC"].findIdx?
    fun month => month.toList == name).elim 0 (· + 1)

def compareTexts (a b : List Char) : Ordering :=
  if a = b then .eq else if Text.precedes a b then .lt else .gt

def compareVersions : Nat → List Char → List Char → Ordering
  | 0, a, b => compareTexts a b
  | bound + 1, a, b =>
      let word := fun s : List Char => s.takeWhile fun c => !c.isDigit
      let rank := fun s : List Char => s.map fun c =>
        if c = '~' then '\x00' else if c.isAlpha then c else Char.ofNat (c.toNat + 256)
      match compareTexts (rank (word a)) (rank (word b)) with
      | .eq =>
          let m := a.drop (word a).length
          let n := b.drop (word b).length
          if m.isEmpty || n.isEmpty then compare m.length n.length
          else
            let digits := fun s : List Char => s.takeWhile Char.isDigit
            match compare (Numeral.decimalValue (digits m)) (Numeral.decimalValue (digits n)) with
            | .eq => compareVersions bound (m.drop (digits m).length) (n.drop (digits n).length)
            | other => other
      | other => other

def amountRank (text : List Char) : Nat × Int × Nat :=
  match Number.Amount.front? text with
  | none => (0, 0, 1)
  | some (⟨_, .undefined⟩, _) => (1, 0, 1)
  | some (⟨true, .infinite⟩, _) => (2, 0, 1)
  | some (⟨isNegative, .finite n d⟩, _) => (3, if isNegative then -(n : Int) else n, d)
  | some (⟨false, .infinite⟩, _) => (4, 0, 1)

def compareParts (flags : List Char) (a b : List Char) : Ordering :=
  let outcome : Ordering :=
    if flags.contains 'n' then compareNumbers (sortNumber a) (sortNumber b)
    else if flags.contains 'h' then
      let sign := fun s : List Char => (sortNumber s).1.sign
      let rank := fun s : List Char => sign s * (unitRank s : Int)
      match compare (sign a) (sign b) with
      | .eq =>
          match compare (rank a) (rank b) with
          | .eq => compareNumbers (sortNumber a) (sortNumber b)
          | other => other
      | other => other
    else if flags.contains 'g' then
      let (first, m, c) := amountRank a
      let (second, n, d) := amountRank b
      match compare first second with
      | .eq => compare (m * d) (n * c)
      | other => other
    else if flags.contains 'M' then compare (monthOf a) (monthOf b)
    else if flags.contains 'V' then compareVersions (a.length + b.length + 1) a b
    else
      let kept := fun c : Char =>
        (!flags.contains 'd' || isSortBlank c || c.isAlphanum) &&
          (!flags.contains 'i' || (32 ≤ c.toNat && c.toNat ≤ 126))
      let shown := fun s : List Char =>
        (s.filter kept).map fun c => if flags.contains 'f' then c.toUpper else c
      compareTexts (shown a) (shown b)
  if flags.contains 'r' then outcome.swap else outcome

def compareKeys (separator? : Option Char) (a b : List Char) : List SortKey → Ordering
  | [] => .eq
  | key :: rest =>
      match compareParts key.flags (key.part separator? a) (key.part separator? b) with
      | .eq => compareKeys separator? a b rest
      | other => other

/-- Prints lines in order; lines that are equal in all that counts stay in order of their bytes. -/
def sort : Tool := fun sh arguments =>
  let kinds := OptionKind.flags "bdfghiMnRrVcCmsuz" ++ OptionKind.values "kotTS" ++
    [⟨'r', "reverse", .never⟩, ⟨'n', "numeric-sort", .never⟩, ⟨'u', "unique", .never⟩,
      ⟨'k', "key", .always⟩, ⟨'t', "field-separator", .always⟩, ⟨'f', "ignore-case", .never⟩,
      ⟨'o', "output", .always⟩, ⟨'s', "stable", .never⟩, ⟨'h', "human-numeric-sort", .never⟩,
      ⟨'V', "version-sort", .never⟩, ⟨'c', "check", .sometimes⟩,
      ⟨'b', "ignore-leading-blanks", .never⟩]
  sh.withGiven (Given.ofArguments kinds arguments) 2 fun sh g =>
    let texts := g.arguments 'k'
    let separator := (g.argument? 't').getD []
    let separator := if separator = ['\\', '0'] then ['\x00'] else separator
    if g.has 't' && separator.length ≠ 1 then
      (sh.say (if separator.isEmpty then "empty tab".toList
        else "multi-character tab ".toList ++ inQuotes separator)).withStatus 2
    else
      match texts.mapM sortKey with
      | .error text => (sh.say text).withStatus 2
      | .ok own =>
          ordered sh g separator.head? own
where
  /-- Puts the lines of files in order by keys of one's own. -/
  ordered (sh : Shell) (g : Given) (separator? : Option Char) (own : List SortKey) : Shell :=
    let common := (g.options.map Prod.fst).filter sortFlags.contains
    let whole : SortKey := ⟨1, 1, none, 0, common, common.contains 'b', false⟩
    let keys := (if own.isEmpty && !common.isEmpty then [whole] else own).map fun key =>
      if key.flags.isEmpty && !key.skipsBlanks && !key.skipsLastBlanks then
        { key with
          flags := common.filter (· != 'b')
          skipsBlanks := common.contains 'b'
          skipsLastBlanks := common.contains 'b' }
      else key
    let byKeys := fun a b : List Char => compareKeys separator? a b keys
    let isLax := g.has 's' || g.has 'u'
    let order : List Char → List Char → Ordering := fun a b =>
      match byKeys a b with
      | .eq =>
          if isLax && !keys.isEmpty then .eq
          else if common.contains 'r' then (compareTexts a b).swap
          else compareTexts a b
      | other => other
    let (text, rest) := (orInput g.operands).foldl
      (fun (state : List (List Char) × Shell) path =>
        match state.2.source path with
        | (.ok text, rest) => (state.1 ++ bareLinesOf text, rest)
        | (.error "Is a directory", rest) =>
            (state.1, (rest.say ("read failed: ".toList ++ path ++
              ": Is a directory".toList)).withStatus 2)
        | (.error reason, rest) =>
            (state.1, (rest.say ("cannot read: ".toList ++ path ++ ": ".toList ++
              reason.toList)).withStatus 2))
      ([], sh)
    let lines := text
    if rest.status = 2 then rest
    else if g.has 'c' || g.has 'C' then
      let isWrong := fun a b : List Char =>
        order a b == .gt || (g.has 'u' && byKeys a b == .eq && (!keys.isEmpty || a == b))
      match (lines.zip (lines.drop 1)).findIdx? fun (a, b) => isWrong a b with
      | none => rest
      | some i =>
          if g.has 'C' then rest.withStatus 1
          else
            rest.sayFailed ((g.operands.head?.getD ['-']) ++ ':' :: Text.decimal (i + 2) ++
              ": disorder: ".toList ++ lines[i + 1]?.getD [])
    else
      let sorted := lines.mergeSort fun a b => order a b != .gt
      let shown := if g.has 'u' then
          (sorted.foldl
            (fun done line =>
              match done with
              | last :: _ => if order last line == .eq then done else line :: done
              | [] => [line])
            []).reverse
        else sorted
      let printed := shown.flatMap (· ++ ['\n'])
      match g.argument? 'o' with
      | none => rest.output printed
      | some path =>
          match rest.writeFile path printed false with
          | .ok done => done
          | .error reason =>
              (rest.say ("open failed: ".toList ++ path ++ ": ".toList ++
                reason.toList)).withStatus 2

def groupsOf (alike : List Char → List Char → Bool) (lines : List (List Char)) :
    List (List Char × Nat × List (List Char)) :=
  (lines.foldl
    (fun groups line =>
      match groups with
      | (first, count, all) :: others =>
          if alike first line then (first, count + 1, line :: all) :: others
          else (line, 1, [line]) :: groups
      | [] => [(line, 1, [line])])
    []).reverse

/-- Prints each of the lines that are alike and stand next to each other once. -/
def uniq : Tool := fun sh arguments =>
  let kinds := OptionKind.flags "cdDuiz" ++ OptionKind.values "fsw" ++
    [⟨'c', "count", .never⟩, ⟨'d', "repeated", .never⟩, ⟨'u', "unique", .never⟩,
      ⟨'i', "ignore-case", .never⟩, ⟨'f', "skip-fields", .always⟩, ⟨'s', "skip-chars", .always⟩,
      ⟨'w', "check-chars", .always⟩, ⟨'D', "all-repeated", .sometimes⟩]
  sh.withGiven (Given.ofArguments kinds arguments) 1 fun sh g =>
    let number := fun c => (g.argument? c).bind count?
    let part := fun line : List Char =>
      let behind := (behindFields none ((number 'f').getD 0) line).drop ((number 's').getD 0)
      let cut := behind.take ((number 'w').getD behind.length)
      if g.has 'i' then cut.map Char.toUpper else cut
    match g.operands with
    | _ :: _ :: extra :: _ => sh.misused ("extra operand ".toList ++ inQuotes extra) 1
    | operands =>
        match sh.sourceOrSay (operands.head?.getD ['-']) with
        | (none, rest) => rest
        | (some text, rest) =>
            let groups := groupsOf (fun a b => part a == part b) (bareLinesOf text)
            let shown := groups.flatMap fun (first, count, all) =>
              let isShown := (!g.has 'd' || count > 1) && (!g.has 'u' || count = 1)
              if g.has 'D' then
                if count > 1 then all.reverse.flatMap (· ++ ['\n']) else []
              else if !isShown then []
              else if g.has 'c' then inWidth 7 count ++ ' ' :: first ++ ['\n']
              else first ++ ['\n']
            match operands[1]? with
            | none => rest.output shown
            | some path =>
                match rest.writeFile path shown false with
                | .ok done => done
                | .error reason => rest.sayFailed (path ++ ": ".toList ++ reason.toList)

/-- A line of two ordered lists: the column it belongs to, only in the first, only in the second, or
in both, and how far the lists have been read. -/
structure Merged where
  column : Nat
  line : List Char
  firstRead : Nat
  secondRead : Nat

def merged : Nat → Nat → Nat → List (List Char) → List (List Char) → List Merged
  | 0, _, _, _, _ => []
  | _ + 1, _, _, [], [] => []
  | bound + 1, i, j, [], y :: b => ⟨1, y, i, j + 1⟩ :: merged bound i (j + 1) [] b
  | bound + 1, i, j, x :: a, [] => ⟨0, x, i + 1, j⟩ :: merged bound (i + 1) j a []
  | bound + 1, i, j, x :: a, y :: b =>
      match compareTexts x y with
      | .lt => ⟨0, x, i + 1, j⟩ :: merged bound (i + 1) j a (y :: b)
      | .gt => ⟨1, y, i, j + 1⟩ :: merged bound i (j + 1) (x :: a) b
      | .eq => ⟨2, x, i + 1, j + 1⟩ :: merged bound (i + 1) (j + 1) a b

def showsDisorder (lines : Array (List Char)) (read : Nat) : Bool :=
  let later := if read < lines.size then read else read - 1
  match lines[later]? with
  | some line =>
      0 < later && (lines[later - 1]?.any fun before => compareTexts before line == .gt)
  | none => false

/-- Prints the lines of two ordered files in three columns. -/
def comm : Tool := fun sh arguments =>
  let kinds := OptionKind.flags "123z" ++
    [⟨'C', "check-order", .never⟩, ⟨'N', "nocheck-order", .never⟩,
      ⟨'o', "output-delimiter", .always⟩, ⟨'t', "total", .never⟩, ⟨'z', "zero-terminated", .never⟩]
  sh.withGiven (Given.ofArguments kinds arguments) 1 fun sh g =>
    match g.operands with
    | [] => sh.misused "missing operand".toList 1
    | [only] => sh.misused ("missing operand after ".toList ++ inQuotes only) 1
    | first :: second :: [] =>
        match sh.sourceOrSay first with
        | (none, rest) => rest
        | (some a, sh) =>
            match sh.sourceOrSay second with
            | (none, rest) => rest
            | (some b, rest) => columns rest g (bareLinesOf a) (bareLinesOf b)
    | _ :: _ :: extra :: _ => sh.misused ("extra operand ".toList ++ inQuotes extra) 1
where
  /-- Prints the lines of two lists, and tells of one that is not in order where that matters. -/
  columns (sh : Shell) (g : Given) (a b : List (List Char)) : Shell :=
    let all := merged (a.length + b.length + 1) 0 0 a b
    let hidden := [g.has '1', g.has '2', g.has '3']
    let delimiter := (g.argument? 'o').getD ['\t']
    let shown := fun entry : Merged =>
      if hidden[entry.column]?.getD false then []
      else
        let before := (hidden.take entry.column).filter (! ·)
        (List.replicate before.length delimiter).flatten ++ entry.line ++ ['\n']
    let first := a.toArray
    let second := b.toArray
    -- What is told while the lists are read: the number of a line of output, and that of a list.
    let found := (all.zipIdx.foldl
      (fun (state : Bool × List (Nat × String)) (entry, i) =>
        let isChecked := !g.has 'N' && (g.has 'C' || state.1 || entry.column ≠ 2)
        let inFirst := entry.column ≠ 1 && showsDisorder first entry.firstRead
        let inSecond := entry.column ≠ 0 && showsDisorder second entry.secondRead
        let new := (if inFirst then [(i, "1")] else []) ++ (if inSecond then [(i, "2")] else [])
        (state.1 || entry.column ≠ 2,
          state.2 ++ new.filter fun (_, list) =>
            isChecked && !state.2.any fun entry => entry.2 == list))
      (false, [])).2
    let told := fun (sh : Shell) (list : String) =>
      sh.say ("file ".toList ++ list.toList ++ " is not in sorted order".toList)
    match found, g.has 'C' with
    | [], _ => sh.output (all.flatMap shown)
    | (i, list) :: _, true =>
        (told (sh.output ((all.take (i + 1)).flatMap shown)) list).withStatus 1
    | _, false =>
        let warned := found.foldl (fun sh (_, list) => told sh list) sh
        ((warned.output (all.flatMap shown)).say "input is not in sorted order".toList).withStatus 1

end AsmDiagnostics.Machine.Shell
