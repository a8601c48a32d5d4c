import AsmDiagnostics.Machine.Numeral
import AsmDiagnostics.Number.Amount

/-!
# Formatted output

What `echo` and `printf` print. A backslash introduces a character by a letter or by digits, and a
conversion takes the next argument; the format is used again as long as arguments are left. The
shell's own commands and the programs of the same names differ in small things; `isOwn` stands for
the shell's own.
-/

namespace AsmDiagnostics.Machine.Printing

def isOctalDigit (c : Char) : Bool := '0' ≤ c && c ≤ '7'

def octalDigits (most : Nat) (s : List Char) : List Char := (s.take most).takeWhile isOctalDigit

def letterEscape? (isOwn : Bool) (c : Char) : Option Char :=
  match c with
  | '\\' => some '\\'
  | 'a' => some '\x07'
  | 'b' => some '\x08'
  | 'f' => some '\x0c'
  | 'n' => some '\n'
  | 'r' => some '\r'
  | 't' => some '\t'
  | 'v' => some '\x0b'
  | 'e' => if isOwn then none else some '\x1b'
  | _ => none

def octet (n : Nat) : Char := Char.ofNat (n % 256)

def hexDigits (s : List Char) : List Char :=
  (s.take 2).takeWhile fun c => (Text.hexValue? c).isSome

/-- The characters for what follows a backslash, and the text behind. With `zero` octal digits
follow a zero. A backslash in front of anything else is kept. -/
def escape (isOwn zero : Bool) (s : List Char) : List Char × List Char :=
  match s with
  | [] => (['\\'], [])
  | c :: rest =>
      match letterEscape? isOwn c with
      | some d => ([d], rest)
      | none =>
          let digits := octalDigits 3 (if c = '0' ∧ zero then rest else s)
          let hex := hexDigits rest
          if c = '0' ∧ zero then
            ([octet (Numeral.valueOf 8 digits)], rest.drop digits.length)
          else if !digits.isEmpty then
            ([octet (Numeral.valueOf 8 digits)], s.drop digits.length)
          else if !isOwn && c == 'x' && !hex.isEmpty then
            ([octet (Numeral.valueOf 16 hex)], rest.drop hex.length)
          else (['\\'], s)

/-- A text with its escapes carried out, and whether it goes on to the end: `\c` stops all
output. -/
def unescaped (isOwn : Bool) : Nat → List Char → List Char × Bool
  | 0, s => (s, true)
  | _ + 1, [] => ([], true)
  | _ + 1, '\\' :: 'c' :: _ => ([], false)
  | bound + 1, '\\' :: rest =>
      let (first, after) := escape isOwn true rest
      let (others, goesOn) := unescaped isOwn bound after
      (first ++ others, goesOn)
  | bound + 1, c :: rest =>
      let (others, goesOn) := unescaped isOwn bound rest
      (c :: others, goesOn)

/-- A whole text with its escapes carried out, and whether it goes on to the end. -/
def unescapedAll (isOwn : Bool) (s : List Char) : List Char × Bool :=
  unescaped isOwn (s.length + 1) s

inductive Fault where
  | noNumber (text : List Char)
  /-- Something follows the number. -/
  | partNumber (text : List Char)
  | outOfRange (text : List Char)
  /-- There is no such conversion. -/
  | invalid (text : List Char)
  /-- The format ends in the middle of a conversion. -/
  | unfinished (text : List Char)
  deriving DecidableEq, Repr

def Fault.isFatal : Fault → Bool
  | .invalid _ => true
  | .unfinished _ => true
  | _ => false

def Fault.text (isOwn : Bool) : Fault → List Char
  | .noNumber text =>
      if isOwn then text ++ ": expected numeric value".toList
      else '\'' :: text ++ "': expected a numeric value".toList
  | .partNumber text =>
      if isOwn then text ++ ": not completely converted".toList
      else '\'' :: text ++ "': value not completely converted".toList
  | .outOfRange text =>
      (if isOwn then text else '\'' :: text ++ ['\'']) ++
        ": Numerical result out of range".toList
  | .invalid text =>
      text ++ (if isOwn then ": invalid directive" else ": invalid conversion specification").toList
  | .unfinished text =>
      if isOwn then "missing format character".toList
      else text ++ ": invalid conversion specification".toList

structure Conversion where
  flags : List Char
  width : Nat
  precision? : Option Nat
  kind : Char
  deriving DecidableEq, Repr

def isFlag (c : Char) : Bool := "-+ 0#".toList.contains c

def Conversion.isLeft (c : Conversion) : Bool := c.flags.contains '-'

def padded (isLeft : Bool) (width : Nat) (s : List Char) : List Char :=
  let fill := List.replicate (width - s.length) ' '
  if isLeft then s ++ fill else fill ++ s

def Conversion.placed (c : Conversion) (zeros : Bool) (sign digits : List Char) : List Char :=
  if zeros && c.flags.contains '0' && !c.isLeft then
    sign ++ List.replicate (c.width - sign.length - digits.length) '0' ++ digits
  else padded c.isLeft c.width (sign ++ digits)

def Conversion.signOf (c : Conversion) (isNegative : Bool) : List Char :=
  if isNegative then ['-']
  else if c.flags.contains '+' then ['+']
  else if c.flags.contains ' ' then [' ']
  else []

def digitsOf (base : Nat) (upper : Bool) (n : Nat) : List Char :=
  let digits := Nat.toDigits base n
  if upper then digits.map Char.toUpper else digits

def convertedNumber (c : Conversion) (n : Int) : List Char :=
  let isSigned := c.kind == 'd' || c.kind == 'i'
  let size := if isSigned then n.natAbs else (n % (Numeral.modulus : Int)).toNat
  let base := if c.kind == 'o' then 8 else if c.kind.toLower == 'x' then 16 else 10
  let plain := if size = 0 ∧ c.precision? = some 0 then [] else digitsOf base (c.kind == 'X') size
  let isFull := c.flags.contains '#'
  let least := if isFull && c.kind == 'o' then max (c.precision?.getD 1) (plain.length + 1)
    else c.precision?.getD 1
  let digits := if c.kind == 'o' && size = 0 && isFull then ['0']
    else List.replicate (least - plain.length) '0' ++ plain
  let front :=
    if isSigned then c.signOf (decide (n < 0))
    else if isFull && base == 16 && size != 0 then ['0', c.kind]
    else []
  c.placed c.precision?.isNone front digits

def convertedAmount (c : Conversion) (a : Number.Amount) : List Char :=
  let text := a.magnitudeText c.kind (c.precision?.getD 6) (c.flags.contains '#')
  let isFinite :=
    match a.size with
    | .finite _ _ => true
    | _ => false
  c.placed isFinite (c.signOf a.isNegative) text

def numberOf (argument : List Char) : Int × Option Fault :=
  match argument with
  | [] => (0, none)
  | '\'' :: rest => ((rest.head?.getD '\x00').toNat, none)
  | '"' :: rest => ((rest.head?.getD '\x00').toNat, none)
  | _ =>
      match Numeral.front? true argument with
      | none => (0, some (.noNumber argument))
      | some front =>
          (front.value,
            if !front.rest.isEmpty then some (.partNumber argument)
            else if front.isCut then some (.outOfRange argument)
            else none)

/-- The number without a sign that an argument gives to a conversion: a greater one is cut off at
the end of its own range. -/
def unsignedOf (argument : List Char) : Int × Option Fault :=
  let (n, fault?) := numberOf argument
  match Numeral.magnitude? true (argument.dropWhile Numeral.isBlank) with
  | some (m, rest) =>
      if m < Numeral.modulus then
        (m, if rest.isEmpty then none else some (.partNumber argument))
      else ((Numeral.modulus : Int) - 1, fault?)
  | none => (n, fault?)

def amountOf (isOwn : Bool) (argument : List Char) : Number.Amount × Option Fault :=
  match argument with
  | [] => (.zero, none)
  | '\'' :: rest => (⟨false, .finite (rest.head?.getD '\x00').toNat 1⟩, none)
  | '"' :: rest => (⟨false, .finite (rest.head?.getD '\x00').toNat 1⟩, none)
  | _ =>
      match Number.Amount.front? argument with
      | none => (.zero, some (.noNumber argument))
      | some (given, rest) =>
          let amount := if isOwn then given.toBinary64 else given
          (amount,
            if !rest.isEmpty then some (.partNumber argument)
            else if given.size != .infinite && amount.size == .infinite then
              some (.outOfRange argument)
            else none)

/-- The output of a conversion, whether there is more to come, and what is wrong with its
argument. -/
def converted (isOwn : Bool) (c : Conversion) (argument? : Option (List Char)) :
    List Char × Bool × Option Fault :=
  let argument := argument?.getD []
  let cut := fun text : List Char => padded c.isLeft c.width (text.take (c.precision?.getD text.length))
  match c.kind with
  | 's' => (cut argument, true, none)
  | 'b' =>
      let (text, goesOn) := unescapedAll isOwn argument
      (cut text, goesOn, none)
  | 'c' =>
      let shown := if isOwn || !argument.isEmpty then [argument.head?.getD '\x00'] else []
      (padded c.isLeft c.width shown, true, none)
  | 'd' =>
      let (n, fault?) := numberOf argument
      (convertedNumber c n, true, fault?)
  | 'i' =>
      let (n, fault?) := numberOf argument
      (convertedNumber c n, true, fault?)
  | kind =>
      if "ouxX".toList.contains kind then
        let (n, fault?) := unsignedOf argument
        (convertedNumber c n, true, fault?)
      else
        let (a, fault?) := amountOf isOwn argument
        (convertedAmount c a, true, fault?)

structure Printed where
  text : List Char
  /-- Output stops here. -/
  stopped : Bool
  /-- The arguments that are left. -/
  arguments : List (List Char)
  faults : List Fault
  deriving Repr

/-- A width or a precision at the front of a format: digits, or a star for an argument. -/
def measure (s : List Char) (arguments : List (List Char)) :
    Option Int × List Fault × List Char × List (List Char) :=
  match s with
  | '*' :: rest =>
      let (n, fault?) := numberOf (arguments.head?.getD [])
      (some n, fault?.toList, rest, arguments.drop 1)
  | _ =>
      let digits := s.takeWhile Char.isDigit
      (if digits.isEmpty then none else some (Numeral.decimalValue digits), [],
        s.drop digits.length, arguments)

def kinds : List Char := "bcsdiouxXeEfFgG".toList

/-- The conversion behind a percent sign, with what is wrong, the format behind it and the arguments
that are left. -/
def conversion (isOwn : Bool) (s : List Char) (arguments : List (List Char)) :
    Except Fault (Conversion × List Fault × List Char × List (List Char)) :=
  let flags := s.takeWhile isFlag
  let (width?, faults, rest, arguments) := measure (s.drop flags.length) arguments
  let (precision?, more, rest, arguments) :=
    match rest with
    | '.' :: after =>
        let (given?, more, rest, arguments) := measure after arguments
        (some (given?.getD 0), more, rest, arguments)
    | _ => (none, [], rest, arguments)
  let rest := if isOwn then rest else rest.dropWhile fun c => "hlLjtz".toList.contains c
  let spelled := fun count : Nat => '%' :: s.take (s.length - rest.length + count)
  match rest with
  | [] => .error (.unfinished (spelled 0))
  | kind :: after =>
      if kinds.contains kind then
        let width := width?.getD 0
        .ok (⟨if width < 0 then '-' :: flags else flags, width.natAbs,
            if precision?.any (· < 0) then none else precision?.map Int.toNat, kind⟩,
          faults ++ more, after, arguments)
      else .error (.invalid (spelled 1))

def once (isOwn : Bool) : Nat → List Char → List (List Char) → Printed
  | 0, _, arguments => ⟨[], true, arguments, []⟩
  | _ + 1, [], arguments => ⟨[], false, arguments, []⟩
  | bound + 1, '\\' :: rest, arguments =>
      if !isOwn && rest.head? == some 'c' then ⟨[], true, arguments, []⟩
      else if !isOwn && rest.head? == some '"' then
        let others := once isOwn bound (rest.drop 1) arguments
        { others with text := '"' :: others.text }
      else
        let (text, after) := escape isOwn false rest
        let others := once isOwn bound after arguments
        { others with text := text ++ others.text }
  | bound + 1, '%' :: '%' :: rest, arguments =>
      let others := once isOwn bound rest arguments
      { others with text := '%' :: others.text }
  | bound + 1, '%' :: rest, arguments =>
      match conversion isOwn rest arguments with
      | .error fault => ⟨[], true, arguments, [fault]⟩
      | .ok (c, faults, after, arguments) =>
          let (text, goesOn, fault?) := converted isOwn c arguments.head?
          let faults := faults ++ fault?.toList
          if goesOn then
            let others := once isOwn bound after (arguments.drop 1)
            { others with text := text ++ others.text, faults := faults ++ others.faults }
          else ⟨text, true, arguments.drop 1, faults⟩
  | bound + 1, c :: rest, arguments =>
      let others := once isOwn bound rest arguments
      { others with text := c :: others.text }

def repeated (isOwn : Bool) (format : List Char) : Nat → List (List Char) → Printed
  | 0, arguments => ⟨[], true, arguments, []⟩
  | bound + 1, arguments =>
      let printed := once isOwn (format.length + 1) format arguments
      if printed.stopped || printed.arguments.isEmpty ||
          printed.arguments.length == arguments.length then printed
      else
        let others := repeated isOwn format bound printed.arguments
        { others with
          text := printed.text ++ others.text
          faults := printed.faults ++ others.faults }

/-- The output of `printf`, what is wrong with its arguments, and the arguments that it has no use
for. -/
def formatted (isOwn : Bool) (format : List Char) (arguments : List (List Char)) : Printed :=
  repeated isOwn format (arguments.length + 1) arguments

def joined (arguments : List (List Char)) : List Char := [' '].intercalate arguments

/-- The output of `echo`. The shell's own carries escapes out, the program does so only when it is
told to. -/
def echoed (isOwn : Bool) (arguments : List (List Char)) : List Char :=
  let isOption := fun argument : List Char =>
    match argument with
    | '-' :: c :: rest => (c :: rest).all fun d => d == 'n' || d == 'e' || d == 'E'
    | _ => false
  let options :=
    if isOwn then (arguments.take 1).filter (· == ['-', 'n']) else arguments.takeWhile isOption
  let text := joined (arguments.drop options.length)
  let given := options.flatten
  let escapes := isOwn || (given.filter fun c => c == 'e' || c == 'E').getLast? == some 'e'
  let (text, goesOn) := if escapes then unescapedAll isOwn text else (text, true)
  if given.contains 'n' || !goesOn then text else text ++ ['\n']

end AsmDiagnostics.Machine.Printing
