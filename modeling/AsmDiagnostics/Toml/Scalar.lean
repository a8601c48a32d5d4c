import AsmDiagnostics.Json.Basic
import AsmDiagnostics.Text.Digit

/-!
# Numbers, truth values and times in TOML

A value that is not quoted is a run of letters, digits and a few marks, and must be a truth value, a
number or a time as a whole. Times and the numbers that are not finite have no counterpart among
JSON values; null stands for them.
-/

namespace AsmDiagnostics.Toml

def inScalar (c : Char) : Bool := c.isAlphanum || "+-_.:".toList.contains c

def isDigitOf (base : Nat) (c : Char) : Bool := (Text.hexValue? c).any (· < base)

/-- Digits in which single underscores may stand between two of them; the result has none. -/
def plainDigits? (base : Nat) : List Char → Option (List Char)
  | [] => none
  | [c] => if isDigitOf base c then some [c] else none
  | c :: '_' :: rest =>
      if isDigitOf base c then (plainDigits? base rest).map (c :: ·) else none
  | c :: rest => if isDigitOf base c then (plainDigits? base rest).map (c :: ·) else none

def valueOf (base : Nat) (digits : List Char) : Nat :=
  digits.foldl (fun n c => base * n + (Text.hexValue? c).getD 0) 0

def signed (s : List Char) : Bool × List Char :=
  match s with
  | '-' :: rest => (true, rest)
  | '+' :: rest => (false, rest)
  | _ => (false, s)

/-- Decimal digits without a zero in front of others. -/
def wholeDigits? (s : List Char) : Option (List Char) :=
  match plainDigits? 10 s with
  | some ('0' :: _ :: _) => none
  | result => result

def maxWhole : Int := 340282366920938463463374607431768211455

def minWhole : Int := -170141183460469231731687303715884105728

def integer? (s : List Char) : Option Int :=
  let n? : Option Int :=
    match s with
    | '0' :: 'x' :: rest => (plainDigits? 16 rest).map fun digits => (valueOf 16 digits : Int)
    | '0' :: 'o' :: rest => (plainDigits? 8 rest).map fun digits => (valueOf 8 digits : Int)
    | '0' :: 'b' :: rest => (plainDigits? 2 rest).map fun digits => (valueOf 2 digits : Int)
    | _ =>
        let (negative, digits) := signed s
        (wholeDigits? digits).map fun digits =>
          if negative then -(valueOf 10 digits : Int) else (valueOf 10 digits : Int)
  n?.filter fun n => decide (minWhole ≤ n ∧ n ≤ maxWhole)

/-- Every number of so many digits before the point is smaller than the least one that is too large
for the format. -/
def safeDigits : Int := 300

def tooManyDigits : Int := 320

def realOf? (negative : Bool) (digits : List Char) (exponent : Int) : Option Number.Binary64 :=
  let significant := digits.dropWhile (· == '0')
  let length : Int := significant.length + exponent
  if significant.isEmpty || decide (length < -safeDigits - 100) then
    some (Number.Binary64.zeroOf negative)
  else if tooManyDigits < length then none
  else if 0 ≤ exponent then
    Number.Binary64.ofQuotient? negative (valueOf 10 significant * Nat.pow 10 exponent.toNat) 1
  else Number.Binary64.ofQuotient? negative (valueOf 10 significant) (Nat.pow 10 (-exponent).toNat)

def exponent? (s : List Char) : Option Int :=
  let (negative, digits) := signed s
  (plainDigits? 10 digits).map fun digits =>
    if negative then -(valueOf 10 digits : Int) else (valueOf 10 digits : Int)

def real? (s : List Char) : Option Json :=
  let (negative, size) := signed s
  if size = "inf".toList ∨ size = "nan".toList then some .null
  else do
    let isExponent := fun c : Char => c == 'e' || c == 'E'
    let mantissa := size.takeWhile fun c => !isExponent c
    let exponent ←
      match size.dropWhile fun c => !isExponent c with
      | [] => if mantissa.contains '.' then some 0 else none
      | _ :: rest => exponent? rest
    let whole ← wholeDigits? (mantissa.takeWhile (· != '.'))
    let places ←
      match mantissa.dropWhile (· != '.') with
      | [] => some []
      | _ :: rest => plainDigits? 10 rest
    (realOf? negative (whole ++ places) (exponent - places.length)).map Json.real

def fixedDigits? (count : Nat) (s : List Char) : Option (Nat × List Char) :=
  let digits := s.take count
  if digits.length = count ∧ digits.all Char.isDigit then some (valueOf 10 digits, s.drop count)
  else none

def daysOf (year month : Nat) : Nat :=
  if month = 2 then
    if year % 4 = 0 ∧ (year % 100 ≠ 0 ∨ year % 400 = 0) then 29 else 28
  else if month = 4 ∨ month = 6 ∨ month = 9 ∨ month = 11 then 30
  else 31

def afterDash? : List Char → Option (List Char)
  | '-' :: rest => some rest
  | _ => none

def afterDate? (s : List Char) : Option (List Char) := do
  let (year, rest) ← fixedDigits? 4 s
  let rest ← afterDash? rest
  let (month, rest) ← fixedDigits? 2 rest
  let rest ← afterDash? rest
  let (day, rest) ← fixedDigits? 2 rest
  if 1 ≤ month ∧ month ≤ 12 ∧ 1 ≤ day ∧ day ≤ daysOf year month then some rest else none

def afterTime? (s : List Char) : Option (List Char) := do
  let (hour, rest) ← fixedDigits? 2 s
  match rest with
  | ':' :: rest => do
      let (minute, rest) ← fixedDigits? 2 rest
      if hour ≤ 23 ∧ minute ≤ 59 then
        match rest with
        | ':' :: rest => do
            let (second, rest) ← fixedDigits? 2 rest
            if 60 < second then none
            else
              match rest with
              | '.' :: places =>
                  if (places.takeWhile Char.isDigit).isEmpty then none
                  else some (places.dropWhile Char.isDigit)
              | _ => some rest
        | _ => some rest
      else none
  | _ => none

/-- The text is the distance from the prime meridian's time, or empty. -/
def isOffset (s : List Char) : Bool :=
  match s with
  | [] => true
  | ['Z'] => true
  | ['z'] => true
  | sign :: rest =>
      if sign = '+' ∨ sign = '-' then
        match fixedDigits? 2 rest with
        | some (hour, ':' :: rest) =>
            match fixedDigits? 2 rest with
            | some (minute, []) => decide (hour ≤ 23 ∧ minute ≤ 59)
            | _ => false
        | _ => false
      else false

def isTime (s : List Char) : Bool :=
  match afterDate? s with
  | some [] => true
  | some (c :: rest) =>
      if c = 'T' ∨ c = 't' ∨ c = ' ' then (afterTime? rest).any isOffset else false
  | none => (afterTime? s).any List.isEmpty

def scalar? (s : List Char) : Option Json :=
  if s = "true".toList then some (.bool true)
  else if s = "false".toList then some (.bool false)
  else
    match integer? s with
    | some n => some (.int n)
    | none =>
        match real? s with
        | some value => some value
        | none => if isTime s then some .null else none

/-- A run of characters at the front, and the text behind it. A blank may stand between a date and a
time. -/
def scalarText (s : List Char) : List Char × List Char :=
  let first := s.takeWhile inScalar
  match s.dropWhile inScalar with
  | ' ' :: d :: rest =>
      if d.isDigit && (afterDate? first) == some [] then
        (first ++ ' ' :: (d :: rest).takeWhile inScalar, (d :: rest).dropWhile inScalar)
      else (first, ' ' :: d :: rest)
  | rest => (first, rest)

end AsmDiagnostics.Toml
