import AsmDiagnostics.Number.Binary64
import AsmDiagnostics.Text.Digit

/-!
# Amounts

A number with an exact size, as a fraction of natural numbers, or one that has none. It is read from
the front of a text and written with a fixed number of places, with a power of ten, or in the
shorter of these ways; what is cut off is rounded, a tie to the even digit.
-/

namespace AsmDiagnostics.Number

inductive Size where
  /-- A fraction with a positive denominator. -/
  | finite (numerator denominator : Nat)
  | infinite
  | undefined
  deriving DecidableEq, Repr

structure Amount where
  isNegative : Bool
  size : Size
  deriving DecidableEq, Repr

namespace Amount

def zero : Amount := ⟨false, .finite 0 1⟩

def scaled (numerator denominator : Nat) (power : Int) : Nat × Nat :=
  if 0 ≤ power then (numerator * Nat.pow 10 power.toNat, denominator)
  else (numerator, denominator * Nat.pow 10 (-power).toNat)

def ofDigits (digits : List Char) : Nat :=
  digits.foldl (fun n c => 10 * n + ((Text.digitValue? c).getD 0)) 0

def ofHexDigits (digits : List Char) : Nat :=
  digits.foldl (fun n c => 16 * n + ((Text.hexValue? c).getD 0)) 0

def exponent (letters : List Char) (s : List Char) : Int × List Char :=
  match s with
  | c :: rest =>
      if letters.contains c then
        let isNegative := rest.head? == some '-'
        let unsigned := if isNegative || rest.head? == some '+' then rest.drop 1 else rest
        let digits := unsigned.takeWhile Char.isDigit
        if digits.isEmpty then (0, s)
        else
          let n : Int := min (ofDigits digits) 20000
          (if isNegative then -n else n, unsigned.drop digits.length)
      else (0, s)
  | [] => (0, s)

/-- The size at the front of a text of decimal digits with a point and a power of ten. -/
def decimalFront? (s : List Char) : Option (Size × List Char) :=
  let whole := s.takeWhile Char.isDigit
  let rest := s.drop whole.length
  let places := if rest.head? == some '.' then (rest.drop 1).takeWhile Char.isDigit else []
  if whole.isEmpty && places.isEmpty then none
  else
    let behind := if rest.head? == some '.' then rest.drop (1 + places.length) else rest
    let (power, last) := exponent ['e', 'E'] behind
    let (numerator, denominator) :=
      scaled (ofDigits (whole ++ places)) 1 (power - (places.length : Int))
    some (.finite numerator denominator, last)

/-- The size at the front of a text of hexadecimal digits with a point and a power of two. -/
def hexFront? (s : List Char) : Option (Size × List Char) :=
  let isHex := fun c : Char => (Text.hexValue? c).isSome
  let whole := s.takeWhile isHex
  let rest := s.drop whole.length
  let places := if rest.head? == some '.' then (rest.drop 1).takeWhile isHex else []
  if whole.isEmpty && places.isEmpty then none
  else
    let behind := if rest.head? == some '.' then rest.drop (1 + places.length) else rest
    let (power, last) := exponent ['p', 'P'] behind
    let power := power - 4 * (places.length : Int)
    let numerator := ofHexDigits (whole ++ places)
    some
      (if 0 ≤ power then .finite (numerator * Nat.pow 2 power.toNat) 1
        else .finite numerator (Nat.pow 2 (-power).toNat), last)

def sizeFront? (s : List Char) : Option (Size × List Char) :=
  let startsWith := fun word : String =>
    word.toList.isPrefixOf ((s.take word.length).map Char.toLower)
  if startsWith "infinity" then some (.infinite, s.drop 8)
  else if startsWith "inf" then some (.infinite, s.drop 3)
  else if startsWith "nan" then some (.undefined, s.drop 3)
  else if startsWith "0x" then (hexFront? (s.drop 2)).or (decimalFront? s)
  else decimalFront? s

def front? (s : List Char) : Option (Amount × List Char) :=
  let plain := s.dropWhile fun c => c == ' ' || (9 ≤ c.toNat && c.toNat ≤ 13)
  let isNegative := plain.head? == some '-'
  let unsigned := if isNegative || plain.head? == some '+' then plain.drop 1 else plain
  (sizeFront? unsigned).map fun (size, rest) => (⟨isNegative, size⟩, rest)

/-- The amount as a number of 64 bits; a size that is too large becomes infinite. -/
def toBinary64 (a : Amount) : Amount :=
  match a.size with
  | .finite numerator denominator =>
      match Binary64.ofQuotient? a.isNegative numerator denominator with
      | some x => ⟨a.isNegative, .finite x.size.1 x.size.2⟩
      | none => ⟨a.isNegative, .infinite⟩
  | _ => a

def pointed (places : Nat) (keepsPoint : Bool) (digits : List Char) : List Char :=
  let filled := List.replicate (places + 1 - digits.length) '0' ++ digits
  let whole := filled.take (filled.length - places)
  if places = 0 then (if keepsPoint then whole ++ ['.'] else whole)
  else whole ++ '.' :: filled.drop (filled.length - places)

def fixed (numerator denominator places : Nat) (keepsPoint : Bool) : List Char :=
  let (n, d) := scaled numerator denominator places
  pointed places keepsPoint (Text.decimal (Binary64.roundQuotient n d))

/-- The power of ten of the first digit of a positive fraction. -/
def leadingPower (numerator denominator : Nat) : Int :=
  let digits := fun n : Nat => ((Text.decimal n).length : Int)
  let guess := digits numerator - digits denominator
  let (n, d) := scaled numerator denominator (-guess)
  if n < d then guess - 1 else guess

/-- The digits of a fraction, one more than the places, and the power of ten of the first. -/
def leadingDigits (numerator denominator places : Nat) : List Char × Int :=
  if numerator = 0 then (List.replicate (places + 1) '0', 0)
  else
    let power := leadingPower numerator denominator
    let (n, d) := scaled numerator denominator ((places : Int) - power)
    let digits := Text.decimal (Binary64.roundQuotient n d)
    if digits.length = places + 2 then (digits.take (places + 1), power + 1) else (digits, power)

/-- A power of ten with its sign and at least two digits. -/
def powerText (power : Int) : List Char :=
  let digits := Text.decimal power.natAbs
  (if power < 0 then '-' else '+') :: List.replicate (2 - digits.length) '0' ++ digits

def scientific (numerator denominator places : Nat) (keepsPoint : Bool) (letter : Char) :
    List Char :=
  let (digits, power) := leadingDigits numerator denominator places
  pointed places keepsPoint digits ++ letter :: powerText power

def withoutZeros (s : List Char) : List Char :=
  if s.contains '.' then
    let short := s.reverse.dropWhile (· == '0')
    (if short.head? == some '.' then short.drop 1 else short).reverse
  else s

/-- A fraction with so many digits: with a power of ten when it is very small or has more digits in
front of the point. -/
def general (numerator denominator digits : Nat) (keepsZeros : Bool) (letter : Char) : List Char :=
  let digits := max digits 1
  let power := (leadingDigits numerator denominator (digits - 1)).2
  if power < -4 ∨ (digits : Int) ≤ power then
    let text := scientific numerator denominator (digits - 1) keepsZeros letter
    if keepsZeros then text
    else
      let front := text.takeWhile (· != letter)
      withoutZeros front ++ text.drop front.length
  else
    let text := fixed numerator denominator ((digits : Int) - 1 - power).toNat keepsZeros
    if keepsZeros then text else withoutZeros text

/-- The text of an amount without its sign: `kind` is the letter of the way that it is written in. -/
def magnitudeText (a : Amount) (kind : Char) (places : Nat) (isFull : Bool) : List Char :=
  let text :=
    match a.size with
    | .infinite => "inf".toList
    | .undefined => "nan".toList
    | .finite n d =>
        match kind.toLower with
        | 'f' => fixed n d places isFull
        | 'e' => scientific n d places isFull 'e'
        | _ => general n d places isFull 'e'
  if kind.isUpper then text.map Char.toUpper else text

end Amount

end AsmDiagnostics.Number
