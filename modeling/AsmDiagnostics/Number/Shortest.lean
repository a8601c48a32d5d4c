import AsmDiagnostics.Number.Binary64

/-!
# Shortest decimal text

The decimal with the fewest digits that lies in the rounding interval of a binary64 number, and of
those the nearest to it. A layout record says which sizes are written positionally.
-/

namespace AsmDiagnostics.Number

structure Decimal where
  digits : Nat
  exponent : Int
  deriving DecidableEq, Repr

/-- An interval around an exact value, all over one denominator; its ends may belong to it. -/
structure Interval where
  low : Nat
  value : Nat
  high : Nat
  den : Nat
  closed : Bool

/-- The real numbers that round to a positive binary64 number. The gap below the first mantissa of
53 bits is half as wide as the gap above it. -/
def Binary64.interval (x : Binary64) : Interval :=
  let below :=
    if x.mantissa = fullMantissa ∧ leastExponent < x.exponent then 1 else 2
  let exponent := x.exponent - 2
  let factor := if 0 ≤ exponent then Nat.pow 2 exponent.toNat else 1
  let den := if 0 ≤ exponent then 1 else Nat.pow 2 (-exponent).toNat
  { low := (4 * x.mantissa - below) * factor
    value := 4 * x.mantissa * factor
    high := (4 * x.mantissa + 2) * factor
    den := den
    closed := x.mantissa % 2 == 0 }

def digitCount (n : Nat) : Nat := (Nat.toDigits 10 n).length

/-- The power of ten of the leading digit of a positive quotient. -/
def leadingPower (num den : Nat) : Int :=
  if den ≤ num then (digitCount (num / den) : Int) - 1
  else -(digitCount ((den + num - 1) / num - 1) : Int)

def inUnits (num den : Nat) (unit : Int) : Nat × Nat :=
  if 0 ≤ unit then (num, den * Nat.pow 10 unit.toNat)
  else (num * Nat.pow 10 (-unit).toNat, den)

def Interval.holds (i : Interval) (unit : Int) (digits : Nat) : Bool :=
  let low := inUnits i.low i.den unit
  let high := inUnits i.high i.den unit
  if i.closed then decide (low.1 ≤ digits * low.2) && decide (digits * high.2 ≤ high.1)
  else decide (low.1 < digits * low.2) && decide (digits * high.2 < high.1)

/-- The multiple of the unit in the interval that is nearest to the value, a tie to the even
multiple. -/
def Interval.nearest? (i : Interval) (unit : Int) : Option Nat :=
  let scaled := inUnits i.value i.den unit
  let below := scaled.1 / scaled.2
  let above := below + 1
  match i.holds unit below, i.holds unit above with
  | true, true => some (Binary64.roundQuotient scaled.1 scaled.2)
  | true, false => some below
  | false, true => some above
  | false, false => none

/-- The nearest decimal of the interval with the fewest digits, trying so many more lengths. -/
def Interval.shortestFrom (i : Interval) (leading : Int) : Nat → Nat → Decimal
  | 0, count => ⟨i.value / i.den, 1 - (count : Int)⟩
  | more + 1, count =>
      let unit := leading - (count : Int) + 1
      match i.nearest? unit with
      | some digits => ⟨digits, unit⟩
      | none => i.shortestFrom leading more (count + 1)

/-- The decimal without trailing zeros among its digits. -/
def Decimal.trimmed (d : Decimal) : Decimal :=
  if h : d.digits ≠ 0 ∧ d.digits % 10 = 0 then Decimal.trimmed ⟨d.digits / 10, d.exponent + 1⟩
  else d
termination_by d.digits
decreasing_by exact Nat.div_lt_self (Nat.pos_of_ne_zero h.1) (by omega)

/-- The shortest decimal that rounds to a number that is not zero; seventeen digits always
suffice. -/
def Binary64.shortest (x : Binary64) : Decimal :=
  let i := x.interval
  (i.shortestFrom (leadingPower i.value i.den) 17 1).trimmed

/-- Which powers of ten of the leading digit are written positionally. -/
structure Layout where
  positionalFrom : Int
  positionalTo : Int

def exponentText (e : Int) : List Char :=
  (if e < 0 then '-' else '+') :: Nat.toDigits 10 e.natAbs

def Decimal.text (layout : Layout) (d : Decimal) : List Char :=
  let digits := Nat.toDigits 10 d.digits
  let leading := d.exponent + (digits.length : Int) - 1
  if layout.positionalFrom ≤ leading ∧ leading ≤ layout.positionalTo then
    if 0 ≤ d.exponent then
      digits ++ List.replicate d.exponent.toNat '0' ++ ['.', '0']
    else if 0 ≤ leading then
      digits.take (leading.toNat + 1) ++ '.' :: digits.drop (leading.toNat + 1)
    else ['0', '.'] ++ List.replicate ((-leading).toNat - 1) '0' ++ digits
  else
    match digits with
    | [] => []
    | [only] => only :: 'e' :: exponentText leading
    | first :: rest => first :: '.' :: rest ++ 'e' :: exponentText leading

def Binary64.text (layout : Layout) (x : Binary64) : List Char :=
  let sign := if x.negative then ['-'] else []
  if x.mantissa = 0 then sign ++ ['0', '.', '0'] else sign ++ x.shortest.text layout

theorem Decimal.text_ne_nil (layout : Layout) (d : Decimal) : d.text layout ≠ [] := by
  have some : Nat.toDigits 10 d.digits ≠ [] := Nat.toDigits_ne_nil
  unfold Decimal.text
  dsimp only
  split
  · split
    · simp
    · split <;> simp
  · split
    · contradiction
    · simp
    · simp

theorem Binary64.text_ne_nil (layout : Layout) (x : Binary64) : x.text layout ≠ [] := by
  unfold Binary64.text
  dsimp only
  split
  · simp
  · exact List.append_ne_nil_of_right_ne_nil _ (x.shortest.text_ne_nil layout)

end AsmDiagnostics.Number
