/-!
# Finite binary64 numbers

A finite number of the 64-bit binary format is a sign, a mantissa below `2 ^ 53` and a power of
two. Rounding takes an exact quotient of natural numbers to the nearest such number, a tie to the
even mantissa; products and quotients are exact results that are rounded once. No machine float
takes part.
-/

namespace AsmDiagnostics.Number

structure Binary64 where
  negative : Bool
  mantissa : Nat
  exponent : Int
  deriving DecidableEq, Repr

namespace Binary64

def leastExponent : Int := -1074

def greatestExponent : Int := 971

def fullMantissa : Nat := 4503599627370496

def mantissaLimit : Nat := 9007199254740992

def zeroOf (negative : Bool) : Binary64 := ⟨negative, 0, leastExponent⟩

/-- The quotient rounded to the nearest natural number, a tie to the even one. -/
def roundQuotient (num den : Nat) : Nat :=
  let quotient := num / den
  let double := 2 * (num % den)
  if double < den then quotient
  else if den < double then quotient + 1
  else if quotient % 2 = 0 then quotient
  else quotient + 1

/-- The numerator and denominator of `num / den` divided by a power of two. -/
def scaleDown (num den : Nat) (exponent : Int) : Nat × Nat :=
  if 0 ≤ exponent then (num, den * Nat.pow 2 exponent.toNat)
  else (num * Nat.pow 2 (-exponent).toNat, den)

/-- The exponent at which a positive quotient has a mantissa of 53 bits, or the least exponent
when that is greater. -/
def exponentOf (num den : Nat) : Int :=
  let guess : Int := (num.log2 : Int) - (den.log2 : Int) - 52
  let scaled := scaleDown num den guess
  let exponent := if scaled.1 / scaled.2 < fullMantissa then guess - 1 else guess
  max exponent leastExponent

/-- The nearest number to a quotient with a positive denominator; none when it is too large for
the format. -/
def ofQuotient? (negative : Bool) (num den : Nat) : Option Binary64 :=
  if num = 0 then some (zeroOf negative)
  else
    let exponent := exponentOf num den
    let scaled := scaleDown num den exponent
    let mantissa := roundQuotient scaled.1 scaled.2
    let result : Binary64 :=
      if mantissa = mantissaLimit then ⟨negative, fullMantissa, exponent + 1⟩
      else ⟨negative, mantissa, exponent⟩
    if greatestExponent < result.exponent then none else some result

def size (x : Binary64) : Nat × Nat :=
  if 0 ≤ x.exponent then (x.mantissa * Nat.pow 2 x.exponent.toNat, 1)
  else (x.mantissa, Nat.pow 2 (-x.exponent).toNat)

def times? (x : Binary64) (factor : Nat) : Option Binary64 :=
  ofQuotient? x.negative (x.size.1 * factor) x.size.2

/-- The size divided by a positive natural number, rounded. -/
def over? (x : Binary64) (divisor : Nat) : Option Binary64 :=
  ofQuotient? x.negative x.size.1 (x.size.2 * divisor)

def powerOfTen (k : Nat) : Nat :=
  match ofQuotient? false (Nat.pow 10 k) 1 with
  | some x => x.size.1 / x.size.2
  | none => Nat.pow 10 k

def greatestPower : Nat := 308

/-- A significand times a power of ten: the significand is rounded first, then it is scaled by
rounded powers of ten, at most `10 ^ 308` at a time. A size too large for the format gives none. -/
def scaled? (x : Binary64) (exponent : Int) : Option Binary64 :=
  if x.mantissa = 0 then some x
  else if 0 ≤ exponent then
    if exponent.toNat ≤ greatestPower then x.times? (powerOfTen exponent.toNat) else none
  else if (-exponent).toNat ≤ greatestPower then x.over? (powerOfTen (-exponent).toNat)
  else
    match x.over? (powerOfTen greatestPower) with
    | none => none
    | some next => next.scaled? (exponent + greatestPower)
termination_by (-exponent).toNat
decreasing_by simp only [greatestPower] at *; omega

def ofDecimal? (negative : Bool) (significand : Nat) (exponent : Int) : Option Binary64 :=
  match ofQuotient? negative significand 1 with
  | none => none
  | some x => x.scaled? exponent

def ofNat (negative : Bool) (n : Nat) : Binary64 :=
  (ofQuotient? negative n 1).getD (zeroOf negative)

end Binary64

end AsmDiagnostics.Number
