import AsmDiagnostics.Text.Digit

/-!
# Numerals in scripts

Whole numbers of 64 bits as scripts and their tools write them: blanks, a sign and digits. A number
out of the range becomes the end of the range that it is beyond.
-/

namespace AsmDiagnostics.Machine.Numeral

def modulus : Nat := 18446744073709551616

def least : Int := -9223372036854775808

def greatest : Int := 9223372036854775807

def wrapped (n : Int) : Int := Int.bmod n modulus

def isBlank (c : Char) : Bool := c == ' ' || (9 ≤ c.toNat && c.toNat ≤ 13)

def digit? (base : Nat) (c : Char) : Option Nat :=
  (Text.hexValue? c).filter fun d => decide (d < base)

def valueOf (base : Nat) (digits : List Char) : Nat :=
  digits.foldl (fun n c => base * n + (digit? base c).getD 0) 0

def decimalValue (digits : List Char) : Nat := valueOf 10 digits

structure Front where
  value : Int
  /-- It had to be brought into the range. -/
  isCut : Bool
  /-- What follows it. -/
  rest : List Char
  deriving Repr

/-- The number at the front of a text without a sign. With a `prefixed` base, a zero in front is the
sign of an octal number and `0x` that of a hexadecimal one. -/
def magnitude? (prefixed : Bool) (s : List Char) : Option (Nat × List Char) :=
  let digits := fun (base : Nat) (text : List Char) =>
    let taken := text.takeWhile fun c => (digit? base c).isSome
    if taken.isEmpty then none else some (valueOf base taken, text.drop taken.length)
  match prefixed, s with
  | true, '0' :: c :: rest =>
      if (c = 'x' ∨ c = 'X') ∧ (rest.head?.bind (digit? 16)).isSome then digits 16 rest
      else digits 8 s
  | _, _ => digits 10 s

def front? (prefixed : Bool) (s : List Char) : Option Front :=
  let plain := s.dropWhile isBlank
  let isNegative := plain.head? == some '-'
  let unsigned := if isNegative || plain.head? == some '+' then plain.drop 1 else plain
  (magnitude? prefixed unsigned).map fun (n, rest) =>
    let value : Int := if isNegative then -n else n
    if value < least then ⟨least, true, rest⟩
    else if greatest < value then ⟨greatest, true, rest⟩
    else ⟨value, false, rest⟩

/-- The number that a whole text spells, with blanks around it. -/
def ofText? (prefixed : Bool) (s : List Char) : Option Int :=
  match front? prefixed s with
  | some ⟨value, false, rest⟩ => if rest.all isBlank then some value else none
  | _ => none

def text (n : Int) : List Char :=
  if n < 0 then '-' :: Text.decimal n.natAbs else Text.decimal n.natAbs

end AsmDiagnostics.Machine.Numeral
