/-!
# Punycode

Labels of host names with characters beyond ASCII, written with ASCII letters and digits. The
encoding lists the plain characters, and then says for every other character, in the order of code
points, how many places further it is inserted.
-/

namespace AsmDiagnostics.Uri.Punycode

def base : Nat := 36

/-- The digit of a value below thirty-six. -/
def digit (n : Nat) : Char := if n < 26 then Char.ofNat (97 + n) else Char.ofNat (22 + n)

def digitValue? (c : Char) : Option Nat :=
  if 'a' ≤ c ∧ c ≤ 'z' then some (c.toNat - 97)
  else if 'A' ≤ c ∧ c ≤ 'Z' then some (c.toNat - 65)
  else if '0' ≤ c ∧ c ≤ '9' then some (c.toNat - 22)
  else none

/-- The least value of a digit that does not end its number. -/
def threshold (position bias : Nat) : Nat :=
  if position ≤ bias then 1 else if bias + 26 ≤ position then 26 else position - bias

theorem threshold_pos (position bias : Nat) : 1 ≤ threshold position bias := by
  unfold threshold
  split
  · exact Nat.le_refl 1
  · split <;> omega

/-- Divides a distance until it is small, counting the steps. -/
def shrink (delta steps : Nat) : Nat × Nat :=
  if 455 < delta then shrink (delta / 35) (steps + base) else (delta, steps)
termination_by delta
decreasing_by exact Nat.div_lt_self (by omega) (by omega)

def adapt (delta count : Nat) (first : Bool) : Nat :=
  let halved := if first then delta / 700 else delta / 2
  let shrunk := shrink (halved + halved / count) 0
  shrunk.2 + 36 * shrunk.1 / (shrunk.1 + 38)

def distance (bias position value : Nat) : List Char :=
  let limit := threshold position bias
  if value < limit then [digit value]
  else
    digit (limit + (value - limit) % (base - limit)) ::
      distance bias (position + base) ((value - limit) / (base - limit))
termination_by value
decreasing_by
  rename_i reached
  have positive := threshold_pos position bias
  have small := Nat.div_le_self (value - threshold position bias) (base - threshold position bias)
  have _enough : ¬ value < threshold position bias := reached
  omega

/-- The state of an encoding: the digits so far in reverse, the distance, the bias, and the number
of characters written. -/
structure State where
  output : List Char
  delta : Nat
  bias : Nat
  written : Nat

/-- Passes one character of the label while the code point `n` is written. -/
def passChar (n basic : Nat) (state : State) (c : Char) : State :=
  if c.toNat < n then { state with delta := state.delta + 1 }
  else if c.toNat = n then
    { output := (distance state.bias base state.delta).reverse ++ state.output
      delta := 0
      bias := adapt state.delta (state.written + 1) (state.written == basic)
      written := state.written + 1 }
  else state

def writeAll (label : List Char) (basic : Nat) : State → Nat → List Nat → State
  | state, _, [] => state
  | state, n, code :: codes =>
      let moved := { state with delta := state.delta + (code - n) * (state.written + 1) }
      let passed := label.foldl (passChar code basic) moved
      writeAll label basic { passed with delta := passed.delta + 1 } (code + 1) codes

/-- The code points beyond ASCII of a label, in order and once each. -/
def codes (label : List Char) : List Nat :=
  (((label.map Char.toNat).filter (0x80 ≤ ·)).mergeSort).eraseDups

def encode (label : List Char) : List Char :=
  let plain := label.filter fun c => decide (c.toNat < 0x80)
  let start : State := ⟨[], 0, 72, plain.length⟩
  let finish := writeAll label plain.length start 0x80 (codes label)
  (if plain.isEmpty then [] else plain ++ ['-']) ++ finish.output.reverse

def readDistance (bias : Nat) : Nat → Nat → Nat → List Char → Option (Nat × List Char)
  | _, _, _, [] => none
  | position, weight, total, c :: rest =>
      match digitValue? c with
      | none => none
      | some value =>
          let sum := total + value * weight
          let limit := threshold position bias
          if value < limit then some (sum, rest)
          else readDistance bias (position + base) (weight * (base - limit)) sum rest

/-- Inserts the characters that digits describe into a label; the budget bounds their number. -/
def insertAll : Nat → Nat → Nat → Nat → List Char → List Char → Option (List Char)
  | _, _, _, _, label, [] => some label
  | 0, _, _, _, _, _ => none
  | budget + 1, code, place, bias, label, digits =>
      match readDistance bias base 1 0 digits with
      | none => none
      | some (delta, rest) =>
          let count := label.length + 1
          let reached := place + delta
          let next := code + reached / count
          let spot := reached % count
          if 0x10FFFF < next ∨ (0xD800 ≤ next ∧ next ≤ 0xDFFF) then none
          else
            insertAll budget next (spot + 1) (adapt delta count (place == 0))
              (label.take spot ++ Char.ofNat next :: label.drop spot) rest

/-- The label that is encoded. A hyphen ends the plain characters, of which there is at least one if
there is a hyphen. -/
def decode? (encoded : List Char) : Option (List Char) :=
  let digits := (encoded.reverse.takeWhile (· != '-')).reverse
  let plain := encoded.take (encoded.length - digits.length - 1)
  if plain.isEmpty && decide (digits.length < encoded.length) then none
  else insertAll (digits.length + 1) 0x80 0 72 plain digits

end AsmDiagnostics.Uri.Punycode
