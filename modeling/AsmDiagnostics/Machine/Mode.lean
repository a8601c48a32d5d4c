import AsmDiagnostics.Machine.Numeral

/-!
# Modes

What may be done with a file is told by a mode: three bits for its owner, three for its group, and
three for all others, which stand for reading, writing and starting it. A mode is written as an
octal number, or as changes of another mode.
-/

namespace AsmDiagnostics.Machine.Mode

def full : Nat := 511

def startBits : Nat := 73

def people? (c : Char) : Option Nat :=
  match c with
  | 'u' => some 448
  | 'g' => some 56
  | 'o' => some 7
  | 'a' => some 511
  | _ => none

/-- The bits that a letter for an activity stands for, for all people; a capital one depends on
whether anyone may start the file already. -/
def activity? (canStart : Bool) (c : Char) : Option Nat :=
  match c with
  | 'r' => some 292
  | 'w' => some 146
  | 'x' => some startBits
  | 'X' => some (if canStart then startBits else 0)
  | 's' => some 0
  | 't' => some 0
  | _ => none

def changed (people mode : Nat) : Nat → List Char → Option Nat
  | 0, _ => none
  | _ + 1, [] => some mode
  | bound + 1, sign :: rest =>
      let canStart := mode &&& startBits != 0
      let letters := rest.takeWhile fun c => (activity? canStart c).isSome
      let bits := ((letters.filterMap (activity? canStart)).foldl (· ||| ·) 0) &&& people
      let others := rest.drop letters.length
      match sign with
      | '+' => changed people (mode ||| bits) bound others
      | '-' => changed people (mode &&& (full - bits)) bound others
      | '=' => changed people ((mode &&& (full - people)) ||| bits) bound others
      | _ => none

def clauses (s : List Char) : List (List Char) :=
  s.foldr
    (fun c parts =>
      match c, parts with
      | ',', _ => [] :: parts
      | _, [] => [[c]]
      | _, first :: others => (c :: first) :: others)
    [[]]

/-- The mode that a text makes of another one; without a word about people it concerns all of them
but for the bits of a mask. -/
def ofText? (mask mode : Nat) (text : List Char) : Option Nat :=
  if !text.isEmpty && text.all Char.isDigit then
    if text.all fun c => '0' ≤ c && c ≤ '7' then
      some (Numeral.valueOf 8 text &&& full)
    else none
  else
    (clauses text).foldl
      (fun mode? clause =>
        mode?.bind fun mode =>
          let who := clause.takeWhile fun c => (people? c).isSome
          let people :=
            if who.isEmpty then full - (mask &&& full)
            else (who.filterMap people?).foldl (· ||| ·) 0
          let changes := clause.drop who.length
          if changes.isEmpty then none else changed people mode (changes.length + 1) changes)
      (some mode)

def octalText (places n : Nat) : List Char :=
  (List.range places).reverse.map fun place => Text.hexDigit (n / Nat.pow 8 place % 8)

def lettersOf (bits : Nat) : List Char :=
  [(4, 'r'), (2, 'w'), (1, 'x')].filterMap fun (bit, c) =>
    if bits / bit % 2 = 1 then some c else none

def symbolicText (mode : Nat) : List Char :=
  [','].intercalate
    ([('u', 64), ('g', 8), ('o', 1)].map fun (c, unit) => c :: '=' :: lettersOf (mode / unit % 8))

end AsmDiagnostics.Machine.Mode
