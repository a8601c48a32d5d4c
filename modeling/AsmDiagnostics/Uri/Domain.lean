import AsmDiagnostics.Uri.Address
import AsmDiagnostics.Uri.Domain.Direction
import AsmDiagnostics.Uri.Domain.Joiner
import AsmDiagnostics.Uri.Domain.Plain
import AsmDiagnostics.Uri.Punycode

/-!
# Domain names

A domain name is put into its plain form and cut into labels at its dots. A label of ASCII
characters stays as it is; any other is encoded, and a label that is already encoded must be the
encoding of a label that may stand. The main function is `Domain.ascii?`.
-/

namespace AsmDiagnostics.Uri.Domain

def isAscii (c : Char) : Bool := decide (c.toNat < 0x80)

def isDenied (c : Char) : Bool :=
  decide (c.toNat ≤ 0x20) || c.toNat == 0x7F || "%#/:<>?@[\\]^|".toList.contains c

/-- A label as it is shown, and as it is written in ASCII. -/
structure Label where
  shown : List Char
  written : List Char

def encodedMark : List Char := "xn--".toList

/-- The largest number of characters of a label that is encoded. -/
def maxShown : Nat := 1000

def maxDigits : Nat := 2000

/-- A label with characters beyond ASCII that may stand in a domain name. -/
def mayBeShown (label : List Char) : Bool :=
  !(label.head?.any Text.isMark) && joinersFit [] label

def decodeLabel? (digits : List Char) : Option (List Char) :=
  if digits.isEmpty || digits.getLast? == some '-' || decide (maxDigits < digits.length) then none
  else
    match Punycode.decode? digits with
    | none => none
    | some shown => if plain? shown = some shown ∧ mayBeShown shown then some shown else none

def label? (plain : List Char) : Option Label :=
  if plain.all isAscii then
    if plain.take 4 = encodedMark then
      (decodeLabel? (plain.drop 4)).map fun shown => ⟨shown, plain⟩
    else some ⟨plain, plain⟩
  else if plain.take 4 = encodedMark ∨ maxShown < plain.length ∨ !mayBeShown plain then none
  else some ⟨plain, encodedMark ++ Punycode.encode plain⟩

def joinDots : List (List Char) → List Char
  | [] => []
  | [last] => last
  | piece :: rest => piece ++ '.' :: joinDots rest

def ascii? (name : List Char) : Option (List Char) :=
  match plain? name with
  | none => none
  | some plain =>
      if plain.any isDenied then none
      else
        match (splitAt '.' plain).mapM label? with
        | none => none
        | some labels =>
            if directionsFit (labels.map Label.shown) then some (joinDots (labels.map Label.written))
            else none

end AsmDiagnostics.Uri.Domain
