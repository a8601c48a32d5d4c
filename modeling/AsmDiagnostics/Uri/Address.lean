import AsmDiagnostics.Text.Digit

/-!
# Numeric hosts

Addresses of four bytes and of eight groups. The parts of a short address may be decimal, octal or
hexadecimal, and the last one fills all places that are left. A long address may leave out one run
of zero groups, and may end in a short address.
-/

namespace AsmDiagnostics.Uri

def splitAt (separator : Char) : List Char → List (List Char)
  | [] => [[]]
  | c :: rest =>
      if c = separator then [] :: splitAt separator rest
      else
        match splitAt separator rest with
        | [] => [[c]]
        | piece :: pieces => (c :: piece) :: pieces

def readBase (base : Nat) : Nat → List Char → Option Nat
  | value, [] => some value
  | value, c :: rest =>
      match Text.hexValue? c with
      | none => none
      | some d => if d < base then readBase base (value * base + d) rest else none

def addressPart? : List Char → Option Nat
  | [] => none
  | '0' :: 'x' :: digits => readBase 16 0 digits
  | '0' :: 'X' :: digits => readBase 16 0 digits
  | '0' :: d :: digits => readBase 8 0 (d :: digits)
  | digits => readBase 10 0 digits

def dottedParts (s : List Char) : List (List Char) :=
  let parts := splitAt '.' s
  if parts.getLast? = some [] then parts.dropLast else parts

/-- A dotted name that can only be a short address: its last part is a number. -/
def endsInNumber (s : List Char) : Bool :=
  match (dottedParts s).getLast? with
  | none => false
  | some last =>
      (!last.isEmpty && last.all fun c => (Text.digitValue? c).isSome) ||
        (addressPart? last).isSome

def assembleParts : Nat → List Nat → Option Nat
  | _, [] => none
  | places, [last] => if last < Nat.pow 256 places then some last else none
  | places, part :: rest =>
      if part ≤ 255 then
        (assembleParts (places - 1) rest).map fun value => part * Nat.pow 256 (places - 1) + value
      else none

def shortAddress? (s : List Char) : Option Nat :=
  let parts := dottedParts s
  if 4 < parts.length then none
  else
    match parts.mapM addressPart? with
    | none => none
    | some values => assembleParts 4 values

def shortAddressText (value : Nat) : List Char :=
  Text.decimal (value / 16777216 % 256) ++ '.' :: Text.decimal (value / 65536 % 256) ++
    '.' :: Text.decimal (value / 256 % 256) ++ '.' :: Text.decimal (value % 256)

def plainByte? (s : List Char) : Option Nat :=
  if s.isEmpty || (s.length != 1 && s.head? == some '0') then none
  else (readBase 10 0 s).filter (· ≤ 255)

/-- The two groups of a short address at the end of a long one. -/
def embeddedGroups? (s : List Char) : Option (List Nat) :=
  match (splitAt '.' s).mapM plainByte? with
  | some [a, b, c, d] => some [a * 256 + b, c * 256 + d]
  | _ => none

def group? (s : List Char) : Option Nat :=
  if s.isEmpty || decide (4 < s.length) then none else readBase 16 0 s

/-- The groups of pieces between colons; the last piece may be a short address. -/
def groups? (embedded : Bool) : List (List Char) → Option (List Nat)
  | [] => some []
  | [last] =>
      if embedded && last.contains '.' then embeddedGroups? last else (group? last).map ([·])
  | piece :: rest =>
      match group? piece, groups? embedded rest with
      | some value, some values => some (value :: values)
      | _, _ => none

def groupsOf? (embedded : Bool) (s : List Char) : Option (List Nat) :=
  if s.isEmpty then some [] else groups? embedded (splitAt ':' s)

def splitDoubleColon? : List Char → Option (List Char × List Char)
  | ':' :: ':' :: rest => some ([], rest)
  | c :: rest => (splitDoubleColon? rest).map fun found => (c :: found.1, found.2)
  | [] => none

def longAddress? (s : List Char) : Option (List Nat) :=
  match splitDoubleColon? s with
  | none => (groupsOf? true s).filter fun groups => groups.length == 8
  | some (before, after) =>
      match groupsOf? false before, groupsOf? true after with
      | some front, some back =>
          if front.length + back.length ≤ 7 then
            some (front ++ List.replicate (8 - front.length - back.length) 0 ++ back)
          else none
      | _, _ => none

/-- The start and length of the longest run of zero groups, the first of those; the arguments are
the best run so far, and the index of the next group. -/
def longestRun : Nat × Nat → Nat → List Nat → Nat × Nat
  | best, _, [] => best
  | best, index, groups@(_ :: rest) =>
      let length := (groups.takeWhile (· == 0)).length
      longestRun (if best.2 < length then (index, length) else best) (index + 1) rest

def joinGroups : List Nat → List Char
  | [] => []
  | [last] => Text.hexadecimal last
  | value :: rest => Text.hexadecimal value ++ ':' :: joinGroups rest

/-- The text of a long address; the longest run of at least two zero groups is left out. -/
def longAddressText (groups : List Nat) : List Char :=
  let run := longestRun (0, 0) 0 groups
  if run.2 < 2 then joinGroups groups
  else joinGroups (groups.take run.1) ++ ':' :: ':' :: joinGroups (groups.drop (run.1 + run.2))

end AsmDiagnostics.Uri
