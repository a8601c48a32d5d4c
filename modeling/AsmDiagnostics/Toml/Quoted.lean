import AsmDiagnostics.Text.Digit

/-!
# Quoted text in TOML

A basic string has escapes, a literal one has none. Between single quotes of either kind a string
stays on its line; between triple ones it may span lines, a newline right behind the opening quotes
does not count, and a backslash at the end of a line takes the blanks that follow with it.
-/

namespace AsmDiagnostics.Toml

/-- A character that may stand in a comment or, unescaped, in a string. -/
def isPlain (c : Char) : Bool := c == '\t' || (0x20 ≤ c.toNat && c.toNat != 0x7F)

def charOf? (n : Nat) : Option Char :=
  if n < 0xD800 ∨ (0xDFFF < n ∧ n < 0x110000) then some (Char.ofNat n) else none

def hexChar? (count : Nat) (s : List Char) : Option (Char × List Char) :=
  let digits := s.take count
  if digits.length = count then
    match digits.mapM Text.hexValue? with
    | some values =>
        (charOf? (values.foldl (fun n d => 16 * n + d) 0)).map fun c => (c, s.drop count)
    | none => none
  else none

def escape? (s : List Char) : Option (Char × List Char) :=
  match s with
  | 'b' :: rest => some ('\x08', rest)
  | 't' :: rest => some ('\t', rest)
  | 'n' :: rest => some ('\n', rest)
  | 'f' :: rest => some ('\x0c', rest)
  | 'r' :: rest => some ('\r', rest)
  | 'e' :: rest => some ('\x1b', rest)
  | '"' :: rest => some ('"', rest)
  | '\\' :: rest => some ('\\', rest)
  | 'x' :: rest => hexChar? 2 rest
  | 'u' :: rest => hexChar? 4 rest
  | 'U' :: rest => hexChar? 8 rest
  | _ => none

def afterNewline? : List Char → Option (List Char)
  | '\n' :: rest => some rest
  | '\r' :: '\n' :: rest => some rest
  | _ => none

def isBlank (c : Char) : Bool := c == ' ' || c == '\t'

def skipSpace : List Char → List Char
  | '\r' :: '\n' :: rest => skipSpace rest
  | c :: rest => if isBlank c || c == '\n' then skipSpace rest else c :: rest
  | [] => []

def afterContinuation? (s : List Char) : Option (List Char) :=
  (afterNewline? (s.dropWhile isBlank)).map skipSpace

def lineString? (quote : Char) : Nat → List Char → Option (List Char × List Char)
  | 0, _ => none
  | _ + 1, [] => none
  | bound + 1, c :: rest =>
      if c = quote then some ([], rest)
      else if c = '\\' ∧ quote = '"' then do
        let (d, after) ← escape? rest
        let (text, last) ← lineString? quote bound after
        some (d :: text, last)
      else if isPlain c then (lineString? quote bound rest).map fun r => (c :: r.1, r.2)
      else none

/-- The end of a string of several lines, at its quotes: up to two of them belong to the string. -/
def closing? (quote : Char) (s : List Char) : Option (List Char × List Char) :=
  let count := (s.takeWhile (· == quote)).length
  if count < 3 then none
  else
    let inside := min (count - 3) 2
    some (List.replicate inside quote, s.drop (inside + 3))

def linesString? (quote : Char) : Nat → List Char → Option (List Char × List Char)
  | 0, _ => none
  | _ + 1, [] => none
  | bound + 1, c :: rest =>
      match closing? quote (c :: rest) with
      | some result => some result
      | none =>
          match afterNewline? (c :: rest) with
          | some after => (linesString? quote bound after).map fun r => ('\n' :: r.1, r.2)
          | none =>
              if c = '\\' ∧ quote = '"' then
                match afterContinuation? rest with
                | some after => linesString? quote bound after
                | none => do
                    let (d, after) ← escape? rest
                    let (text, last) ← linesString? quote bound after
                    some (d :: text, last)
              else if isPlain c then (linesString? quote bound rest).map fun r => (c :: r.1, r.2)
              else none

def lineQuoted? (s : List Char) : Option (List Char × List Char) :=
  match s with
  | '"' :: rest => lineString? '"' (rest.length + 1) rest
  | '\'' :: rest => lineString? '\'' (rest.length + 1) rest
  | _ => none

def quoted? (s : List Char) : Option (List Char × List Char) :=
  match s with
  | '"' :: '"' :: '"' :: rest =>
      linesString? '"' (rest.length + 1) ((afterNewline? rest).getD rest)
  | '\'' :: '\'' :: '\'' :: rest =>
      linesString? '\'' (rest.length + 1) ((afterNewline? rest).getD rest)
  | _ => lineQuoted? s

end AsmDiagnostics.Toml
