import AsmDiagnostics.Toml.Quoted
import AsmDiagnostics.Toml.Scalar
import AsmDiagnostics.Toml.Table

/-!
# Reading TOML

A document is a sequence of lines: blank ones, keys with values, and headers of tables. The result
is the document as a JSON value, or nothing if the text is not TOML.
-/

namespace AsmDiagnostics.Toml

def afterComment? (s : List Char) : Option (List Char) :=
  match s with
  | '#' :: rest =>
      match rest.dropWhile isPlain with
      | [] => some []
      | after => if (afterNewline? after).isSome then some after else none
  | _ => some s

/-- The text behind the rest of a line, which may hold blanks and a comment. -/
def afterLine? (s : List Char) : Option (List Char) := do
  let rest ← afterComment? (s.dropWhile isBlank)
  match rest with
  | [] => some []
  | _ => afterNewline? rest

def skipLines? : Nat → List Char → Option (List Char)
  | 0, _ => none
  | bound + 1, s =>
      match skipSpace s with
      | '#' :: rest => (afterComment? ('#' :: rest)).bind (skipLines? bound)
      | rest => some rest

def inKey (c : Char) : Bool := c.isAlphanum || c == '_' || c == '-'

def keyPart? (s : List Char) : Option (String × List Char) :=
  match lineQuoted? s with
  | some (text, rest) => some (String.ofList text, rest)
  | none =>
      let text := s.takeWhile inKey
      if text.isEmpty then none else some (String.ofList text, s.dropWhile inKey)

def maxParts : Nat := 80

def parts? : Nat → List Char → Option (List String × String × List Char)
  | 0, _ => none
  | bound + 1, s => do
      let (part, rest) ← keyPart? (s.dropWhile isBlank)
      match rest.dropWhile isBlank with
      | '.' :: after => do
          let (path, last, rest) ← parts? bound after
          some (part :: path, last, rest)
      | rest => some ([], part, rest)

def key? (s : List Char) : Option (List String × String × List Char) := parts? maxParts s

/-- The greatest number of arrays and inline tables around a value. -/
def maxDepth : Nat := 80

mutual

def value? (depth : Nat) : Nat → List Char → Option (Json × List Char)
  | 0, _ => none
  | bound + 1, s =>
      match s with
      | [] => none
      | c :: rest =>
          if c = '"' ∨ c = '\'' then
            (quoted? s).map fun r => (.str (String.ofList r.1), r.2)
          else if c = '[' then
            if maxDepth ≤ depth then none
            else (items? (depth + 1) bound rest).map fun r => (.arr r.1, r.2)
          else if c = '\x7b' then
            if maxDepth ≤ depth then none
            else do
              let (members, after) ← pairs? (depth + 1) bound [] rest
              some (members.json, after)
          else
            let (text, after) := scalarText s
            (scalar? text).map fun value => (value, after)

def items? (depth : Nat) : Nat → List Char → Option (List Json × List Char)
  | 0, _ => none
  | bound + 1, s => do
      let rest ← skipLines? (s.length + 1) s
      match rest with
      | ']' :: after => some ([], after)
      | _ => do
          let (first, rest) ← value? depth bound rest
          let rest ← skipLines? (rest.length + 1) rest
          match rest with
          | ',' :: after => do
              let (others, last) ← items? depth bound after
              some (first :: others, last)
          | ']' :: after => some ([first], after)
          | _ => none

/-- The keys of an inline table up to its closing brace. -/
def pairs? (depth : Nat) : Nat → Members → List Char → Option (Members × List Char)
  | 0, _, _ => none
  | bound + 1, members, s => do
      let rest ← skipLines? (s.length + 1) s
      match rest with
      | '\x7d' :: after => some (members, after)
      | _ => do
          let (path, key, rest) ← key? rest
          let rest ← skipLines? (rest.length + 1) rest
          match rest with
          | '=' :: rest => do
              let rest ← skipLines? (rest.length + 1) rest
              let (value, rest) ← value? depth bound rest
              let members ← members.put? path key value
              let rest ← skipLines? (rest.length + 1) rest
              match rest with
              | ',' :: after => pairs? depth bound members after
              | '\x7d' :: after => some (members, after)
              | _ => none
          | _ => none

end

/-- A document so far: its tables, and the header that the next keys belong to. -/
structure Document where
  members : Members
  header : List String

/-- Reads a header or a key with its value, up to the end of its line. -/
def statement? (d : Document) (s : List Char) : Option (Document × List Char) :=
  match s with
  | '[' :: '[' :: rest => do
      let (path, key, rest) ← key? rest
      let members ← d.members.openArray? path key
      match rest with
      | ']' :: ']' :: after => (afterLine? after).map fun last => (⟨members, path ++ [key]⟩, last)
      | _ => none
  | '[' :: rest => do
      let (path, key, rest) ← key? rest
      let members ← d.members.openTable? path key
      match rest with
      | ']' :: after => (afterLine? after).map fun last => (⟨members, path ++ [key]⟩, last)
      | _ => none
  | _ => do
      let (path, key, rest) ← key? s
      match rest with
      | '=' :: rest => do
          let (value, rest) ← value? 0 (2 * rest.length + 2) (rest.dropWhile isBlank)
          let members ← d.members.putBelow? d.header path key value
          (afterLine? rest).map fun last => (⟨members, d.header⟩, last)
      | _ => none

def statements? : Nat → Document → List Char → Option Document
  | 0, _, _ => none
  | bound + 1, d, s => do
      let rest ← skipLines? (s.length + 1) s
      match rest with
      | [] => some d
      | _ => do
          let (next, last) ← statement? d rest
          statements? bound next last

def withoutMark : List Char → List Char
  | '\uFEFF' :: rest => rest
  | s => s

def parse? (s : List Char) : Option Json :=
  (statements? (s.length + 2) ⟨[], []⟩ (withoutMark s)).map fun d => d.members.json

end AsmDiagnostics.Toml
