import AsmDiagnostics.Machine.Shell.Basic

/-!
# Fields

What becomes of an expanded word. Its characters are marked by where they come from: separators that
come from an unquoted expansion end fields, and unquoted stars, question marks and brackets make a
field a pattern for the names of files.
-/

namespace AsmDiagnostics.Machine

/-- A character of an expanded word, or a sign between characters. -/
inductive Mark where
  /-- A quoted character. -/
  | kept (c : Char)
  /-- A character of the script itself, unquoted. -/
  | plain (c : Char)
  /-- A character of an unquoted expansion. -/
  | soft (c : Char)
  /-- There is a field here, even if it is empty. -/
  | anchor
  /-- A field ends here. -/
  | gap
  deriving DecidableEq, Repr

namespace Mark

def char? : Mark → Option Char
  | .kept c => some c
  | .plain c => some c
  | .soft c => some c
  | .anchor => none
  | .gap => none

def textOf (marks : List Mark) : List Char := marks.filterMap char?

def softened : Mark → Mark
  | .plain c => .soft c
  | other => other

def ofText (quoted : Bool) (text : List Char) : List Mark :=
  if quoted then text.map kept else text.map soft

inductive Separation where
  | none
  /-- A blank, of which several are as good as one. -/
  | blank
  /-- A sign of which each ends a field. -/
  | sign
  /-- The end of a field, if there is anything in it. -/
  | gap
  deriving DecidableEq

def separation (separators : List Char) : Mark → Separation
  | .soft c =>
      if !separators.contains c then .none
      else if c == ' ' || c == '\t' || c == '\n' then .blank
      else .sign
  | .gap => .gap
  | _ => .none

structure Division where
  /-- The fields that are complete, the latest first. -/
  done : List (List Mark)
  /-- The field at hand in reverse. -/
  current : List Mark
  /-- The last field ended with a blank, so that a sign behind it belongs to that end. -/
  isOpen : Bool

def Division.step (separators : List Char) (d : Division) (m : Mark) : Division :=
  match m.separation separators with
  | .none => ⟨d.done, m :: d.current, false⟩
  | .blank =>
      if d.current.isEmpty then d else ⟨d.current.reverse :: d.done, [], true⟩
  | .sign =>
      if d.current.isEmpty && d.isOpen then ⟨d.done, [], false⟩
      else ⟨d.current.reverse :: d.done, [], false⟩
  | .gap => if d.current.isEmpty then ⟨d.done, [], false⟩ else ⟨d.current.reverse :: d.done, [], false⟩

def fields (separators : List Char) (marks : List Mark) : List (List Mark) :=
  let d := marks.foldl (Division.step separators) ⟨[], [], false⟩
  (if d.current.isEmpty then d.done else d.current.reverse :: d.done).reverse

def isActive : Mark → Bool
  | .plain c => c == '*' || c == '?' || c == '['
  | .soft c => c == '*' || c == '?' || c == '['
  | _ => false

def isBare (c : Char) (m : Mark) : Bool := m == .plain c || m == .soft c

def parts : List Mark → List (List Mark)
  | [] => [[]]
  | m :: rest =>
      if m.char? == some '/' then [] :: parts rest
      else
        match parts rest with
        | [] => [[m]]
        | first :: others => (m :: first) :: others

end Mark

def characterClass? (name : String) : Option (Char → Bool) :=
  let isGraphic := fun c : Char => 33 ≤ c.toNat && c.toNat ≤ 126
  let isBlank := fun c : Char => c == ' ' || c == '\t'
  match name with
  | "alpha" => some Char.isAlpha
  | "digit" => some Char.isDigit
  | "alnum" => some Char.isAlphanum
  | "upper" => some Char.isUpper
  | "lower" => some Char.isLower
  | "space" => some fun c => c == ' ' || (9 ≤ c.toNat && c.toNat ≤ 13)
  | "blank" => some isBlank
  | "punct" => some fun c => isGraphic c && !c.isAlphanum
  | "print" => some fun c => isGraphic c || c == ' '
  | "graph" => some isGraphic
  | "cntrl" => some fun c => c.toNat < 32 || c.toNat == 127
  | "xdigit" => some fun c => (Text.hexValue? c).isSome
  | _ => none

inductive Member where
  | range (first last : Char)
  | named (name : String)
  deriving DecidableEq, Repr

def Member.holds (c : Char) : Member → Bool
  | .range first last => first ≤ c && c ≤ last
  | .named name => (characterClass? name).any fun p => p c

inductive Pattern where
  | char (c : Char)
  | anyChar
  | anyText
  /-- One character out of a set, or out of none of its members. -/
  | oneOf (isNegated : Bool) (members : List Member)
  deriving DecidableEq, Repr

namespace Pattern

def className? (marks : List Mark) : Option (String × List Mark) :=
  match marks with
  | first :: second :: rest =>
      if first.isBare '[' && second.isBare ':' then
        let name := rest.takeWhile fun m => m.char?.any Char.isLower
        match rest.drop name.length with
        | colon :: bracket :: after =>
            let text := String.ofList (Mark.textOf name)
            if colon.isBare ':' && bracket.isBare ']' && (characterClass? text).isSome then
              some (text, after)
            else none
        | _ => none
      else none
  | _ => none

/-- The members of a set up to its closing bracket, and the marks behind it; a bracket at the front
is a member. -/
def members : Nat → Bool → List Mark → Option (List Member × List Mark)
  | 0, _, _ => none
  | _ + 1, _, [] => none
  | bound + 1, isFront, m :: rest =>
      if m.isBare ']' && !isFront then some ([], rest)
      else
        match className? (m :: rest) with
        | some (name, after) =>
            (members bound false after).map fun (others, last) => (.named name :: others, last)
        | none =>
            match m.char?, rest with
            | none, _ => members bound isFront rest
            | some a, dash :: second :: after =>
                match second.char? with
                | some b =>
                    if dash.isBare '-' && !second.isBare ']' then
                      (members bound false after).map fun (others, last) =>
                        (.range a b :: others, last)
                    else
                      (members bound false rest).map fun (others, last) =>
                        (.range a a :: others, last)
                | none =>
                    (members bound false rest).map fun (others, last) =>
                      (.range a a :: others, last)
            | some a, _ =>
                (members bound false rest).map fun (others, last) => (.range a a :: others, last)

def ofMarks : Nat → List Mark → List Pattern
  | 0, _ => []
  | _ + 1, [] => []
  | bound + 1, m :: rest =>
      match m.char? with
      | none => ofMarks bound rest
      | some c =>
          if !m.isActive then .char c :: ofMarks bound rest
          else if c = '*' then .anyText :: ofMarks bound rest
          else if c = '?' then .anyChar :: ofMarks bound rest
          else
            let isNegated := rest.head?.any (Mark.isBare '!')
            match members (rest.length + 1) true (if isNegated then rest.drop 1 else rest) with
            | some (all, after) => .oneOf isNegated all :: ofMarks bound after
            | none => .char '[' :: ofMarks bound rest

def fits : List Pattern → List Char → Bool
  | [], s => s.isEmpty
  | .char c :: rest, s =>
      match s with
      | d :: after => c == d && fits rest after
      | [] => false
  | .anyChar :: rest, s =>
      match s with
      | _ :: after => fits rest after
      | [] => false
  | .oneOf isNegated all :: rest, s =>
      match s with
      | d :: after => (all.any fun member => member.holds d) != isNegated && fits rest after
      | [] => false
  | .anyText :: rest, s => (List.range (s.length + 1)).any fun n => fits rest (s.drop n)

/-- A text without what fits a pattern at one of its ends: the longest such part, or the shortest. -/
def trimmed (pattern : List Pattern) (atEnd longest : Bool) (s : List Char) : List Char :=
  let sizes := List.range (s.length + 1)
  let part := fun n => if atEnd then s.drop (s.length - n) else s.take n
  match (if longest then sizes.reverse else sizes).find? fun n => fits pattern (part n) with
  | some n => if atEnd then s.take (s.length - n) else s.drop n
  | none => s

end Pattern

def Mark.pattern (marks : List Mark) : List Pattern := Pattern.ofMarks (marks.length + 1) marks

def Pattern.ofText (text : List Char) : List Pattern := Mark.pattern (marked text)
where
  /-- The marks of such a text. -/
  marked : List Char → List Mark
    | [] => []
    | '\\' :: c :: rest => .kept c :: marked rest
    | c :: rest => .plain c :: marked rest

namespace Shell

/-- The names in a folder that fit a pattern, in the order of their bytes; a name that begins with a
dot fits only if the pattern says so. -/
def namesFitting (files : Files) (place : Place) (pattern : List Pattern) : List (List Char) :=
  let hidden := pattern.head? == some (.char '.')
  let names := (files.namesIn place).map Text.ofOctets ++
    (if hidden then [['.'], ['.', '.']] else [])
  (names.filter fun name =>
    (hidden || name.head? != some '.') && Pattern.fits pattern name).mergeSort
    Text.precedes

/-- The paths that the parts of a pattern lead to, each behind the text of the path so far. -/
def pathsFitting (files : Files) (folder : Place) : List Char → List (List Mark) → List (List Char)
  | _, [] => []
  | front, [last] =>
      let text := front ++ Mark.textOf last
      if last.any Mark.isActive then
        match files.resolve? folder ⟨Text.octets (if front.isEmpty then ['.'] else front)⟩ with
        | none => []
        | some place => (namesFitting files place (Mark.pattern last)).map (front ++ ·)
      else if (files.resolve? folder ⟨Text.octets text⟩).isSome then [text] else []
  | front, part :: rest =>
      if part.any Mark.isActive then
        match files.resolve? folder ⟨Text.octets (if front.isEmpty then ['.'] else front)⟩ with
        | none => []
        | some place =>
            (namesFitting files place (Mark.pattern part)).flatMap fun name =>
              let next := front ++ name
              if (files.resolve? folder ⟨Text.octets next⟩).any files.isFolder then
                pathsFitting files folder (next ++ ['/']) rest
              else []
      else pathsFitting files folder (front ++ Mark.textOf part ++ ['/']) rest

def filesOf (sh : Shell) (field : List Mark) : List (List Char) :=
  if field.any Mark.isActive && !sh.has 'f' then
    match pathsFitting sh.machine.files sh.folder [] (Mark.parts field) with
    | [] => [Mark.textOf field]
    | paths => paths
  else [Mark.textOf field]

def fieldsOf (sh : Shell) (marks : List Mark) : List (List Char) :=
  (Mark.fields sh.separators marks).flatMap sh.filesOf

def homeOf? (sh : Shell) (name : List Char) : Option (List Char) :=
  if name.isEmpty then sh.valueOf? "HOME".toList
  else if name = "root".toList then some "/root".toList
  else none

def expandTilde (sh : Shell) (inAssignment : Bool) (marks : List Mark) : List Mark :=
  match marks with
  | .plain '~' :: rest =>
      let ends := fun m : Mark => m == .plain '/' || (inAssignment && m == .plain ':')
      let name := rest.takeWhile fun m => !ends m
      let isPlain := name.all fun m =>
        match m with
        | .plain _ => true
        | _ => false
      match if isPlain then sh.homeOf? (Mark.textOf name) else none with
      | some folder => folder.map Mark.kept ++ rest.drop name.length
      | none => marks
  | _ => marks

/-- The marks of the value of an assignment: a tilde may also stand behind a colon. -/
def expandTildes (sh : Shell) : Nat → List Mark → List Mark
  | 0, marks => marks
  | bound + 1, marks =>
      let first := marks.takeWhile (· != .plain ':')
      match marks.drop first.length with
      | [] => sh.expandTilde true first
      | colon :: rest => sh.expandTilde true first ++ colon :: sh.expandTildes bound rest

end Shell

end AsmDiagnostics.Machine
