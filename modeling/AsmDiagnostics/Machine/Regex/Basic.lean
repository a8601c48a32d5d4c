import AsmDiagnostics.Machine.Shell.Expansion

/-!
# Regular expressions

A regular expression finds the leftmost place in a text where it fits, and there the longest text
that it fits. Of several ways to fit the same text, the one counts in which the parts from the left
are the longest.
-/

namespace AsmDiagnostics.Machine

inductive Regex where
  | empty
  | char (c : Char)
  | anyChar
  /-- A character out of a set, or out of none of its members. -/
  | oneOf (isNegated : Bool) (members : List Member)
  | lineStart
  | lineEnd
  | textStart
  | textEnd
  /-- The edge of a word: its start, its end. -/
  | wordEdge (atStart atEnd : Bool)
  /-- A place that is no edge of a word. -/
  | noEdge
  | sequence (first second : Regex)
  | choice (first second : Regex)
  | group (number : Nat) (body : Regex)
  /-- What a group has fitted, once more. -/
  | again (number : Nat)
  | repeated (body : Regex) (least : Nat) (most? : Option Nat)
  deriving Repr

namespace Regex

structure Subject where
  text : Array Char
  /-- Capitals are as good as small letters. -/
  ignoresCase : Bool
  /-- A newline ends a line of the text. -/
  hasLines : Bool

/-- Where an attempt stands: a position and what the groups have fitted. -/
structure Attempt where
  position : Nat
  groups : List (Nat × Nat × Nat)
  deriving DecidableEq, Repr

namespace Subject

def char? (s : Subject) (position : Nat) : Option Char := s.text[position]?

def before? (s : Subject) (position : Nat) : Option Char :=
  if position = 0 then none else s.text[position - 1]?

def alike (s : Subject) (a b : Char) : Bool :=
  a == b || (s.ignoresCase && a.toLower == b.toLower)

def belongs (s : Subject) (members : List Member) (c : Char) : Bool :=
  let holds := fun d : Char => members.any fun member => member.holds d
  holds c || (s.ignoresCase && (holds c.toLower || holds c.toUpper))

def repeats (s : Subject) (first second : Nat) : Nat → Bool
  | 0 => true
  | length + 1 =>
      match s.char? first, s.char? second with
      | some a, some b => s.alike a b && repeats s (first + 1) (second + 1) length
      | _, _ => false

end Subject

def inWord (c : Char) : Bool := c.isAlphanum || c == '_'

def Attempt.group? (a : Attempt) (number : Nat) : Option (Nat × Nat) :=
  (a.groups.find? fun entry => entry.1 = number).map Prod.snd

def Attempt.withGroup (a : Attempt) (number first last : Nat) : Attempt :=
  { a with groups := (number, first, last) :: a.groups.filter fun entry => entry.1 ≠ number }

def distinct : List Attempt → List Attempt
  | a :: b :: rest =>
      if a.position = b.position then distinct (a :: rest) else a :: distinct (b :: rest)
  | few => few
termination_by all => all.length

def ranked (attempts : List Attempt) : List Attempt :=
  match attempts with
  | [] => []
  | [only] => [only]
  | _ => distinct (attempts.mergeSort fun a b => decide (b.position ≤ a.position))

mutual

/-- The ways in which an expression fits from an attempt on, the longest first. -/
def attempts (s : Subject) : Nat → Regex → Attempt → List Attempt
  | 0, _, _ => []
  | bound + 1, regex, a =>
      let step := fun (p : Char → Bool) =>
        match s.char? a.position with
        | some c => if p c then [{ a with position := a.position + 1 }] else []
        | none => []
      let keep := fun condition : Bool => if condition then [a] else []
      let atWordStart := (s.char? a.position).any inWord && !(s.before? a.position).any inWord
      let atWordEnd := (s.before? a.position).any inWord && !(s.char? a.position).any inWord
      match regex with
      | .empty => [a]
      | .char c => step (s.alike c)
      | .anyChar => step fun _ => true
      | .oneOf isNegated members => step fun c => s.belongs members c != isNegated
      | .lineStart =>
          keep (a.position = 0 || (s.hasLines && s.before? a.position == some '\n'))
      | .lineEnd =>
          keep (a.position = s.text.size || (s.hasLines && s.char? a.position == some '\n'))
      | .textStart => keep (a.position = 0)
      | .textEnd => keep (a.position = s.text.size)
      | .wordEdge atStart atEnd => keep ((atStart && atWordStart) || (atEnd && atWordEnd))
      | .noEdge => keep (!atWordStart && !atWordEnd)
      | .sequence first second =>
          ranked ((attempts s bound first a).flatMap (attempts s bound second))
      | .choice first second => ranked (attempts s bound first a ++ attempts s bound second a)
      | .group number body =>
          (attempts s bound body a).map fun b => b.withGroup number a.position b.position
      | .again number =>
          match a.group? number with
          | none => []
          | some (first, last) =>
              if s.repeats first a.position (last - first) then
                [{ a with position := a.position + (last - first) }]
              else []
      | .repeated body least most? => ranked (repetitions s bound body least most? [a])

/-- The ways in which an expression fits again and again from attempts on; each time must go on
beyond the places before, once it is often enough. -/
def repetitions (s : Subject) : Nat → Regex → Nat → Option Nat → List Attempt → List Attempt
  | 0, _, _, _, _ => []
  | bound + 1, body, least, most?, current =>
      if current.isEmpty then []
      else
        let done := if least = 0 then current else []
        if most? = some 0 then done
        else
          let next := ranked (current.flatMap (attempts s bound body))
          let moved := if least = 0 then
              next.filter fun b => !current.any fun a => a.position = b.position
            else next
          done ++ repetitions s bound body (least - 1) (most?.map (· - 1)) moved

end

def weight : Regex → Nat
  | .sequence first second => weight first + weight second + 1
  | .choice first second => weight first + weight second + 1
  | .group _ body => weight body + 1
  | .repeated body least _ => weight body + least + 3
  | _ => 1

def depth (regex : Regex) (size : Nat) : Nat := (size + 4) * (weight regex + 1)

/-- The first place from a position on where an expression fits in a way that is accepted, and the
longest such text there. -/
def find? (regex : Regex) (s : Subject) (depth : Nat) (accept : Nat → Nat → Bool) :
    Nat → Nat → Option (Nat × Attempt)
  | 0, _ => none
  | count + 1, position =>
      match (attempts s depth regex ⟨position, []⟩).find? fun a => accept position a.position with
      | some first => some (position, first)
      | none => find? regex s depth accept count (position + 1)

/-- What an expression has fitted: the ends of the whole, and the attempt with the groups. -/
structure Found where
  first : Nat
  last : Nat
  attempt : Attempt
  deriving Repr

def searchFor? (regex : Regex) (s : Subject) (accept : Nat → Nat → Bool) (position : Nat) :
    Option Found :=
  if s.text.size < position then none
  else
    (find? regex s (depth regex s.text.size) accept (s.text.size + 1 - position) position).map
      fun (first, attempt) => ⟨first, attempt.position, attempt⟩

def search? (regex : Regex) (s : Subject) (position : Nat) : Option Found :=
  regex.searchFor? s (fun _ _ => true) position

def Subject.slice (s : Subject) (first last : Nat) : List Char := (s.text.extract first last).toList

/-- What a group has fitted; the whole has the number zero. -/
def Found.text (f : Found) (s : Subject) (number : Nat) : List Char :=
  if number = 0 then s.slice f.first f.last
  else
    match f.attempt.group? number with
    | some (first, last) => s.slice first last
    | none => []

end Regex

end AsmDiagnostics.Machine
