import AsmDiagnostics.Uri.Percent

/-!
# The path of a URI

The path is built segment by segment. A segment of two dots takes away the segment before it, one of
a single dot takes away nothing, and both may be percent-encoded. In a special scheme a backslash
ends a segment as a slash does. A path of files starts with one slash, however many are written, and
may start with a drive letter, which is never taken away. A pause, where a tab or newline was dropped
from the text, ends a drive letter as a slash does.
-/

namespace AsmDiagnostics.Uri

inductive SchemeKind where
  | file
  /-- A scheme with a host and a default port. -/
  | special
  | other
  deriving DecidableEq, Repr

def SchemeKind.isSpecial : SchemeKind → Bool
  | .other => false
  | _ => true

def isLetter (c : Char) : Bool := c.isAlpha

def isDriveLetter : List Char → Bool
  | [c, d] => isLetter c && (d == ':' || d == '|')
  | _ => false

def isPlainDriveLetter : List Char → Bool
  | [c, d] => isLetter c && d == ':'
  | _ => false

def startsWithDriveLetter : List Char → Bool
  | [c, d] => isDriveLetter [c, d]
  | c :: d :: e :: _ => isDriveLetter [c, d] && ['/', '\\', '?', '#'].contains e
  | _ => false

def upSegments : List String :=
  ["..", "%2e%2e", "%2e%2E", "%2E%2e", "%2E%2E", "%2e.", "%2E.", ".%2e", ".%2E"]

def hereSegments : List String := [".", "%2e", "%2E"]

def throughLastSlash (s : List Char) : List Char := (s.reverse.dropWhile (· != '/')).reverse

def afterLastSlash (s : List Char) : List Char := (s.reverse.takeWhile (· != '/')).reverse

/-- The slash at the end of a path may go: it is not the first one, nor that of a drive letter. -/
def lastSlashIsFree (path : List Char) : Bool :=
  let before := path.dropLast
  before.contains '/' && !startsWithDriveLetter (afterLastSlash before ++ ['/'])

/-- The path without its last segment; a drive letter stays. -/
def dropSegment (kind : SchemeKind) (path : List Char) : List Char :=
  if kind = .file ∧ isPlainDriveLetter (afterLastSlash path) then path else throughLastSlash path

def goUp (kind : SchemeKind) (path : List Char) (slash : Bool) : List Char :=
  let trimmed :=
    if path.getLast? = some '/' ∧ lastSlashIsFree path then path.dropLast else path
  let shorter := dropSegment kind trimmed
  if slash && shorter.getLast? != some '/' then shorter ++ ['/'] else shorter

/-- A path under construction, and whether the host before it still stands. -/
structure Pathname where
  text : List Char
  hasHost : Bool

def Pathname.add (kind : SchemeKind) (p : Pathname) (segment : List Char) (slash : Bool) :
    Pathname :=
  if upSegments.contains (String.ofList segment) then { p with text := goUp kind p.text slash }
  else if hereSegments.contains (String.ofList segment) then
    { p with text := if p.text.getLast? = some '/' then p.text else p.text ++ ['/'] }
  else
    let ending := if slash then ['/'] else []
    if kind = .file ∧ p.text.length = 1 ∧ isDriveLetter segment then
      ⟨p.text ++ segment.take 1 ++ ':' :: ending, false⟩
    else { p with text := p.text ++ segment ++ ending }

abbrev Pauses := List Nat

/-- A drive letter at the front of a path of files, given in reverse, behind which there is a
pause. -/
def pausedDriveLetter? (kind : SchemeKind) (p : Pathname) (segment : List Char) (isPause : Bool) :
    Option Char :=
  match segment with
  | [':', letter] =>
      if kind = .file ∧ p.text.length = 1 ∧ isPause ∧ isLetter letter then some letter else none
  | _ => none

/-- Reads segments up to a question mark, a number sign or the end; `segment` holds the characters
of the current one in reverse. -/
def Pathname.read (kind : SchemeKind) (pauses : Pauses) :
    Pathname → List Char → List Char → Pathname × List Char
  | p, segment, [] => (p.add kind (percentEncode pathSet segment.reverse) false, [])
  | p, segment, c :: rest =>
      if c = '/' ∨ (c = '\\' ∧ kind.isSpecial) then
        Pathname.read kind pauses (p.add kind (percentEncode pathSet segment.reverse) true) [] rest
      else if c = '?' ∨ c = '#' then
        (p.add kind (percentEncode pathSet segment.reverse) false, c :: rest)
      else
        match pausedDriveLetter? kind p segment (pauses.contains (rest.length + 1)) with
        | some letter =>
            Pathname.read kind pauses { p with text := p.text ++ [letter] } [c, '/', ':'] rest
        | none => Pathname.read kind pauses p (c :: segment) rest

def readPath (kind : SchemeKind) (pauses : Pauses) (hasHost : Bool) (start input : List Char) :
    Pathname × List Char :=
  let result := Pathname.read kind pauses ⟨start, hasHost⟩ [] input
  if kind = .file then
    ({ result.1 with text := '/' :: result.1.text.dropWhile (· == '/') }, result.2)
  else result

/-- The path behind a host, and what follows it. A special scheme always has a path. -/
def readPathAfterHost (kind : SchemeKind) (pauses : Pauses) (hasHost : Bool) (input : List Char) :
    Pathname × List Char :=
  match input with
  | [] => if kind.isSpecial then readPath kind pauses hasHost ['/'] [] else (⟨[], hasHost⟩, [])
  | c :: rest =>
      if kind.isSpecial then
        if c = '/' ∨ c = '\\' then readPath kind pauses hasHost ['/'] rest
        else readPath kind pauses hasHost ['/'] (c :: rest)
      else if c = '?' ∨ c = '#' then (⟨[], hasHost⟩, c :: rest)
      else if c = '/' then readPath kind pauses hasHost [] (c :: rest)
      else readPath kind pauses hasHost ['/'] (c :: rest)

end AsmDiagnostics.Uri
