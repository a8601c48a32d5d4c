/-!
# Scripts

The commands that a shell understands. Texts are sequences of characters that stand for bytes. A
word is a sequence of pieces that are expanded when its command is performed; what comes from a
quoted piece is neither split into fields nor read as a pattern.
-/

namespace AsmDiagnostics.Machine

inductive RedirectionKind where
  /-- Reads the file. -/
  | read
  /-- Writes the file anew, unless files are kept from that. -/
  | write
  /-- Writes the file anew in any case. -/
  | overwrite
  /-- Writes at the end of the file. -/
  | append
  /-- Reads and writes the file. -/
  | both
  /-- Uses the channel of another number, or closes the channel. -/
  | duplicate
  deriving DecidableEq, Repr

/-- What a word in braces does with a parameter; `emptyCounts` says that an empty parameter counts
as not set. -/
inductive Modifier where
  /-- The word stands in the place of a parameter that is set, or not set as `whenUnset` says. -/
  | substitute (emptyCounts whenUnset : Bool)
  /-- The word becomes the value of a parameter that is not set. -/
  | assign (emptyCounts : Bool)
  /-- A parameter that is not set is a fault, and the word tells about it. -/
  | demand (emptyCounts : Bool)
  /-- What fits the word as a pattern is taken away from an end of the value. -/
  | trim (atEnd longest : Bool)
  deriving DecidableEq, Repr

def Modifier.takesPattern : Modifier → Bool
  | .trim _ _ => true
  | _ => false

mutual

inductive Piece where
  | literal (quoted : Bool) (text : List Char)
  | parameter (quoted : Bool) (name : List Char)
  /-- The length of a parameter. -/
  | length (quoted : Bool) (name : List Char)
  /-- A parameter with a word that does something with it. -/
  | modified (quoted : Bool) (name : List Char) (modifier : Modifier) (word : List Piece)
  /-- Something in braces that has no meaning. -/
  | meaningless
  /-- What a script prints, without newlines at the end. -/
  | output (quoted : Bool) (script : Script)
  | arithmetic (quoted : Bool) (text : List Piece)

inductive Redirection where
  | file (channel : Nat) (kind : RedirectionKind) (target : List Piece)
  /-- The channel reads a document of the script, which is known by its number. -/
  | document (channel number : Nat)

inductive Assignment where
  | mk (name : List Char) (word : List Piece)

inductive Case where
  | mk (patterns : List (List Piece)) (body : Script)

inductive Script where
  | nothing
  /-- A command on a line. -/
  | simple (line : Nat) (assignments : List Assignment) (words : List (List Piece))
      (redirections : List Redirection)
  | sequence (first second : Script)
  | both (first second : Script)
  | either (first second : Script)
  | negated (body : Script)
  /-- Scripts of which each reads what the one before it prints. -/
  | pipe (parts : List Script)
  | background (body : Script)
  | conditional (test body otherwise : Script)
  /-- A loop that goes on as long as its test has the wanted outcome. -/
  | loop (wanted : Bool) (test body : Script)
  /-- A loop over words, or over the arguments. -/
  | each (line : Nat) (name : List Char) (words? : Option (List (List Piece))) (body : Script)
  | choice (line : Nat) (word : List Piece) (cases : List Case)
  /-- A name for a script. -/
  | function (line : Nat) (name : List Char) (body : Script)
  /-- A script in a shell of its own. -/
  | subshell (line : Nat) (body : Script) (redirections : List Redirection)
  | redirected (line : Nat) (body : Script) (redirections : List Redirection)

end

instance : Inhabited Script := ⟨.nothing⟩

end AsmDiagnostics.Machine
