/-!
# Options

How programs read their arguments: options of one letter, of which several may stand behind one
dash, and options with a long name, which may be cut short. An option may take an argument of its
own. All else is an operand.
-/

namespace AsmDiagnostics.Machine

inductive Extra where
  | never
  | always
  /-- Only one that stands right behind it. -/
  | sometimes
  deriving DecidableEq, Repr

structure OptionKind where
  letter : Char
  long : String
  extra : Extra
  deriving DecidableEq, Repr

/-- The arguments of a program: its options with their arguments, and the operands. -/
structure Given where
  options : List (Char × Option (List Char))
  operands : List (List Char)
  deriving DecidableEq, Repr

namespace Given

def has (g : Given) (letter : Char) : Bool := g.options.any fun option => option.1 == letter

def argument? (g : Given) (letter : Char) : Option (List Char) :=
  (g.options.reverse.find? fun option => option.1 == letter).bind Prod.snd

def arguments (g : Given) (letter : Char) : List (List Char) :=
  (g.options.filter fun option => option.1 == letter).filterMap Prod.snd

def last? (g : Given) (letters : String) : Option Char :=
  (g.options.reverse.find? fun option => letters.toList.contains option.1).map Prod.fst

def withOption (g : Given) (letter : Char) (argument? : Option (List Char)) : Given :=
  { g with options := (letter, argument?) :: g.options }

def withOperand (g : Given) (operand : List Char) : Given :=
  { g with operands := operand :: g.operands }

end Given

def OptionKind.flags (letters : String) : List OptionKind :=
  letters.toList.map fun c => ⟨c, "", .never⟩

def OptionKind.values (letters : String) : List OptionKind :=
  letters.toList.map fun c => ⟨c, "", .always⟩

/-- Reads arguments; when `stops`, all that follows the first operand is an operand. What is wrong
is told by a text. -/
def readOptions (kinds : List OptionKind) (stops : Bool) :
    Nat → List (List Char) → Except (List Char) Given
  | 0, rest => .ok ⟨[], rest⟩
  | _ + 1, [] => .ok ⟨[], []⟩
  | bound + 1, first :: rest =>
      match first with
      | ['-', '-'] => .ok ⟨[], rest⟩
      | '-' :: '-' :: text => long bound text rest
      | '-' :: c :: more => short bound c more rest
      | _ =>
          if stops then .ok ⟨[], first :: rest⟩
          else (readOptions kinds stops bound rest).map fun g => g.withOperand first
where
  /-- Reads an option with a long name. -/
  long (bound : Nat) (text : List Char) (rest : List (List Char)) : Except (List Char) Given :=
    let name := text.takeWhile (· != '=')
    let argument? := if text.contains '=' then some (text.drop (name.length + 1)) else none
    let exact := kinds.filter fun kind => !name.isEmpty && kind.long.toList == name
    let found := if exact.isEmpty then
        kinds.filter fun kind => !kind.long.isEmpty && name.isPrefixOf kind.long.toList
      else exact
    match found with
    | [kind] =>
        let spelled := "option '--".toList ++ kind.long.toList
        match kind.extra, argument? with
        | .never, some _ => .error (spelled ++ "' doesn't allow an argument".toList)
        | .always, none =>
            match rest with
            | [] => .error (spelled ++ "' requires an argument".toList)
            | value :: others =>
                (readOptions kinds stops bound others).map fun g =>
                  g.withOption kind.letter (some value)
        | _, _ =>
            (readOptions kinds stops bound rest).map fun g => g.withOption kind.letter argument?
    | [] => .error ("unrecognized option '--".toList ++ text ++ ['\''])
    | several =>
        let possible := several.flatMap fun kind => (" '--" ++ kind.long ++ "'").toList
        .error ("option '--".toList ++ text ++ "' is ambiguous; possibilities:".toList ++ possible)
  /-- Reads an option of one letter, and those behind the same dash. -/
  short (bound : Nat) (c : Char) (more : List Char) (rest : List (List Char)) :
      Except (List Char) Given :=
    match kinds.find? fun kind => kind.letter == c with
    | none => .error ("invalid option -- '".toList ++ [c, '\''])
    | some kind =>
        match kind.extra with
        | .never =>
            let others := if more.isEmpty then rest else ('-' :: more) :: rest
            if more.head? == some '-' then .error "invalid option -- '-'".toList
            else (readOptions kinds stops bound others).map fun g => g.withOption c none
        | .sometimes =>
            (readOptions kinds stops bound rest).map fun g =>
              g.withOption c (if more.isEmpty then none else some more)
        | .always =>
            if !more.isEmpty then
              (readOptions kinds stops bound rest).map fun g => g.withOption c (some more)
            else
              match rest with
              | [] => .error ("option requires an argument -- '".toList ++ [c, '\''])
              | value :: others =>
                  (readOptions kinds stops bound others).map fun g => g.withOption c (some value)

def Given.bound (arguments : List (List Char)) : Nat := arguments.flatten.length + arguments.length + 1

/-- Reads arguments, options and operands in any order. -/
def Given.ofArguments (kinds : List OptionKind) (arguments : List (List Char)) :
    Except (List Char) Given :=
  readOptions kinds false (bound arguments) arguments

def Given.ofLeading (kinds : List OptionKind) (arguments : List (List Char)) :
    Except (List Char) Given :=
  readOptions kinds true (bound arguments) arguments

end AsmDiagnostics.Machine
