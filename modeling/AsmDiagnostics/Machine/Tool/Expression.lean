import AsmDiagnostics.Machine.Numeral
import AsmDiagnostics.Machine.Regex.Reader
import AsmDiagnostics.Machine.Tool.Basic

/-!
# Expressions as arguments

The values of expressions whose symbols are the arguments of a program: numbers of any size, texts,
comparisons, and the beginnings of texts that fit a regular expression.
-/

namespace AsmDiagnostics.Machine.Expression

inductive Fault where
  | missingOperand
  | missingArgument (after : List Char)
  | unexpected (argument : List Char)
  | expectingClosing (after : List Char)
  | notInteger
  | divisionByZero
  | regex (fault : Regex.Fault)

def Fault.text : Fault → List Char
  | .missingOperand => "missing operand".toList
  | .missingArgument after => "syntax error: missing argument after ".toList ++ inQuotes after
  | .unexpected argument => "syntax error: unexpected argument ".toList ++ inQuotes argument
  | .expectingClosing after => "syntax error: expecting ')' after ".toList ++ inQuotes after
  | .notInteger => "non-integer argument".toList
  | .divisionByZero => "division by zero".toList
  | .regex fault => fault.text.toList

structure Work where
  rest : List (List Char)
  last : List Char

abbrev Reading := StateT Work (Except Fault)

def integer? (text : List Char) : Option Int :=
  let digits := if text.head? == some '-' then text.drop 1 else text
  if digits.isEmpty || !digits.all Char.isDigit then none
  else
    let n : Int := Numeral.decimalValue digits
    some (if text.head? == some '-' then -n else n)

def isNothing (text : List Char) : Bool :=
  let digits := if text.head? == some '-' then text.drop 1 else text
  text.isEmpty || (!digits.isEmpty && digits.all (· == '0'))

def ofBool (b : Bool) : List Char := if b then ['1'] else ['0']

def combined (operator : String) (a b : List Char) : Except Fault (List Char) :=
  let both := (integer? a).bind fun x => (integer? b).map fun y => (x, y)
  let compared := fun (f : Ordering → Bool) =>
    match both with
    | some (x, y) => ofBool (f (compare x y))
    | none =>
        ofBool (f (if a == b then .eq else if Text.precedes a b then .lt else .gt))
  let calculated := fun (f : Int → Int → Int) (divides : Bool) =>
    match both with
    | none => Except.error Fault.notInteger
    | some (x, y) =>
        if divides && y == 0 then .error .divisionByZero else .ok (Numeral.text (f x y))
  match operator with
  | "|" => .ok (if !isNothing a then a else if isNothing b then ['0'] else b)
  | "&" => .ok (if isNothing a || isNothing b then ['0'] else a)
  | "<" => .ok (compared (· == .lt))
  | "<=" => .ok (compared (· != .gt))
  | "=" => .ok (compared (· == .eq))
  | "==" => .ok (compared (· == .eq))
  | "!=" => .ok (compared (· != .eq))
  | ">=" => .ok (compared (· != .lt))
  | ">" => .ok (compared (· == .gt))
  | "+" => calculated (· + ·) false
  | "-" => calculated (· - ·) false
  | "*" => calculated (· * ·) false
  | "/" => calculated Int.tdiv true
  | _ => calculated Int.tmod true

/-- What the beginning of a text comes to that fits a regular expression: its length, or the text of
its first group when it has one. -/
def fitting (text pattern : List Char) : Except Fault (List Char) :=
  match Regex.ofText ⟨false, false, false⟩ pattern with
  | .error fault => .error (.regex fault)
  | .ok (regex, groups) =>
      let subject : Regex.Subject := ⟨text.toArray, false, false⟩
      match regex.searchFor? subject (fun _ _ => true) 0 with
      | some found =>
          if found.first != 0 then .ok (if groups = 0 then ['0'] else [])
          else .ok (if groups = 0 then Text.decimal found.last else found.text subject 1)
      | none => .ok (if groups = 0 then ['0'] else [])

def part (text first length : List Char) : List Char :=
  match integer? first, integer? length with
  | some (.ofNat (n + 1)), some (.ofNat m) => (text.drop n).take m
  | _, _ => []

def levels : List (List String) :=
  [["|"], ["&"], ["<", "<=", "=", "==", "!=", ">=", ">"], ["+", "-"], ["*", "/", "%"]]

def take : Reading (List Char) := do
  let work ← get
  match work.rest with
  | [] => throw (.missingArgument work.last)
  | first :: rest =>
      set (Work.mk rest first)
      return first

def takeOperator? (operators : List String) : Reading (Option String) := do
  let work ← get
  match work.rest with
  | first :: _ =>
      if operators.contains (String.ofList first) then
        let _ ← take
        return some (String.ofList first)
      else return none
  | [] => return none

mutual

/-- The value of operands that operators of a precedence, or of a tighter one, join. -/
def joined : Nat → List (List String) → Reading (List Char)
  | 0, _ => throw .missingOperand
  | bound + 1, [] => do matched bound (← operand bound)
  | bound + 1, operators :: tighter => do
      more bound operators tighter (← joined bound tighter)

def more : Nat → List String → List (List String) → List Char → Reading (List Char)
  | 0, _, _, _ => throw .missingOperand
  | bound + 1, operators, tighter, left => do
      match ← takeOperator? operators with
      | none => return left
      | some operator =>
          let right ← joined bound tighter
          let isIdle := (operator == "|" && !isNothing left) || (operator == "&" && isNothing left)
          let value ← if isIdle then (pure (if operator == "|" then left else ['0']))
            else liftM (combined operator left right)
          more bound operators tighter value

def matched : Nat → List Char → Reading (List Char)
  | 0, _ => throw .missingOperand
  | bound + 1, left => do
      match ← takeOperator? [":"] with
      | none => return left
      | some _ =>
          let pattern ← operand bound
          matched bound (← liftM (fitting left pattern))

/-- The value of a single argument, of a function, or of an expression in parentheses. -/
def operand : Nat → Reading (List Char)
  | 0 => throw .missingOperand
  | bound + 1 => do
      let first ← take
      match String.ofList first with
      | "+" => take
      | "length" => return Text.decimal (← operand bound).length
      | "match" => do
          let text ← operand bound
          let pattern ← operand bound
          liftM (fitting text pattern)
      | "index" => do
          let text ← operand bound
          let characters ← operand bound
          return Text.decimal (((text.findIdx? characters.contains).map (· + 1)).getD 0)
      | "substr" => do
          let text ← operand bound
          let first ← operand bound
          let length ← operand bound
          return part text first length
      | "(" => do
          let value ← joined bound levels
          let work ← get
          match work.rest with
          | [')'] :: _ =>
              let _ ← take
              return value
          | [] => throw (.expectingClosing work.last)
          | _ => throw (.expectingClosing work.last)
      | ")" => throw (.unexpected first)
      | _ => return first

end

def evaluate (words : List (List Char)) : Except Fault (List Char) := do
  if words.isEmpty then throw .missingOperand
  let (value, work) ← (joined (16 * (words.length + 2)) levels).run ⟨words, []⟩
  match work.rest with
  | [] => .ok value
  | word :: _ => throw (.unexpected word)

end AsmDiagnostics.Machine.Expression

namespace AsmDiagnostics.Machine.Shell

def expr : Tool := fun sh arguments =>
  let words := if arguments.head? == some ['-', '-'] then arguments.drop 1 else arguments
  match Expression.evaluate words with
  | .ok value =>
      let done := (sh.withStatus 0).output (value ++ ['\n'])
      if done.status != 0 then done.withStatus 3
      else done.withStatus (if Expression.isNothing value then 1 else 0)
  | .error .missingOperand => sh.misused Expression.Fault.missingOperand.text 2
  | .error fault => (sh.say fault.text).withStatus 2

end AsmDiagnostics.Machine.Shell
