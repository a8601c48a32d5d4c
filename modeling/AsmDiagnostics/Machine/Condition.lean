import AsmDiagnostics.Machine.Files
import AsmDiagnostics.Machine.Numeral
import AsmDiagnostics.Text.Octet

/-!
# Conditions

What `test` decides: whether texts are empty or equal, how numbers compare, and what kind of entry a
path leads to. An operator that stands where only an operand can be is one.
-/

namespace AsmDiagnostics.Machine.Condition

structure View where
  files : Files
  folder : Place

def View.standing? (v : View) (path : List Char) : Option Entry :=
  v.files.at? v.folder ⟨Text.octets path⟩

inductive Fault where
  | illegalNumber (text : List Char)
  /-- More follows where the condition should be over; the text is the last one that belongs to
  it. -/
  | unexpectedOperator (text : List Char)
  | missingOperand (operator : List Char)
  | missingParenthesis
  deriving DecidableEq, Repr

def Fault.text : Fault → List Char
  | .illegalNumber text => "Illegal number: ".toList ++ text
  | .unexpectedOperator text =>
      if text.isEmpty then "unexpected operator".toList
      else text ++ ": unexpected operator".toList
  | .missingOperand operator => operator ++ ": argument expected".toList
  | .missingParenthesis => "closing paren expected".toList

def number (s : List Char) : Except Fault Int :=
  match Numeral.ofText? false s with
  | some n => .ok n
  | none => .error (.illegalNumber s)

def unaryOperators : List String :=
  ["-r", "-w", "-x", "-e", "-f", "-d", "-c", "-b", "-p", "-u", "-g", "-k", "-s", "-t", "-z", "-n",
    "-h", "-O", "-G", "-L"]

def binaryOperators : List String :=
  ["=", "!=", "<", ">", "-eq", "-ne", "-ge", "-gt", "-le", "-lt", "-nt", "-ot", "-ef"]

def unary (v : View) (operator : String) (operand : List Char) : Except Fault Bool :=
  let standing? := v.standing? operand
  match operator with
  | "-n" => .ok !operand.isEmpty
  | "-z" => .ok operand.isEmpty
  | "-t" => (number operand).map fun _ => false
  | "-d" => .ok (standing? == some .folder)
  | "-c" => .ok (standing? == some .nullDevice || standing? == some .zeroDevice)
  | "-f" =>
      .ok (match standing? with
        | some (.file _ _) => true
        | some (.program _) => true
        | _ => false)
  | "-x" =>
      .ok (match standing? with
        | some (.file _ executable) => executable
        | some .folder => true
        | some (.program _) => true
        | _ => false)
  | "-s" =>
      .ok (match standing? with
        | some (.file content _) => !content.isEmpty
        | some .folder => true
        | some (.program _) => true
        | _ => false)
  | _ => .ok (["-e", "-r", "-w", "-O", "-G"].contains operator && standing?.isSome)

def compared (a b : List Char) (f : Int → Int → Bool) : Except Fault Bool := do
  let m ← number a
  let n ← number b
  .ok (f m n)

def binary (v : View) (a : List Char) (operator : String) (b : List Char) : Except Fault Bool :=
  match operator with
  | "=" => .ok (a == b)
  | "!=" => .ok (a != b)
  | "<" => .ok (decide (a < b))
  | ">" => .ok (decide (b < a))
  | "-eq" => compared a b fun m n => m == n
  | "-ne" => compared a b fun m n => m != n
  | "-lt" => compared a b fun m n => decide (m < n)
  | "-le" => compared a b fun m n => decide (m ≤ n)
  | "-gt" => compared a b fun m n => decide (n < m)
  | "-ge" => compared a b fun m n => decide (n ≤ m)
  | "-ef" =>
      let place := fun path : List Char => v.files.resolve? v.folder ⟨Text.octets path⟩
      .ok ((place a).isSome && place a == place b)
  | _ => .ok false

inductive Symbol where
  | operand
  | unary
  | binary
  | not
  | both
  | either
  | opening
  | closing
  | finish
  deriving DecidableEq, Repr

def spelled (text : List Char) : Symbol :=
  match String.ofList text with
  | "!" => .not
  | "-a" => .both
  | "-o" => .either
  | "(" => .opening
  | ")" => .closing
  | name =>
      if unaryOperators.contains name then .unary
      else if binaryOperators.contains name then .binary
      else .operand

def symbol : List (List Char) → Symbol
  | [] => .finish
  | first :: rest =>
      match spelled first with
      | .unary =>
          match rest with
          | [] => .operand
          | [_] => .unary
          | second :: _ => if spelled second = .binary then .operand else .unary
      | .opening => if rest.isEmpty then .operand else .opening
      | other => other

/-- A condition that is under way: its outcome, and the arguments from the last one that belongs to
it on. -/
abbrev Partial := Except Fault (Bool × List (List Char))

mutual

def alternatives (v : View) : Nat → Symbol → List (List Char) → Partial
  | 0, _, s => .ok (false, s)
  | bound + 1, first, s => do
      let (outcome, rest) ← conjunction v bound first s
      if symbol (rest.drop 1) = .either then
        let (other, last) ← alternatives v bound (symbol (rest.drop 2)) (rest.drop 2)
        .ok (outcome || other, last)
      else .ok (outcome, rest)

def conjunction (v : View) : Nat → Symbol → List (List Char) → Partial
  | 0, _, s => .ok (false, s)
  | bound + 1, first, s => do
      let (outcome, rest) ← negation v bound first s
      if symbol (rest.drop 1) = .both then
        let (other, last) ← conjunction v bound (symbol (rest.drop 2)) (rest.drop 2)
        .ok (outcome && other, last)
      else .ok (outcome, rest)

def negation (v : View) : Nat → Symbol → List (List Char) → Partial
  | 0, _, s => .ok (false, s)
  | bound + 1, first, s => do
      if first = .not then
        let next := symbol (s.drop 1)
        let (outcome, rest) ← negation v bound next (if next = .finish then s else s.drop 1)
        .ok (!outcome, rest)
      else single v bound first s

def single (v : View) : Nat → Symbol → List (List Char) → Partial
  | 0, _, s => .ok (false, s)
  | bound + 1, first, s => do
      match first, s with
      | .finish, _ => .ok (false, s)
      | _, [] => .ok (false, s)
      | .opening, _ :: rest =>
          let next := symbol rest
          if next = .closing then .ok (false, rest)
          else
            let (outcome, last) ← alternatives v bound next rest
            if symbol (last.drop 1) = .closing then .ok (outcome, last.drop 1)
            else .error .missingParenthesis
      | .unary, operator :: rest =>
          match rest with
          | [] => .error (.missingOperand operator)
          | operand :: _ => .ok (← unary v (String.ofList operator) operand, rest)
      | _, operand :: rest =>
          if symbol rest = .binary then
            match rest with
            | operator :: second :: more =>
                .ok (← binary v operand (String.ofList operator) second, second :: more)
            | _ => .error (.missingOperand (rest.head?.getD []))
          else .ok (!operand.isEmpty, s)

end

/-- The outcome of a whole condition; a few arguments are read in a way of their own. -/
def holds (v : View) : List (List Char) → Except Fault Bool
  | [] => .ok false
  | [a, operator, b] =>
      if spelled operator = .binary then binary v a (String.ofList operator) b
      else if a = ['('] ∧ b = [')'] then whole (symbol [operator]) [operator]
      else if a = ['!'] then (holds v [operator, b]).map (! ·)
      else whole (symbol [a, operator, b]) [a, operator, b]
  | [a, b, c, d] =>
      if a = ['('] ∧ d = [')'] then whole (symbol [b, c]) [b, c]
      else if a = ['!'] then (holds v [b, c, d]).map (! ·)
      else whole (symbol [a, b, c, d]) [a, b, c, d]
  | all => whole (symbol all) all
where
  /-- The outcome when nothing is left. -/
  whole (first : Symbol) (all : List (List Char)) : Except Fault Bool :=
    match alternatives v (4 * (all.length + 2)) first all with
    | .ok (_, last :: _ :: _) => .error (.unexpectedOperator last)
    | .ok (outcome, _) => .ok outcome
    | .error fault => .error fault

end AsmDiagnostics.Machine.Condition
