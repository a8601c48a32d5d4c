import AsmDiagnostics.Machine.Numeral

/-!
# Arithmetic in scripts

Whole numbers of 64 bits with the usual operators, from the loosest binding to the tightest; a truth
value is one or zero. A name stands for the number in its variable, and for zero when that is empty.
What is not decided by a condition is read but not carried out.
-/

namespace AsmDiagnostics.Machine.Arithmetic

inductive Symbol where
  | number (n : Int)
  | named (name : List Char)
  | operator (text : String)
  /-- A character with no meaning. -/
  | unknown
  deriving DecidableEq, Repr

inductive Fault where
  /-- Something else had to stand in a place. -/
  | expecting (what : String)
  | divisionByZero
  /-- The value of a variable is no number. -/
  | illegalNumber (text : List Char)
  | readOnly (name : List Char)
  deriving DecidableEq, Repr

def Fault.text (expression : List Char) : Fault → List Char
  | .expecting what => placed ("expecting " ++ what)
  | .divisionByZero => placed "division by zero"
  | .illegalNumber text => "Illegal number: ".toList ++ text
  | .readOnly name => name ++ ": is read only".toList
where
  /-- The wording with the expression behind it. -/
  placed (text : String) : List Char :=
    ("arithmetic expression: " ++ text ++ ": \"").toList ++ expression ++ ['"']

def operators : List (String × Nat) :=
  [("*", 7), ("/", 7), ("%", 7), ("+", 6), ("-", 6), ("<<", 5), (">>", 5), ("<", 4), ("<=", 4),
    (">", 4), (">=", 4), ("==", 3), ("!=", 3), ("&", 2), ("^", 1), ("|", 0)]

def assignments : List String :=
  ["*=", "/=", "%=", "+=", "-=", "<<=", ">>=", "&=", "^=", "|="]

/-- The texts of all operators, a longer one before its beginning. -/
def spellings : List String :=
  ["<<=", ">>=", "<<", ">>", "<=", ">=", "==", "!=", "&&", "||", "*=", "/=", "%=", "+=", "-=", "&=",
    "^=", "|=", "<", ">", "=", "!", "~", "&", "|", "^", "*", "/", "%", "+", "-", "(", ")", "?", ":"]

def inName (c : Char) : Bool := c.isAlphanum || c == '_'

def symbols : Nat → List Char → List Symbol
  | 0, _ => []
  | _ + 1, [] => []
  | bound + 1, c :: rest =>
      if c = ' ' ∨ c = '\t' ∨ c = '\n' then symbols bound rest
      else if c.isDigit then
        match Numeral.front? true (c :: rest) with
        | some front => .number front.value :: symbols bound front.rest
        | none => [.unknown]
      else if inName c then
        .named ((c :: rest).takeWhile inName) :: symbols bound ((c :: rest).dropWhile inName)
      else
        match spellings.find? fun text => text.toList.isPrefixOf (c :: rest) with
        | some text => .operator text :: symbols bound ((c :: rest).drop text.length)
        | none => [.unknown]

def ofBool (b : Bool) : Int := if b then 1 else 0

def combined (operator : String) (a b : Int) : Except Fault Int :=
  let places := (b % 64).toNat
  match operator with
  | "|" => .ok (BitVec.ofInt 64 a ||| BitVec.ofInt 64 b).toInt
  | "^" => .ok (BitVec.ofInt 64 a ^^^ BitVec.ofInt 64 b).toInt
  | "&" => .ok (BitVec.ofInt 64 a &&& BitVec.ofInt 64 b).toInt
  | "==" => .ok (ofBool (a == b))
  | "!=" => .ok (ofBool (a != b))
  | "<=" => .ok (ofBool (decide (a ≤ b)))
  | ">=" => .ok (ofBool (decide (b ≤ a)))
  | "<" => .ok (ofBool (decide (a < b)))
  | ">" => .ok (ofBool (decide (b < a)))
  | "<<" => .ok (Numeral.wrapped (a * (Nat.pow 2 places : Nat)))
  | ">>" => .ok (a >>> places)
  | "+" => .ok (Numeral.wrapped (a + b))
  | "-" => .ok (Numeral.wrapped (a - b))
  | "*" => .ok (Numeral.wrapped (a * b))
  | "/" => if b = 0 then .error .divisionByZero else .ok (Numeral.wrapped (a.tdiv b))
  | "%" => if b = 0 then .error .divisionByZero else .ok (a.tmod b)
  | _ => .error (.expecting "EOF")

def precedence? (operator : String) : Option Nat :=
  (operators.find? fun entry => entry.1 = operator).map Prod.snd

structure View where
  /-- The text of a variable, empty when it has none. -/
  valueOf : List Char → List Char
  isReadOnly : List Char → Bool

structure Work where
  symbols : List Symbol
  /-- The variables that were assigned to, the latest first. -/
  assigned : List (List Char × Int)

abbrev Calculation := StateT Work (Except Fault)

def peek? : Calculation (Option Symbol) := do return (← get).symbols.head?

def skip (count : Nat) : Calculation Unit :=
  modify fun w => { w with symbols := w.symbols.drop count }

def lookUp (v : View) (name : List Char) : Calculation Int := do
  match (← get).assigned.find? fun entry => entry.1 == name with
  | some (_, n) => return n
  | none =>
      let text := v.valueOf name
      if text.all Numeral.isBlank then return 0
      else
        match Numeral.ofText? true text with
        | some n => return n
        | none => throw (.illegalNumber text)

def store (v : View) (name : List Char) (n : Int) : Calculation Int := do
  if v.isReadOnly name then throw (.readOnly name)
  modify fun w => { w with assigned := (name, n) :: w.assigned }
  return n

mutual

/-- An assignment, or a choice; with `idle` it is not carried out. -/
def assignment (v : View) : Nat → Bool → Calculation Int
  | 0, _ => throw (.expecting "primary")
  | bound + 1, idle => do
      match (← get).symbols with
      | .named name :: .operator operator :: _ =>
          if operator = "=" then
            skip 2
            let value ← assignment v bound idle
            if idle then return value else store v name value
          else if assignments.contains operator then
            skip 2
            let value ← assignment v bound idle
            if idle then return value
            else
              let old ← lookUp v name
              store v name (← combined (operator.dropEnd 1).toString old value)
          else choice v bound idle
      | _ => choice v bound idle

def choice (v : View) : Nat → Bool → Calculation Int
  | 0, _ => throw (.expecting "primary")
  | bound + 1, idle => do
      let test ← disjunction v bound idle
      if (← peek?) = some (.operator "?") then
        skip 1
        let first ← assignment v bound (idle || test == 0)
        if (← peek?) = some (.operator ":") then
          skip 1
          let second ← choice v bound (idle || test != 0)
          return if test = 0 then second else first
        else throw (.expecting "':'")
      else return test

def disjunction (v : View) : Nat → Bool → Calculation Int
  | 0, _ => throw (.expecting "primary")
  | bound + 1, idle => do
      let first ← conjunction v bound idle
      if (← peek?) = some (.operator "||") then
        skip 1
        let second ← disjunction v bound (idle || first != 0)
        return ofBool (first != 0 || second != 0)
      else return first

def conjunction (v : View) : Nat → Bool → Calculation Int
  | 0, _ => throw (.expecting "primary")
  | bound + 1, idle => do
      let first ← operand v bound idle
      let first ← continued v bound idle 0 first
      if (← peek?) = some (.operator "&&") then
        skip 1
        let second ← conjunction v bound (idle || first == 0)
        return ofBool (first != 0 && second != 0)
      else return first

/-- The value of an operand and the operators behind it that bind at least so tightly. -/
def continued (v : View) : Nat → Bool → Nat → Int → Calculation Int
  | 0, _, _, _ => throw (.expecting "primary")
  | bound + 1, idle, lowest, left => do
      match ← peek? with
      | some (.operator operator) =>
          match precedence? operator with
          | none => return left
          | some precedence =>
              if precedence < lowest then return left
              else
                skip 1
                let right ← operand v bound idle
                let right ← continued v bound idle (precedence + 1) right
                let value ← if idle then pure right else combined operator left right
                continued v bound idle lowest value
      | _ => return left

/-- A number, a variable, a value in parentheses, or one with a sign in front. -/
def operand (v : View) : Nat → Bool → Calculation Int
  | 0, _ => throw (.expecting "primary")
  | bound + 1, idle => do
      let next ← peek?
      skip 1
      match next with
      | some (.number n) => return n
      | some (.named name) => if idle then return 0 else lookUp v name
      | some (.operator "(") =>
          let value ← assignment v bound idle
          if (← peek?) = some (.operator ")") then
            skip 1
            return value
          else throw (.expecting "')'")
      | some (.operator "+") => operand v bound idle
      | some (.operator "-") => return Numeral.wrapped (-(← operand v bound idle))
      | some (.operator "!") => return ofBool ((← operand v bound idle) == 0)
      | some (.operator "~") => return -(← operand v bound idle) - 1
      | _ => throw (.expecting "primary")

end

/-- The value of a whole expression, and the variables that it assigns to, the latest first. -/
def evaluate (v : View) (text : List Char) : Except Fault (Int × List (List Char × Int)) := do
  let all := symbols (text.length + 1) text
  let (value, work) ← (assignment v (8 * (all.length + 2)) false).run ⟨all, []⟩
  if work.symbols.isEmpty then pure (value, work.assigned) else throw (.expecting "EOF")

end AsmDiagnostics.Machine.Arithmetic
