import AsmDiagnostics.Machine.Numeral
import AsmDiagnostics.Machine.Regex.Basic

/-!
# Reading regular expressions

The two ways of writing regular expressions. In the basic one, groups, intervals and alternatives
are written with backslashes; in the extended one they are not. A text is first taken apart into
signs, as where a sign stands decides what it means.
-/

namespace AsmDiagnostics.Machine.Regex

structure Writing where
  isExtended : Bool
  /-- Signs that repeat nothing are faults, and a backslash introduces characters by a letter. -/
  isStrict : Bool
  /-- A backslash introduces the sets of digits and of all else. -/
  hasDigits : Bool
  deriving DecidableEq, Repr

inductive Fault where
  | openSet
  /-- A set ends before its first member. -/
  | bareSet
  | openGroup
  | closedGroup
  | openInterval
  | badInterval
  | badRange
  | badClass
  | bareClass
  | nothingRepeated
  | badReference
  | endsWithBackslash
  deriving DecidableEq, Repr

def Fault.text : Fault → String
  | .openSet => "Unmatched [, [^, [:, [., or [="
  | .bareSet => "Invalid regular expression"
  | .openGroup => "Unmatched ( or \\("
  | .closedGroup => "Unmatched ) or \\)"
  | .openInterval => "Unmatched \\\x7b"
  | .badInterval => "Invalid content of \\\x7b\\\x7d"
  | .badRange => "Invalid range end"
  | .badClass => "Invalid character class name"
  | .bareClass => "character class syntax is [[:space:]], not [:space:]"
  | .nothingRepeated => "Invalid preceding regular expression"
  | .badReference => "Invalid back reference"
  | .endsWithBackslash => "Trailing backslash"

inductive Sign where
  | atom (regex : Regex)
  | opening
  | closing
  | bar
  | repetition (least : Nat) (most? : Option Nat)
  deriving Repr

/-- The character that a letter behind a backslash introduces, in the strict way of writing. -/
def introduced? (c : Char) : Option Char :=
  match c with
  | 'n' => some '\n'
  | 't' => some '\t'
  | 'f' => some '\x0c'
  | 'v' => some '\x0b'
  | 'a' => some '\x07'
  | 'r' => some '\r'
  | _ => none

def wordSet (isNegated : Bool) : Regex :=
  .oneOf isNegated [.named "alnum", .range '_' '_']

def special? (w : Writing) (c : Char) : Option Regex :=
  match c with
  | 'd' => if w.hasDigits then some (.oneOf false [.named "digit"]) else none
  | 'D' => if w.hasDigits then some (.oneOf true [.named "digit"]) else none
  | 'w' => some (wordSet false)
  | 'W' => some (wordSet true)
  | 's' => some (.oneOf false [.named "space"])
  | 'S' => some (.oneOf true [.named "space"])
  | 'b' => some (.wordEdge true true)
  | '<' => some (.wordEdge true false)
  | '>' => some (.wordEdge false true)
  | 'B' => some .noEdge
  | '\x60' => some .textStart
  | '\'' => some .textEnd
  | _ => none

def member (first : Char) (s : List Char) : Except Fault (Member × List Char) :=
  let ranged := fun (last : Char) (rest : List Char) =>
    if last < first then .error .badRange else .ok (.range first last, rest)
  match s with
  | '-' :: ']' :: _ => .ok (.range first first, s)
  | '-' :: '[' :: '.' :: last :: '.' :: ']' :: rest => ranged last rest
  | '-' :: last :: rest => ranged last rest
  | _ => .ok (.range first first, s)

def firstMember (w : Writing) (s : List Char) : Except Fault (Member × List Char) :=
  match s with
  | [] => .error .openSet
  | '[' :: ':' :: rest =>
      let name := rest.takeWhile Char.isAlpha
      match rest.drop name.length with
      | ':' :: ']' :: after =>
          if (characterClass? (String.ofList name)).isSome then
            .ok (.named (String.ofList name), after)
          else .error .badClass
      | _ => .error .openSet
  | '[' :: '=' :: c :: '=' :: ']' :: rest => member c rest
  | '[' :: '.' :: c :: '.' :: ']' :: rest => member c rest
  | '\\' :: c :: rest =>
      match if w.isStrict then introduced? c else none with
      | some d => member d rest
      | none => member '\\' (c :: rest)
  | c :: rest => member c rest

/-- The members of a set up to its closing bracket; one at the front is a member. -/
def members (w : Writing) : Nat → Bool → List Char → Except Fault (List Member × List Char)
  | 0, _, _ => .error .openSet
  | bound + 1, isFront, s =>
      if s.head? == some ']' && !isFront then .ok ([], s.drop 1)
      else do
        let (first, rest) ← firstMember w s
        let (others, last) ← members w bound false rest
        .ok (first :: others, last)

def set (w : Writing) (s : List Char) : Except Fault (Regex × List Char) :=
  let isNegated := s.head? == some '^'
  let body := if isNegated then s.drop 1 else s
  if body.isEmpty then .error .bareSet
  else (members w (body.length + 1) true body).bind fun (all, rest) =>
    let spelled := s.take (s.length - rest.length - 1)
    if !w.isStrict && spelled.head? == some ':' && spelled.getLast? == some ':' &&
        1 < spelled.length then .error .bareClass
    else .ok (.oneOf isNegated all, rest)

def interval (w : Writing) (s : List Char) : Except Fault (Nat × Option Nat × List Char) :=
  let least := s.takeWhile Char.isDigit
  let rest := s.drop least.length
  let (most?, rest) :=
    match rest with
    | ',' :: more =>
        let most := more.takeWhile Char.isDigit
        (if most.isEmpty then none else some (Numeral.decimalValue most), more.drop most.length)
    | _ => (some (Numeral.decimalValue least), rest)
  let isEmpty := least.isEmpty && s.head? != some ','
  let n := Numeral.decimalValue least
  let closed := fun after : List Char =>
    if isEmpty || most?.any (· < n) || most?.any (32767 < ·) || 32767 < n then .error .badInterval
    else .ok (n, most?, after)
  if w.isExtended then
    match rest with
    | '\x7d' :: after => closed after
    | [] => .error .openInterval
    | _ => .error .openInterval
  else
    match rest with
    | '\\' :: '\x7d' :: after => closed after
    | [] => .error .openInterval
    | _ => .error .badInterval

def isInterval (s : List Char) : Bool :=
  let isInside := fun c : Char => c.isDigit || c == ','
  s.head?.any isInside && (s.dropWhile isInside).head? == some '\x7d'

def isFrontBehind : Option Sign → Bool
  | none => true
  | some .opening => true
  | some .bar => true
  | _ => false

def signs (w : Writing) : Nat → Option Sign → Bool → List Char → Except Fault (List Sign)
  | 0, _, _, _ => .ok []
  | _ + 1, _, _, [] => .ok []
  | bound + 1, before?, afterAnchor, c :: rest =>
      let isFront := isFrontBehind before?
      let go := fun (sign : Sign) (after : List Char) =>
        (signs w bound (some sign) false after).map (sign :: ·)
      let plain := fun (d : Char) (after : List Char) => go (.atom (.char d)) after
      let anchor := fun (regex : Regex) =>
        (signs w bound before? true rest).map (Sign.atom regex :: ·)
      let repeats := fun (least : Nat) (most? : Option Nat) =>
        if isFront then
          if w.isExtended then
            if w.isStrict then .error .nothingRepeated
            else signs w bound before? afterAnchor rest
          else plain c rest
        else go (.repetition least most?) rest
      let bounded := fun (after : List Char) =>
        if isFront && w.isStrict then .error .nothingRepeated
        else
          match interval w after with
          | .ok (least, most?, last) =>
              if isFront then signs w bound before? afterAnchor last
              else go (.repetition least most?) last
          | .error fault =>
              if w.isExtended && !w.isStrict && !isInterval after then plain '\x7b' after
              else .error fault
      match c with
      | '[' => (set w rest).bind fun (regex, after) => go (.atom regex) after
      | '.' => go (.atom .anyChar) rest
      | '*' =>
          if isFront && !w.isExtended then plain '*' rest else repeats 0 none
      | '^' =>
          if w.isExtended || isFront && !afterAnchor then anchor .lineStart else plain '^' rest
      | '$' =>
          let ends := w.isExtended || rest.isEmpty || ['\\', ')'].isPrefixOf rest ||
            ['\\', '|'].isPrefixOf rest
          if ends then go (.atom .lineEnd) rest else plain '$' rest
      | '\\' =>
          match rest with
          | [] => .error .endsWithBackslash
          | d :: after =>
              if d.isDigit && d != '0' then go (.atom (.again (d.toNat - '0'.toNat))) after
              else
                match special? w d with
                | some regex => go (.atom regex) after
                | none =>
                    if w.isExtended then
                      plain (if w.isStrict then (introduced? d).getD d else d) after
                    else
                      match d with
                      | '(' => go .opening after
                      | ')' => go .closing after
                      | '|' => go .bar after
                      | '\x7b' => bounded after
                      | '+' =>
                          if isFront then plain '+' after else go (.repetition 1 none) after
                      | '?' =>
                          if isFront then plain '?' after else go (.repetition 0 (some 1)) after
                      | _ => plain (if w.isStrict then (introduced? d).getD d else d) after
      | _ =>
          if w.isExtended then
            match c with
            | '(' => go .opening rest
            | ')' => go .closing rest
            | '|' => go .bar rest
            | '+' => repeats 1 none
            | '?' => repeats 0 (some 1)
            | '\x7b' => bounded rest
            | _ => plain c rest
          else plain c rest

/-- A part of an expression that was read: the expression, the signs behind it, the number of groups
that have begun, and those that are complete. -/
structure Part where
  regex : Regex
  rest : List Sign
  groups : Nat
  complete : List Nat

def repeatedly (part : Part) : List Sign → Part
  | .repetition least most? :: rest =>
      repeatedly { part with regex := .repeated part.regex least most?, rest := rest } rest
  | _ => part

mutual

def alternatives (w : Writing) : Nat → Nat → Nat → List Nat → List Sign → Except Fault Part
  | 0, _, groups, complete, s => .ok ⟨.empty, s, groups, complete⟩
  | bound + 1, depth, groups, complete, s => do
      let first ← pieces w bound depth groups complete s
      match first.rest with
      | .bar :: after =>
          let others ← alternatives w bound depth first.groups first.complete after
          .ok { others with regex := .choice first.regex others.regex }
      | _ => .ok first

def pieces (w : Writing) : Nat → Nat → Nat → List Nat → List Sign → Except Fault Part
  | 0, _, groups, complete, s => .ok ⟨.empty, s, groups, complete⟩
  | bound + 1, depth, groups, complete, s => do
      match s with
      | [] => .ok ⟨.empty, [], groups, complete⟩
      | .bar :: _ => .ok ⟨.empty, s, groups, complete⟩
      | .closing :: rest =>
          if 0 < depth then .ok ⟨.empty, s, groups, complete⟩
          else if w.isExtended && !w.isStrict then
            let others ← pieces w bound depth groups complete rest
            .ok { others with regex := .sequence (.char ')') others.regex }
          else .error .closedGroup
      | sign :: rest =>
          let first ← atom w bound depth groups complete sign rest
          let first := repeatedly first first.rest
          let others ← pieces w bound depth first.groups first.complete first.rest
          .ok { others with
            regex :=
              match others.regex with
              | .empty => first.regex
              | regex => .sequence first.regex regex }

def atom (w : Writing) : Nat → Nat → Nat → List Nat → Sign → List Sign → Except Fault Part
  | 0, _, groups, complete, _, s => .ok ⟨.empty, s, groups, complete⟩
  | bound + 1, depth, groups, complete, sign, rest => do
      match sign with
      | .atom (.again number) =>
          if complete.contains number then .ok ⟨.again number, rest, groups, complete⟩
          else .error .badReference
      | .atom regex => .ok ⟨regex, rest, groups, complete⟩
      | .opening =>
          let number := groups + 1
          let inner ← alternatives w bound (depth + 1) number complete rest
          match inner.rest with
          | .closing :: after =>
              .ok ⟨.group number inner.regex, after, inner.groups, number :: inner.complete⟩
          | _ => .error .openGroup
      | _ => .ok ⟨.empty, rest, groups, complete⟩

end

/-- Reads a whole regular expression; with it comes the number of its groups. -/
def ofText (w : Writing) (text : List Char) : Except Fault (Regex × Nat) := do
  let all ← signs w (text.length + 1) none false text
  let part ← alternatives w (4 * (all.length + 2)) 0 0 [] all
  match part.rest with
  | [] => .ok (part.regex, part.groups)
  | _ => .error .closedGroup

def ofLiteral (text : List Char) : Regex :=
  text.foldr (fun c rest => .sequence (.char c) rest) .empty

end AsmDiagnostics.Machine.Regex
