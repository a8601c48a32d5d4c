import AsmDiagnostics.Json.Basic
import AsmDiagnostics.Text.Digit
import AsmDiagnostics.Text.Utf8

/-!
# Reading JSON text

A reader of JSON bytes that says what is wrong and where: the line, and the number of bytes of that
line that were looked at. Containers may be nested 127 deep.

Every function takes the bytes that are left and returns what it read with the bytes left after it.
A failure keeps the bytes behind the place where it is noticed.
-/

namespace AsmDiagnostics.Json

inductive SyntaxCause where
  | endInList
  | endInObject
  | endInString
  | endInValue
  | expectedColon
  | expectedListEnd
  | expectedObjectEnd
  | expectedIdent
  | expectedValue
  | invalidEscape
  | invalidNumber
  | numberOutOfRange
  | invalidCodePoint
  | controlCharacter
  | keyNotString
  | loneSurrogate
  | trailingComma
  | trailingCharacters
  | unfinishedSurrogate
  | tooDeep
  deriving DecidableEq, Repr

def SyntaxCause.message : SyntaxCause → String
  | .endInList => "EOF while parsing a list"
  | .endInObject => "EOF while parsing an object"
  | .endInString => "EOF while parsing a string"
  | .endInValue => "EOF while parsing a value"
  | .expectedColon => "expected `:`"
  | .expectedListEnd => "expected `,` or `]`"
  | .expectedObjectEnd => "expected `,` or `\x7d`"
  | .expectedIdent => "expected ident"
  | .expectedValue => "expected value"
  | .invalidEscape => "invalid escape"
  | .invalidNumber => "invalid number"
  | .numberOutOfRange => "number out of range"
  | .invalidCodePoint => "invalid unicode code point"
  | .controlCharacter => "control character (\\u0000-\\u001F) found while parsing a string"
  | .keyNotString => "key must be a string"
  | .loneSurrogate => "lone leading surrogate in hex escape"
  | .trailingComma => "trailing comma"
  | .trailingCharacters => "trailing characters"
  | .unfinishedSurrogate => "unexpected end of hex escape"
  | .tooDeep => "recursion limit exceeded"

/-- A failure: its cause and the bytes behind the place where it was noticed. -/
structure Stop where
  cause : SyntaxCause
  rest : List UInt8

abbrev Reader (α : Type) := List UInt8 → Except Stop (α × List UInt8)

def stop {α : Type} (cause : SyntaxCause) (rest : List UInt8) : Except Stop α :=
  .error ⟨cause, rest⟩

/-- A failure at the next byte, which counts as looked at. -/
def stopAtNext {α : Type} (cause : SyntaxCause) (rest : List UInt8) : Except Stop α :=
  .error ⟨cause, rest.drop 1⟩

def byte (c : Char) : UInt8 := UInt8.ofNat c.toNat

/-- The blanks that may stand between the parts of a text. -/
def isSpace (b : UInt8) : Bool := b == 0x20 || b == 0x0A || b == 0x09 || b == 0x0D

/-- The bytes without leading blanks. -/
def skipSpace (s : List UInt8) : List UInt8 := s.dropWhile isSpace

def digit? (b : UInt8) : Option Nat :=
  if 0x30 ≤ b ∧ b ≤ 0x39 then some (b.toNat - 0x30) else none

def skipDigits (s : List UInt8) : List UInt8 := s.dropWhile fun b => (digit? b).isSome

def word : List UInt8 → Reader Unit
  | [], s => .ok ((), s)
  | _ :: _, [] => stop .endInValue []
  | expected :: more, b :: rest =>
      if b = expected then word more rest else stop .expectedIdent rest

/-! ## Numbers -/

def assemble (negative : Bool) (significand : Nat) (exponent : Int) : Reader Number.Binary64 :=
  fun s =>
    match Number.Binary64.ofDecimal? negative significand exponent with
    | some x => .ok (x, s)
    | none => stop .numberOutOfRange s

def exponentLimit : Nat := 2147483647

/-- Further digits of an exponent. Beyond the limit a positive exponent is out of range, unless the
significand is zero, and a negative one gives zero. -/
def exponentDigits (negative : Bool) (significand : Nat) (start : Int) (down : Bool) :
    Nat → Reader Number.Binary64
  | value, [] =>
      assemble negative significand (if down then start - value else start + value) []
  | value, b :: rest =>
      match digit? b with
      | none =>
          assemble negative significand (if down then start - value else start + value) (b :: rest)
      | some d =>
          if exponentLimit < value * 10 + d then
            if significand ≠ 0 ∧ down = false then stop .numberOutOfRange rest
            else .ok (Number.Binary64.zeroOf negative, skipDigits rest)
          else exponentDigits negative significand start down (value * 10 + d) rest

def exponentPart (negative : Bool) (significand : Nat) (start : Int) : Reader Number.Binary64 :=
  fun s =>
    let down := s.head? == some (byte '-')
    let digits := if down || s.head? == some (byte '+') then s.drop 1 else s
    match digits with
    | [] => stop .endInValue []
    | b :: rest =>
        match digit? b with
        | none => stop .invalidNumber rest
        | some d => exponentDigits negative significand start down d rest

def exponentOrEnd (negative : Bool) (significand : Nat) (exponent : Int) :
    Reader Number.Binary64 :=
  fun s =>
    match s with
    | b :: rest =>
        if b = byte 'e' ∨ b = byte 'E' then exponentPart negative significand exponent rest
        else assemble negative significand exponent (b :: rest)
    | [] => assemble negative significand exponent []

/-- The digits behind the point; those that no longer fit the significand are passed over. -/
def fractionDigits (negative : Bool) (before : Int) :
    Nat → Nat → Reader Number.Binary64
  | significand, count, [] =>
      if count = 0 then stop .endInValue []
      else exponentOrEnd negative significand (before - count) []
  | significand, count, b :: rest =>
      match digit? b with
      | none =>
          if count = 0 then stop .invalidNumber rest
          else exponentOrEnd negative significand (before - count) (b :: rest)
      | some d =>
          if Text.maxWord64 < significand * 10 + d then
            exponentOrEnd negative significand (before - count) (skipDigits (b :: rest))
          else fractionDigits negative before (significand * 10 + d) (count + 1) rest

/-- The digits of a whole part that no longer fit the significand; each is one power of ten. -/
def longDigits (negative : Bool) (significand : Nat) : Nat → Reader Number.Binary64
  | count, [] => assemble negative significand count []
  | count, b :: rest =>
      if (digit? b).isSome then longDigits negative significand (count + 1) rest
      else if b = byte '.' then fractionDigits negative count significand 0 rest
      else exponentOrEnd negative significand count (b :: rest)

/-- The size of the least number of 64 bits with a sign. -/
def greatestNegated : Nat := 9223372036854775808

/-- The value of digits without a fraction: exact within 64 bits, except for a negative zero. -/
def wholeNumber (negative : Bool) (significand : Nat) : Json :=
  if negative then
    if significand = 0 ∨ greatestNegated < significand then
      .real (Number.Binary64.ofNat true significand)
    else .int (-(significand : Int))
  else .int significand

/-- What follows the whole part of a number that fits 64 bits. -/
def afterWhole (negative : Bool) (significand : Nat) : Reader Json :=
  fun s =>
    match s with
    | [] => .ok (wholeNumber negative significand, [])
    | b :: rest =>
        if b = byte '.' then
          (fractionDigits negative 0 significand 0 rest).map fun r => (.real r.1, r.2)
        else if b = byte 'e' ∨ b = byte 'E' then
          (exponentPart negative significand 0 rest).map fun r => (.real r.1, r.2)
        else .ok (wholeNumber negative significand, b :: rest)

def wholeDigits (negative : Bool) : Nat → Reader Json
  | significand, [] => afterWhole negative significand []
  | significand, b :: rest =>
      match digit? b with
      | none => afterWhole negative significand (b :: rest)
      | some d =>
          if Text.maxWord64 < significand * 10 + d then
            (longDigits negative significand 0 (b :: rest)).map fun r => (.real r.1, r.2)
          else wholeDigits negative (significand * 10 + d) rest

/-- A number behind its sign; a zero stands alone before the point. -/
def number (negative : Bool) : Reader Json :=
  fun s =>
    match s with
    | [] => stop .endInValue []
    | b :: rest =>
        match digit? b with
        | none => stop .invalidNumber rest
        | some 0 =>
            match rest with
            | next :: _ =>
                if (digit? next).isSome then stopAtNext .invalidNumber rest
                else afterWhole negative 0 rest
            | [] => afterWhole negative 0 []
        | some d => wholeDigits negative d rest

/-! ## Strings -/

def hexDigit? (b : UInt8) : Option Nat := Text.hexValue? (Char.ofNat b.toNat)

def fourDigits : Reader Nat
  | a :: b :: c :: d :: rest =>
      match hexDigit? a, hexDigit? b, hexDigit? c, hexDigit? d with
      | some a, some b, some c, some d => .ok (((a * 16 + b) * 16 + c) * 16 + d, rest)
      | _, _, _, _ => stop .invalidEscape rest
  | _ => stop .endInString []

def pairedChar (high low : Nat) : Char :=
  Char.ofNat ((high - 0xD800) * 0x400 + (low - 0xDC00) + 0x10000)

def secondSurrogate (high : Nat) : Reader Char :=
  fun s =>
    match s with
    | [] => stop .endInString []
    | b :: rest =>
        if b ≠ byte '\\' then stop .unfinishedSurrogate rest
        else
          match rest with
          | [] => stop .endInString []
          | c :: rest =>
              if c ≠ byte 'u' then stop .unfinishedSurrogate rest
              else do
                let (low, rest) ← fourDigits rest
                if low < 0xDC00 ∨ 0xDFFF < low then stop .loneSurrogate rest
                else .ok (pairedChar high low, rest)

def codePoint : Reader Char :=
  fun s => do
    let (n, rest) ← fourDigits s
    if 0xDC00 ≤ n ∧ n ≤ 0xDFFF then stop .loneSurrogate rest
    else if n < 0xD800 ∨ 0xDBFF < n then .ok (Char.ofNat n, rest)
    else secondSurrogate n rest

def escape : Reader Char
  | [] => stop .endInString []
  | b :: rest =>
      if b = byte '"' then .ok ('"', rest)
      else if b = byte '\\' then .ok ('\\', rest)
      else if b = byte '/' then .ok ('/', rest)
      else if b = byte 'b' then .ok ('\x08', rest)
      else if b = byte 'f' then .ok ('\x0c', rest)
      else if b = byte 'n' then .ok ('\n', rest)
      else if b = byte 'r' then .ok ('\r', rest)
      else if b = byte 't' then .ok ('\t', rest)
      else if b = byte 'u' then codePoint rest
      else stop .invalidEscape rest

/-- Malformed UTF-8 in a string is reported only once the string has ended, at as many bytes before
its end as the string has from the first malformed byte on, escapes being decoded; `length` is their
number. -/
def malformed (whole : List UInt8) (length : Nat) (rest : List UInt8) : Stop :=
  ⟨.invalidCodePoint, whole.drop (whole.length - (rest.length + length))⟩

/-- The characters up to the closing quote, in reverse onto those before; `bad` is the number of
bytes from the first malformed one on. -/
def stringChars (whole : List UInt8) : Nat → Option Nat → List Char → Reader (List Char)
  | 0, _, _, s => stop .endInString s
  | _ + 1, _, _, [] => stop .endInString []
  | budget + 1, bad, before, b :: rest =>
      if b = byte '"' then
        match bad with
        | some length => .error (malformed whole length rest)
        | none => .ok (before.reverse, rest)
      else if b = byte '\\' then do
        let (c, rest) ← escape rest
        stringChars whole budget (bad.map (· + c.utf8Size)) (c :: before) rest
      else if b < 0x20 then stop .controlCharacter rest
      else
        match Text.front b rest with
        | .char c width =>
            stringChars whole budget (bad.map (· + width)) (c :: before) (rest.drop (width - 1))
        | _ => stringChars whole budget (some (bad.getD 0 + 1)) before rest

def stringBody : Reader String :=
  fun s => (stringChars s (s.length + 1) none [] s).map fun r => (String.ofList r.1, r.2)

/-! ## Containers -/

/-- The items up to the closing bracket; the budget bounds their number. -/
def itemsFrom (item : Reader Json) : Nat → Bool → Reader (List Json)
  | 0, _, s => stop .endInList s
  | budget + 1, first, s =>
      match skipSpace s with
      | [] => stop .endInList []
      | b :: rest =>
          if b = byte ']' then .ok ([], rest)
          else if first then do
            let (value, rest) ← item (b :: rest)
            let (values, rest) ← itemsFrom item budget false rest
            .ok (value :: values, rest)
          else if b = byte ',' then
            match skipSpace rest with
            | [] => stop .endInValue []
            | c :: rest =>
                if c = byte ']' then stop .trailingComma rest
                else do
                  let (value, rest) ← item (c :: rest)
                  let (values, rest) ← itemsFrom item budget false rest
                  .ok (value :: values, rest)
          else stop .expectedListEnd rest

def member (item : Reader Json) : Reader (String × Json) :=
  fun s => do
    let (key, rest) ← stringBody s
    match skipSpace rest with
    | [] => stop .endInObject []
    | b :: rest =>
        if b = byte ':' then do
          let (value, rest) ← item rest
          .ok ((key, value), rest)
        else stop .expectedColon rest

/-- The members up to the closing brace; the budget bounds their number. -/
def membersFrom (item : Reader Json) : Nat → Bool → Reader (List (String × Json))
  | 0, _, s => stop .endInObject s
  | budget + 1, first, s =>
      match skipSpace s with
      | [] => stop .endInObject []
      | b :: rest =>
          if b = byte '\x7d' then .ok ([], rest)
          else if first then
            if b = byte '"' then do
              let (entry, rest) ← member item rest
              let (entries, rest) ← membersFrom item budget false rest
              .ok (entry :: entries, rest)
            else stop .keyNotString rest
          else if b = byte ',' then
            match skipSpace rest with
            | [] => stop .endInValue []
            | c :: rest =>
                if c = byte '"' then do
                  let (entry, rest) ← member item rest
                  let (entries, rest) ← membersFrom item budget false rest
                  .ok (entry :: entries, rest)
                else if c = byte '\x7d' then stop .trailingComma rest
                else stop .keyNotString rest
          else stop .expectedObjectEnd rest

/-- A value; so many more levels of containers, less one, may be opened. -/
def value : Nat → Reader Json
  | 0 => fun s => stop .tooDeep s
  | depth + 1 => fun s =>
      match skipSpace s with
      | [] => stop .endInValue []
      | b :: rest =>
          if b = byte 'n' then (word (Text.bytesOf "ull") rest).map fun r => (.null, r.2)
          else if b = byte 't' then
            (word (Text.bytesOf "rue") rest).map fun r => (.bool true, r.2)
          else if b = byte 'f' then
            (word (Text.bytesOf "alse") rest).map fun r => (.bool false, r.2)
          else if b = byte '-' then number true rest
          else if (digit? b).isSome then number false (b :: rest)
          else if b = byte '"' then (stringBody rest).map fun r => (.str r.1, r.2)
          else if b = byte '[' then
            if depth = 0 then stop .tooDeep rest
            else
              (itemsFrom (value depth) (rest.length + 1) true rest).map fun r => (.arr r.1, r.2)
          else if b = byte '\x7b' then
            if depth = 0 then stop .tooDeep rest
            else
              (membersFrom (value depth) (rest.length + 1) true rest).map fun r =>
                (object r.1, r.2)
          else stop .expectedValue rest

def depthLimit : Nat := 128

def document (s : List UInt8) : Except Stop Json := do
  let (result, rest) ← value depthLimit s
  match skipSpace rest with
  | [] => .ok result
  | _ :: rest => stop .trailingCharacters rest

/-! ## Positions -/

/-- A failure with its place: the line from one, and the bytes of that line looked at. -/
structure SyntaxFault where
  cause : SyntaxCause
  line : Nat
  column : Nat
  deriving DecidableEq, Repr

def SyntaxFault.message (fault : SyntaxFault) : String :=
  fault.cause.message ++ " at line " ++ toString fault.line ++ " column " ++ toString fault.column

def Stop.locate (input : List UInt8) (fault : Stop) : SyntaxFault :=
  let before := input.take (input.length - fault.rest.length)
  { cause := fault.cause
    line := 1 + before.count 0x0A
    column := (before.reverse.takeWhile (· != 0x0A)).length }

def parse (input : List UInt8) : Except SyntaxFault Json :=
  match document input with
  | .ok result => .ok result
  | .error fault => .error (fault.locate input)

end AsmDiagnostics.Json
