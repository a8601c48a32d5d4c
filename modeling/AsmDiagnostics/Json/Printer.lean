import AsmDiagnostics.Json.Basic
import AsmDiagnostics.Number.Shortest
import AsmDiagnostics.Text.Digit
import AsmDiagnostics.Text.Utf8

/-!
# Compact JSON text

The text of a value without any space. A string escapes the quote, the backslash and the control
characters below the space; everything else stands as it is.
-/

namespace AsmDiagnostics.Json

/-- Numbers are positional from `0.00001` up to sixteen digits before the point. -/
def numberLayout : Number.Layout := ⟨-5, 15⟩

def escapeChar (c : Char) : List Char :=
  if c = '"' then ['\\', '"']
  else if c = '\\' then ['\\', '\\']
  else if c = '\x08' then ['\\', 'b']
  else if c = '\x0c' then ['\\', 'f']
  else if c = '\n' then ['\\', 'n']
  else if c = '\r' then ['\\', 'r']
  else if c = '\t' then ['\\', 't']
  else if c.toNat < 0x20 then
    ['\\', 'u', '0', '0', Text.hexDigit (c.toNat / 16), Text.hexDigit (c.toNat % 16)]
  else [c]

def stringText (s : String) : List Char := '"' :: s.toList.flatMap escapeChar ++ ['"']

def intText (n : Int) : List Char :=
  if n < 0 then '-' :: Text.decimal n.natAbs else Text.decimal n.natAbs

def realText (x : Number.Binary64) : List Char := x.text numberLayout

mutual

def chars : Json → List Char
  | .null => "null".toList
  | .bool true => "true".toList
  | .bool false => "false".toList
  | .int n => intText n
  | .real x => realText x
  | .str s => stringText s
  | .arr items => '[' :: itemChars items ++ [']']
  | .obj members => '\x7b' :: memberChars members ++ ['\x7d']

def itemChars : List Json → List Char
  | [] => []
  | [last] => chars last
  | item :: rest => chars item ++ ',' :: itemChars rest

def memberChars : List (String × Json) → List Char
  | [] => []
  | [(key, value)] => stringText key ++ ':' :: chars value
  | (key, value) :: rest => stringText key ++ ':' :: chars value ++ ',' :: memberChars rest

end

def compact (value : Json) : String := String.ofList (chars value)

def bytes (value : Json) : List UInt8 := Text.encode (chars value)

theorem chars_ne_nil (value : Json) : chars value ≠ [] := by
  cases value with
  | null => simp [chars]
  | bool b => cases b <;> simp [chars]
  | int n =>
      have some : Nat.toDigits 10 n.natAbs ≠ [] := Nat.toDigits_ne_nil
      unfold chars intText
      split
      · simp
      · exact some
  | real x =>
      rw [chars]
      exact x.text_ne_nil numberLayout
  | str s => simp [chars, stringText]
  | arr items => simp [chars]
  | obj members => simp [chars]

theorem bytes_ne_nil (value : Json) : bytes value ≠ [] := by
  obtain ⟨c, rest, whole⟩ := List.exists_cons_of_ne_nil (chars_ne_nil value)
  rw [bytes, whole, Text.encode_cons]
  exact List.append_ne_nil_of_left_ne_nil (Text.encodeChar_ne_nil c) _

end AsmDiagnostics.Json
