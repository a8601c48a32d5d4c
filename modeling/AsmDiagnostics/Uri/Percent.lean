import AsmDiagnostics.Text.Digit
import AsmDiagnostics.Text.Utf8

/-!
# Percent encoding

Bytes as a percent sign and two hexadecimal digits. Which characters are encoded depends on the part
of a URI they stand in; every control and every byte beyond ASCII always is.
-/

namespace AsmDiagnostics.Uri

/-- The ASCII characters that a part encodes besides the controls. -/
abbrev EncodeSet := List Char

def controlSet : EncodeSet := []

def fragmentSet : EncodeSet := [' ', '"', '<', '>', '\x60']

def pathSet : EncodeSet := fragmentSet ++ ['#', '?', '\x7b', '\x7d']

def userSet : EncodeSet := pathSet ++ ['/', ':', ';', '=', '@', '[', '\\', ']', '^', '|']

def querySet : EncodeSet := [' ', '"', '#', '<', '>']

def specialQuerySet : EncodeSet := '\'' :: querySet

def percentByte (b : UInt8) : List Char :=
  ['%', Text.upperHexDigit (b.toNat / 16), Text.upperHexDigit (b.toNat % 16)]

def isPlain (set : EncodeSet) (c : Char) : Bool :=
  decide (0x20 ≤ c.toNat) && decide (c.toNat < 0x7F) && !set.contains c

def percentChar (set : EncodeSet) (c : Char) : List Char :=
  if isPlain set c then [c] else (Text.encodeChar c).flatMap percentByte

def percentEncode (set : EncodeSet) (s : List Char) : List Char := s.flatMap (percentChar set)

def hexByte? (b : UInt8) : Option Nat := Text.hexValue? (Char.ofNat b.toNat)

/-- The bytes with encoded ones decoded; a percent sign without two digits stands for itself. -/
def percentDecode : List UInt8 → List UInt8
  | [] => []
  | 0x25 :: high :: low :: rest =>
      match hexByte? high, hexByte? low with
      | some h, some l => UInt8.ofNat (h * 16 + l) :: percentDecode rest
      | _, _ => 0x25 :: percentDecode (high :: low :: rest)
  | b :: rest => b :: percentDecode rest
termination_by bytes => bytes.length

end AsmDiagnostics.Uri
