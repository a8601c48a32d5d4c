/-!
# Bytes as characters

A text of bytes whose encoding does not matter is handled as a text of characters, each of which has
the number of a byte.
-/

namespace AsmDiagnostics.Text

def ofOctets (bytes : List UInt8) : List Char := bytes.map fun b => Char.ofNat b.toNat

def octets (s : List Char) : List UInt8 := s.map fun c => UInt8.ofNat c.toNat

/-- A text comes before another one or equals it, in the order of their bytes. -/
def precedes : List Char → List Char → Bool
  | [], _ => true
  | _ :: _, [] => false
  | a :: s, b :: t => decide (a.toNat < b.toNat) || (a == b && precedes s t)

end AsmDiagnostics.Text
