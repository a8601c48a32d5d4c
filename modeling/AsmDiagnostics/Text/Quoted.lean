import AsmDiagnostics.Text.Digit
import AsmDiagnostics.Text.Printable

/-!
# Quoted texts

A text between double quotes as messages show it: quotes, backslashes and control characters are
escaped, and so is every character that would be invisible or would join the one before it.
-/

namespace AsmDiagnostics.Text

def codePointEscape (c : Char) : List Char :=
  "\\u\x7b".toList ++ hexadecimal c.toNat ++ ['\x7d']

def quoteChar (c : Char) : List Char :=
  if c = '"' then ['\\', '"']
  else if c = '\\' then ['\\', '\\']
  else if c = '\n' then ['\\', 'n']
  else if c = '\r' then ['\\', 'r']
  else if c = '\t' then ['\\', 't']
  else if c = '\x00' then ['\\', '0']
  else if ' ' ≤ c ∧ c ≤ '~' then [c]
  else if isExtender c || !isPrintable c then codePointEscape c
  else [c]

def quoted (s : String) : String :=
  String.ofList ('"' :: s.toList.flatMap quoteChar ++ ['"'])

end AsmDiagnostics.Text
