import AsmDiagnostics.Uri.Domain
import AsmDiagnostics.Uri.Percent

/-!
# Hosts

The host of a special scheme is a domain name, a short address, or a long address in brackets. A
domain name is decoded and put into its ASCII form; a name that then ends in a number must be a
short address. The host of any other scheme is kept as it is.
-/

namespace AsmDiagnostics

inductive UriFault where
  | relative
  | emptyHost
  | invalidPort
  | invalidShortAddress
  | invalidLongAddress
  | invalidDomain
  | invalidHostCharacter
  deriving DecidableEq, Repr

def UriFault.message : UriFault → String
  | .relative => "relative URL without a base"
  | .emptyHost => "empty host"
  | .invalidPort => "invalid port number"
  | .invalidShortAddress => "invalid IPv4 address"
  | .invalidLongAddress => "invalid IPv6 address"
  | .invalidDomain => "invalid international domain name"
  | .invalidHostCharacter => "invalid domain character"

namespace Uri

def deniedInHost (c : Char) : Bool :=
  "\x00\t\n\r #/:<>?@[\\]^|".toList.contains c

/-- A long address between brackets, given behind the opening one. -/
def bracketedHost (s : List Char) : Except UriFault (List Char) :=
  if s.getLast? = some ']' then
    match longAddress? s.dropLast with
    | some groups => .ok ('[' :: longAddressText groups ++ [']'])
    | none => .error .invalidLongAddress
  else .error .invalidLongAddress

def specialHost : List Char → Except UriFault (List Char)
  | '[' :: rest => bracketedHost rest
  | s =>
      match Text.decode? (percentDecode (Text.encode s)) with
      | none => .error .invalidDomain
      | some name =>
          match Domain.ascii? name with
          | none => .error .invalidDomain
          | some domain =>
              if domain.isEmpty then .error .emptyHost
              else if endsInNumber domain then
                match shortAddress? domain with
                | some value => .ok (shortAddressText value)
                | none => .error .invalidShortAddress
              else .ok domain

def plainHost : List Char → Except UriFault (List Char)
  | '[' :: rest => bracketedHost rest
  | s =>
      if s.any deniedInHost then .error .invalidHostCharacter
      else .ok (percentEncode controlSet s)

end Uri

end AsmDiagnostics
