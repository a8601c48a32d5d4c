import AsmDiagnostics.Json.Printer
import AsmDiagnostics.Text.Quoted

/-!
# Decoding values into records

A record is decoded from an object, whose members are visited in the order of their keys, or from
an array of its fields in their declared order. The first fault on that walk is the one reported;
fields that are missing are noticed after it, in declared order.
-/

namespace AsmDiagnostics.Json

inductive DecodeFault where
  | invalidType (found : Json) (expected : String)
  | invalidValue (found : Json) (expected : String)
  | missingField (name : String)
  | invalidLength (count : Nat) (expected : String)
  /-- A text that is not of its own form, with the reason. -/
  | invalidText (reason text : String)
  deriving Repr

def describe : Json → String
  | .null => "null"
  | .bool b => "boolean `" ++ (if b then "true" else "false") ++ "`"
  | .int n => "integer `" ++ String.ofList (intText n) ++ "`"
  | .real x => "floating point `" ++ String.ofList (realText x) ++ "`"
  | .str s => "string " ++ Text.quoted s
  | .arr _ => "sequence"
  | .obj _ => "map"

def DecodeFault.message : DecodeFault → String
  | .invalidType found expected => "invalid type: " ++ found.describe ++ ", expected " ++ expected
  | .invalidValue found expected =>
      "invalid value: " ++ found.describe ++ ", expected " ++ expected
  | .missingField name => "missing field `" ++ name ++ "`"
  | .invalidLength count expected =>
      "invalid length " ++ toString count ++ ", expected " ++ expected
  | .invalidText reason text => reason ++ ": " ++ Text.quoted text

abbrev Decoder (α : Type) := Json → Except DecodeFault α

def string : Decoder String
  | .str s => .ok s
  | found => .error (.invalidType found "a string")

def integer (low high : Int) (expected : String) : Decoder Int
  | .int n =>
      if low ≤ n ∧ n ≤ high then .ok n else .error (.invalidValue (.int n) expected)
  | found => .error (.invalidType found expected)

def word32 : Decoder UInt32 := fun found =>
  (integer 0 Text.maxWord32 "u32" found).map fun n => UInt32.ofNat n.toNat

def word64 : Decoder Nat := fun found => (integer 0 Text.maxWord64 "u64" found).map Int.toNat

def signed32 : Decoder Int := integer (-2147483648) 2147483647 "i32"

def optional {α : Type} (decoder : Decoder α) : Decoder (Option α)
  | .null => .ok none
  | found => (decoder found).map some

def list {α : Type} (decoder : Decoder α) : Decoder (List α)
  | .arr items => items.mapM decoder
  | found => .error (.invalidType found "a sequence")

/-- A field of a record; one without a default is required. -/
structure Field (α : Type) where
  name : String
  decoder : Decoder α
  default? : Option α

/-- The first of the faults that an object shows: the one of a member that is visited earlier, and
missing fields only when every member decodes. -/
inductive MemberFault where
  | bad (key : String) (fault : DecodeFault)
  | missing (key : String)

/-- The fault that is met first; of two missing fields the one declared first. -/
def MemberFault.first : MemberFault → MemberFault → MemberFault
  | .bad key fault, .bad other later => if other < key then .bad other later else .bad key fault
  | .bad key fault, .missing _ => .bad key fault
  | .missing _, .bad key fault => .bad key fault
  | .missing key, .missing _ => .missing key

def MemberFault.fault : MemberFault → DecodeFault
  | .bad _ fault => fault
  | .missing key => .missingField key

/-- How the fields of a record are read from the members of an object, and from the items of an
array that start at an index; the record's name and size are those of the whole record. -/
structure Fields (α : Type) where
  count : Nat
  ofMembers : List (String × Json) → Except MemberFault α
  ofItems : (expected : String) → (index : Nat) → List Json →
    Except DecodeFault (α × List Json)

def field {α : Type} (f : Field α) : Fields α where
  count := 1
  ofMembers members :=
    match lookup f.name members with
    | some value =>
        match f.decoder value with
        | .ok result => .ok result
        | .error fault => .error (.bad f.name fault)
    | none =>
        match f.default? with
        | some result => .ok result
        | none => .error (.missing f.name)
  ofItems expected index
    | value :: rest => (f.decoder value).map fun result => (result, rest)
    | [] =>
        match f.default? with
        | some result => .ok (result, [])
        | none => .error (.invalidLength index expected)

def required {α : Type} (name : String) (decoder : Decoder α) : Fields α :=
  field ⟨name, decoder, none⟩

def defaulted {α : Type} (name : String) (decoder : Decoder α) (value : α) : Fields α :=
  field ⟨name, decoder, some value⟩

def Fields.and {α β : Type} (first : Fields α) (second : Fields β) : Fields (α × β) where
  count := first.count + second.count
  ofMembers members :=
    match first.ofMembers members, second.ofMembers members with
    | .ok a, .ok b => .ok (a, b)
    | .error fault, .ok _ => .error fault
    | .ok _, .error fault => .error fault
    | .error fault, .error other => .error (fault.first other)
  ofItems expected index items := do
    let (a, rest) ← first.ofItems expected index items
    let (b, rest) ← second.ofItems expected (index + first.count) rest
    .ok ((a, b), rest)

def Fields.map {α β : Type} (f : α → β) (fields : Fields α) : Fields β where
  count := fields.count
  ofMembers members := (fields.ofMembers members).map f
  ofItems expected index items :=
    (fields.ofItems expected index items).map fun result => (f result.1, result.2)

def recordSize (name : String) (count : Nat) : String :=
  "struct " ++ name ++ " with " ++ toString count ++ (if count = 1 then " element" else " elements")

def record {α : Type} (name : String) (fields : Fields α) (surplus : Bool) : Decoder α
  | .obj members =>
      match fields.ofMembers members with
      | .ok result => .ok result
      | .error fault => .error fault.fault
  | .arr items =>
      match fields.ofItems (recordSize name fields.count) 0 items with
      | .error fault => .error fault
      | .ok (result, rest) =>
          if rest.isEmpty || surplus then .ok result
          else .error (.invalidLength items.length "fewer elements in array")
  | found => .error (.invalidType found ("struct " ++ name))

end AsmDiagnostics.Json
