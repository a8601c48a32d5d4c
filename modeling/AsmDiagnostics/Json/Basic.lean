import AsmDiagnostics.Number.Binary64

/-!
# JSON values

A JSON value. Whole numbers within 64 bits are kept exactly, every other number is a binary64
number, and the members of an object stand in the order of their keys, one for each key.
-/

namespace AsmDiagnostics

inductive Json where
  | null
  | bool (b : Bool)
  | int (n : Int)
  | real (x : Number.Binary64)
  | str (s : String)
  | arr (items : List Json)
  | obj (members : List (String × Json))
  deriving Repr, Inhabited

namespace Json

def insertMember (key : String) (value : Json) :
    List (String × Json) → List (String × Json)
  | [] => [(key, value)]
  | (other, old) :: rest =>
      if key = other then (key, value) :: rest
      else if key < other then (key, value) :: (other, old) :: rest
      else (other, old) :: insertMember key value rest

/-- The members in the order of their keys; of two members with one key the later one counts. -/
def sortMembers (members : List (String × Json)) : List (String × Json) :=
  members.foldl (fun sorted member => insertMember member.1 member.2 sorted) []

def object (members : List (String × Json)) : Json := .obj (sortMembers members)

def lookup (key : String) : List (String × Json) → Option Json
  | [] => none
  | (other, value) :: rest => if other = key then some value else lookup key rest

def get? (key : String) : Json → Option Json
  | .obj members => lookup key members
  | _ => none

def text? : Json → Option String
  | .str s => some s
  | _ => none

def nat (n : Nat) : Json := .int n

def ofOption : Option Json → Json
  | none => .null
  | some value => value

theorem lookup_insertMember_self (key : String) (value : Json) (members : List (String × Json)) :
    lookup key (insertMember key value members) = some value := by
  induction members with
  | nil => simp [insertMember, lookup]
  | cons member rest ih =>
      obtain ⟨other, old⟩ := member
      unfold insertMember
      split
      · simp [lookup]
      · split
        · simp [lookup]
        · rename_i different _
          simp [lookup, Ne.symm different, ih]

theorem lookup_insertMember_other {key other : String} (h : key ≠ other) (value : Json)
    (members : List (String × Json)) :
    lookup key (insertMember other value members) = lookup key members := by
  induction members with
  | nil => simp [insertMember, lookup, Ne.symm h]
  | cons member rest ih =>
      obtain ⟨first, old⟩ := member
      unfold insertMember
      split
      · rename_i same
        subst same
        simp [lookup, Ne.symm h]
      · split
        · simp [lookup, Ne.symm h]
        · simp [lookup, ih]

end Json

end AsmDiagnostics
