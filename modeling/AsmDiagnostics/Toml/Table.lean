import AsmDiagnostics.Json.Basic

/-!
# Tables of a TOML document

A document defines tables by headers, by dotted keys and, on the way, by the paths to both. A table
is defined once: a header may name a table that so far was only on the way, a dotted key may extend
only tables that dotted keys made, and a value is never extended.
-/

namespace AsmDiagnostics.Toml

inductive TableKind where
  /-- A header names it. -/
  | header
  /-- It is on the way to a header. -/
  | implied
  /-- It is on the way to a dotted key. -/
  | dotted
  deriving DecidableEq, Repr

inductive Node where
  | value (v : Json)
  | table (kind : TableKind) (members : List (String × Node))
  /-- An array of tables, the one added last at the front. -/
  | tables (latest : List (String × Node)) (before : List (List (String × Node)))

/-- The keys of a table, in the order they were defined. -/
abbrev Members := List (String × Node)

namespace Members

def get? (key : String) : Members → Option Node
  | [] => none
  | (other, node) :: rest => if other = key then some node else get? key rest

def replace (key : String) (node : Node) : Members → Members
  | [] => []
  | (other, old) :: rest =>
      if other = key then (other, node) :: rest else (other, old) :: replace key node rest

def wayKind (isDotted : Bool) : TableKind := if isDotted then .dotted else .implied

/-- Changes the table at a path, and makes the tables on the way that are not there; of an array of
tables the last one is meant. `change` is told the kind of the table. -/
def modify (isDotted : Bool) (change : TableKind → Members → Option Members) :
    List String → TableKind → Members → Option Members
  | [], kind, members => change kind members
  | key :: rest, _, members =>
      match get? key members with
      | none =>
          (modify isDotted change rest (wayKind isDotted) []).map fun inner =>
            members ++ [(key, .table (wayKind isDotted) inner)]
      | some (.value _) => none
      | some (.tables latest before) =>
          (modify isDotted change rest .header latest).map fun inner =>
            replace key (.tables inner before) members
      | some (.table kind inner) =>
          if isDotted && kind == .header then none
          else
            (modify isDotted change rest kind inner).map fun inner =>
              replace key (.table kind inner) members

def put? (path : List String) (key : String) (value : Json) (members : Members) :
    Option Members :=
  modify true
    (fun kind inner =>
      if !path.isEmpty && kind != .dotted then none
      else if (get? key inner).isSome then none
      else some (inner ++ [(key, .value value)]))
    path .header members

def putBelow? (header path : List String) (key : String) (value : Json) (members : Members) :
    Option Members :=
  modify false (fun _ inner => put? path key value inner) header .header members

def openTable? (path : List String) (key : String) (members : Members) : Option Members :=
  modify false
    (fun _ inner =>
      match get? key inner with
      | none => some (inner ++ [(key, .table .header [])])
      | some (.table .implied below) => some (replace key (.table .header below) inner)
      | some _ => none)
    path .header members

def openArray? (path : List String) (key : String) (members : Members) : Option Members :=
  modify false
    (fun _ inner =>
      match get? key inner with
      | none => some (inner ++ [(key, .tables [] [])])
      | some (.tables latest before) => some (replace key (.tables [] (latest :: before)) inner)
      | some _ => none)
    path .header members

end Members

mutual

def Node.json : Node → Json
  | .value v => v
  | .table _ members => Json.object (memberValues members)
  | .tables latest before =>
      .arr (tableValues before [Json.object (memberValues latest)])

def memberValues : List (String × Node) → List (String × Json)
  | [] => []
  | (key, node) :: rest => (key, node.json) :: memberValues rest

/-- Tables that were added one after another, the last one first, in front of later ones. -/
def tableValues : List (List (String × Node)) → List Json → List Json
  | [], later => later
  | members :: before, later => tableValues before (Json.object (memberValues members) :: later)

end

def Members.json (members : Members) : Json := Json.object (memberValues members)

end AsmDiagnostics.Toml
