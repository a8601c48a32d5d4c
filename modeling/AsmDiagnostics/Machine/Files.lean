import AsmDiagnostics.Path.Basic

/-!
# File trees

The folders and files of a machine. A place is the list of names on the way down from the root, and
a path leads to a place along its pieces: an empty piece and a single dot stay where they are and
two dots go up, all of them only from a folder that is there. Paths and names have a greatest size,
and no null byte.
-/

namespace AsmDiagnostics.Machine

abbrev Name := List UInt8

abbrev Place := List Name

inductive Entry where
  | folder
  | file (content : List UInt8) (executable : Bool)
  /-- A program that the machine comes with. -/
  | program (name : String)
  /-- Takes everything and has nothing in it. -/
  | nullDevice
  /-- Takes everything and has zeros in it without end. -/
  | zeroDevice
  deriving DecidableEq, Repr

/-- A file tree; the root is always a folder. -/
structure Files where
  entries : List (Place × Entry)
  deriving DecidableEq, Repr

namespace Files

def empty : Files := ⟨[]⟩

def find? (place : Place) : List (Place × Entry) → Option Entry
  | [] => none
  | (other, entry) :: rest => if other = place then some entry else find? place rest

def get? (f : Files) (place : Place) : Option Entry :=
  if place = [] then some .folder else find? place f.entries

def isFolder (f : Files) (place : Place) : Bool := f.get? place == some .folder

def putEntry (place : Place) (entry : Entry) : List (Place × Entry) → List (Place × Entry)
  | [] => [(place, entry)]
  | (other, old) :: rest =>
      if other = place then (place, entry) :: rest else (other, old) :: putEntry place entry rest

def put (f : Files) (place : Place) (entry : Entry) : Files := ⟨putEntry place entry f.entries⟩

def remove (f : Files) (place : Place) : Files :=
  ⟨f.entries.filter fun entry => !place.isPrefixOf entry.1⟩

def walk (f : Files) (place : Place) : List Name → Option Place
  | [] => if (f.get? place).isSome then some place else none
  | piece :: rest =>
      if f.isFolder place then
        match Path.ofPiece? piece with
        | none => walk f place rest
        | some .up => walk f place.dropLast rest
        | some component => walk f (place ++ [component.bytes]) rest
      else none

def origin (folder : Place) (path : Path) : Place := if path.isAbsolute then [] else folder

def maxPathSize : Nat := 4095

def maxNameSize : Nat := 255

def isUsable (path : Path) : Bool :=
  !path.bytes.isEmpty && decide (path.bytes.length ≤ maxPathSize) && !path.bytes.contains 0

def resolve? (f : Files) (folder : Place) (path : Path) : Option Place :=
  if isUsable path then f.walk (origin folder path) (Path.pieces path.bytes) else none

/-- Why the pieces of a path do not lead anywhere from a place. -/
def obstacle (f : Files) (place : Place) : List Name → String
  | [] => "No such file or directory"
  | piece :: rest =>
      if !f.isFolder place then
        if (f.get? place).isSome then "Not a directory" else "No such file or directory"
      else
        match Path.ofPiece? piece with
        | none => obstacle f place rest
        | some .up => obstacle f place.dropLast rest
        | some component =>
            if maxNameSize < component.bytes.length then "File name too long"
            else obstacle f (place ++ [component.bytes]) rest

def problem (f : Files) (folder : Place) (path : Path) : String :=
  if maxPathSize < path.bytes.length then "File name too long"
  else if path.bytes.isEmpty then "No such file or directory"
  else f.obstacle (origin folder path) (Path.pieces path.bytes)

def at? (f : Files) (folder : Place) (path : Path) : Option Entry :=
  (f.resolve? folder path).bind f.get?

def pathExists (f : Files) (folder : Place) (path : Path) : Bool :=
  (f.resolve? folder path).isSome

def target? (f : Files) (folder : Place) (path : Path) : Option Place :=
  match (Path.pieces path.bytes).reverse with
  | [] => none
  | last :: before =>
      match Path.ofPiece? last with
      | some (.name name) =>
          if !isUsable path || maxNameSize < name.length then none
          else
            (f.walk (origin folder path) before.reverse).bind fun place =>
              if f.isFolder place then some (place ++ [name]) else none
      | _ => none

def writeAt? (f : Files) (place : Place) (content : List UInt8) : Option Files :=
  match f.get? place with
  | some .folder => none
  | some .nullDevice => some f
  | some .zeroDevice => some f
  | some (.program _) => none
  | some (.file _ executable) => some (f.put place (.file content executable))
  | none => some (f.put place (.file content false))

def appendAt (f : Files) (place : Place) (content : List UInt8) : Files :=
  match f.get? place with
  | some (.file old executable) => f.put place (.file (old ++ content) executable)
  | _ => f

/-- Makes the folders that are missing on the way from a place along the pieces of a path, and says
where it leads; nothing more is made when something else is in the way. -/
def makeWay (f : Files) (place : Place) : List Name → Files × Option Place
  | [] => (f, if f.isFolder place then some place else none)
  | piece :: rest =>
      match Path.ofPiece? piece with
      | none => makeWay f place rest
      | some .up => makeWay f place.dropLast rest
      | some component =>
          let next := place ++ [component.bytes]
          match f.get? next with
          | some .folder => makeWay f next rest
          | some _ => (f, none)
          | none =>
              if maxNameSize < component.bytes.length then (f, none)
              else makeWay (f.put next .folder) next rest

/-- Makes the folders that are missing on the way along a path, which may have a slash at its end,
and says where it leads. -/
def makeFolders (f : Files) (folder : Place) (path : Path) : Files × Option Place :=
  if isUsable path then makeWay f (origin folder path) (Path.pieces path.bytes) else (f, none)

def endlessSize : Nat := 1048576

def contentAt? (f : Files) (place : Place) : Option (List UInt8) :=
  match f.get? place with
  | some (.file content _) => some content
  | some .nullDevice => some []
  | some .zeroDevice => some (List.replicate endlessSize 0)
  | some (.program _) => some []
  | _ => none

def namesIn (f : Files) (folder : Place) : List Name :=
  f.entries.filterMap fun (place, _) =>
    if place.dropLast = folder then place.getLast? else none

def pathOf (place : Place) : Path :=
  if place = [] then ⟨[Path.slash]⟩ else ⟨place.flatMap fun name => Path.slash :: name⟩

def placeOf (path : Path) : Place :=
  (Path.pieces path.bytes).filter fun piece => !piece.isEmpty

def filesBelow (f : Files) (folder : Place) : List Path :=
  f.entries.filterMap fun (place, entry) =>
    match entry with
    | .file _ _ =>
        if folder.isPrefixOf place then
          some ⟨(pathOf (place.drop folder.length)).bytes.drop 1⟩
        else none
    | _ => none

end Files

end AsmDiagnostics.Machine
