import AsmDiagnostics.Diagnostic
import AsmDiagnostics.Uri.Basic

/-!
# Open documents

The documents that an editor has open, with their versions and texts. A place in a text is a line
and a column that counts UTF-16 units; a place behind the end of a line or of the text means that
end. An edit replaces the text between two places, or the whole text.
-/

namespace AsmDiagnostics

structure Edit where
  range? : Option Range
  text : String
  deriving DecidableEq, Repr

structure TextDocument where
  version : Int
  text : String
  deriving DecidableEq, Repr

namespace TextDocument

def utf16Width (c : Char) : Nat := if c.toNat < 0x10000 then 1 else 2

/-- The number of characters up to a column, on the line at the front of a text of which so many
units are behind. The units are counted in a word, which starts again from zero when it is full. -/
def columnOffset (column : UInt32) : UInt32 → List Char → Nat
  | _, [] => 0
  | units, c :: rest =>
      if column ≤ units ∨ c = '\n' then 0
      else columnOffset column (units + UInt32.ofNat (utf16Width c)) rest + 1

def offset : Nat → UInt32 → List Char → Nat
  | 0, column, s => columnOffset column 0 s
  | _ + 1, _, [] => 0
  | line + 1, column, c :: rest =>
      if c = '\n' then offset line column rest + 1 else offset (line + 1) column rest + 1

def offsetAt (s : List Char) (p : Position) : Nat := offset p.line.toNat p.character s

def splice (s : List Char) (start stop : Nat) (new : List Char) : List Char :=
  s.take start ++ new ++ s.drop stop

/-- The text after an edit; a stretch that ends before it starts is empty. -/
def edited (s : List Char) (e : Edit) : List Char :=
  match e.range? with
  | none => e.text.toList
  | some range =>
      let start := offsetAt s range.start
      splice s start (max (offsetAt s range.stop) start) e.text.toList

def change (d : TextDocument) (version : Int) (edits : List Edit) : TextDocument :=
  ⟨version, String.ofList (edits.foldl edited d.text.toList)⟩

end TextDocument

/-- The open documents, in the order of their URIs. -/
structure Documents where
  entries : List (Uri × TextDocument)
  deriving DecidableEq, Repr

namespace Documents

def none : Documents := ⟨[]⟩

def find? (uri : Uri) : List (Uri × TextDocument) → Option TextDocument
  | [] => Option.none
  | (other, document) :: rest => if other = uri then some document else find? uri rest

def put (uri : Uri) (document : TextDocument) :
    List (Uri × TextDocument) → List (Uri × TextDocument)
  | [] => [(uri, document)]
  | (other, old) :: rest =>
      if other = uri then (uri, document) :: rest
      else if uri.text < other.text then (uri, document) :: (other, old) :: rest
      else (other, old) :: put uri document rest

def get? (d : Documents) (uri : Uri) : Option TextDocument := find? uri d.entries

def contains (d : Documents) (uri : Uri) : Bool := (d.get? uri).isSome

def uris (d : Documents) : List Uri := d.entries.map Prod.fst

def openAt (d : Documents) (uri : Uri) (version : Int) (text : String) : Documents :=
  ⟨put uri ⟨version, text⟩ d.entries⟩

def change? (d : Documents) (uri : Uri) (version : Int) (edits : List Edit) :
    Option Documents :=
  (d.get? uri).map fun document => ⟨put uri (document.change version edits) d.entries⟩

def close (d : Documents) (uri : Uri) : Documents :=
  ⟨d.entries.filter fun entry => entry.1 ≠ uri⟩

theorem find?_put_self (uri : Uri) (document : TextDocument)
    (entries : List (Uri × TextDocument)) :
    find? uri (put uri document entries) = some document := by
  induction entries with
  | nil => simp [put, find?]
  | cons entry rest ih =>
      obtain ⟨other, old⟩ := entry
      unfold put
      split
      · simp [find?]
      · split
        · simp [find?]
        · rename_i different _
          simp [find?, different, ih]

theorem get?_openAt_self (d : Documents) (uri : Uri) (version : Int) (text : String) :
    (d.openAt uri version text).get? uri = some ⟨version, text⟩ :=
  find?_put_self uri _ d.entries

end Documents

end AsmDiagnostics
