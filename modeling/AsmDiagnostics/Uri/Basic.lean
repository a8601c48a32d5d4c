import AsmDiagnostics.Path.Basic
import AsmDiagnostics.Uri.Host
import AsmDiagnostics.Uri.Pathname

/-!
# URIs

An absolute URI in its normal form, and the reading of one from text. Blanks and controls around the
text are dropped, and so are tabs and newlines within it. The main function is `Uri.parse`; a URI of
the file scheme without a host names a path, which `Uri.filePath?` gives.
-/

namespace AsmDiagnostics

/-- An absolute URI in normal form: its text, and the parts of the text that are looked at. -/
structure Uri where
  text : String
  scheme : String
  host : String
  path : String
  deriving DecidableEq, Repr

namespace Uri

def kindOf (scheme : List Char) : SchemeKind :=
  if scheme = "file".toList then .file
  else if ["http", "https", "ws", "wss", "ftp"].contains (String.ofList scheme) then .special
  else .other

def defaultPort? (scheme : String) : Option Nat :=
  if scheme = "http" ∨ scheme = "ws" then some 80
  else if scheme = "https" ∨ scheme = "wss" then some 443
  else if scheme = "ftp" then some 21
  else none

def isAround (c : Char) : Bool := decide (c ≤ ' ')

/-- A text without the blanks and controls around it. -/
def trimmed (s : List Char) : List Char := ((s.dropWhile isAround).reverse.dropWhile isAround).reverse

def isWithin (c : Char) : Bool := c == '\t' || c == '\n' || c == '\r'

def cleaned (s : List Char) : List Char := (trimmed s).filter (!isWithin ·)

/-- The places where tabs and newlines were dropped from a text. -/
def pausesOf : List Char → Pauses
  | [] => []
  | c :: rest =>
      if isWithin c then (rest.filter (!isWithin ·)).length :: pausesOf rest else pausesOf rest

def isSchemeChar (c : Char) : Bool := c.isAlphanum || c == '+' || c == '-' || c == '.'

def scheme? (s : List Char) : Option (List Char × List Char) :=
  match s with
  | [] => none
  | c :: _ =>
      if c.isAlpha then
        match s.dropWhile isSchemeChar with
        | ':' :: rest => some ((s.takeWhile isSchemeChar).map Char.toLower, rest)
        | _ => none
      else none

/-- A query and a fragment in normal form, each with its mark. -/
def tail (kind : SchemeKind) : List Char → List Char
  | '?' :: rest =>
      let set := if kind.isSpecial then specialQuerySet else querySet
      '?' :: percentEncode set (rest.takeWhile (· != '#')) ++
        (match rest.dropWhile (· != '#') with
          | '#' :: fragment => '#' :: percentEncode fragmentSet fragment
          | _ => [])
  | '#' :: fragment => '#' :: percentEncode fragmentSet fragment
  | _ => []

def endsAuthority (kind : SchemeKind) (c : Char) : Bool :=
  c == '/' || c == '?' || c == '#' || (c == '\\' && kind.isSpecial)

/-- User name and password in normal form, with the sign that ends them, and the text behind. -/
def readCredentials (kind : SchemeKind) (input : List Char) :
    Except UriFault (List Char × List Char) :=
  let authority := input.takeWhile fun c => !endsAuthority kind c
  let after := (authority.reverse.takeWhile (· != '@')).length
  if !authority.contains '@' then .ok ([], input)
  else
    let user := authority.take (authority.length - after - 1)
    let rest := input.drop (authority.length - after)
    if user.isEmpty then
      match rest with
      | c :: _ => if endsAuthority kind c then .error .emptyHost else .ok ([], rest)
      | [] => .ok ([], rest)
    else
      let name := percentEncode userSet (user.takeWhile (· != ':'))
      let password := percentEncode userSet ((user.dropWhile (· != ':')).drop 1)
      let both := if password.isEmpty then name else name ++ ':' :: password
      .ok (if both.isEmpty then ([], rest) else (both ++ ['@'], rest))

/-- The text of a host and the text behind it; a colon within brackets belongs to the host. -/
def hostText (kind : SchemeKind) : Bool → List Char → List Char × List Char
  | _, [] => ([], [])
  | inside, c :: rest =>
      if (c == ':' && !inside) || endsAuthority kind c then ([], c :: rest)
      else
        let within := if c = '[' then true else if c = ']' then false else inside
        let found := hostText kind within rest
        (c :: found.1, found.2)

def portDigits : Nat → List Char → Except UriFault (Nat × List Char)
  | value, [] => .ok (value, [])
  | value, c :: rest =>
      match Text.digitValue? c with
      | some d =>
          if 65535 < value * 10 + d then .error .invalidPort else portDigits (value * 10 + d) rest
      | none =>
          if ['/', '\\', '?', '#'].contains c then .ok (value, c :: rest) else .error .invalidPort

/-- A port in normal form with its colon, and the text behind it; a default port is left out. -/
def readPort (scheme : List Char) : List Char → Except UriFault (List Char × List Char)
  | ':' :: input => do
      let (value, rest) ← portDigits 0 input
      if rest.length = input.length ∨ defaultPort? (String.ofList scheme) = some value then
        .ok ([], rest)
      else .ok (':' :: Text.decimal value, rest)
  | input => .ok ([], input)

def readHost (kind : SchemeKind) (input : List Char) : Except UriFault (List Char × List Char) := do
  let (text, rest) := hostText kind false input
  if kind = .special then
    if text.isEmpty then .error .emptyHost
    else
      let result ← specialHost text
      .ok (result, rest)
  else
    let result ← plainHost text
    if result.isEmpty && rest.head? == some ':' then .error .emptyHost else .ok (result, rest)

def assembled (scheme before hostPart path rest : List Char) (kind : SchemeKind) : Uri where
  text := String.ofList (scheme ++ ':' :: before ++ path ++ tail kind rest)
  scheme := String.ofList scheme
  host := String.ofList hostPart
  path := String.ofList path

def withAuthority (scheme : List Char) (kind : SchemeKind) (input : List Char) :
    Except UriFault Uri := do
  let (user, rest) ← readCredentials kind input
  let (hostPart, rest) ← readHost kind rest
  let (portPart, rest) ← readPort scheme rest
  if hostPart.isEmpty && !user.isEmpty then .error .emptyHost
  else
    let (path, rest) := readPathAfterHost kind [] true rest
    let authority := "//".toList ++ user ++ hostPart ++ portPart
    .ok (assembled scheme authority hostPart path.text rest kind)

def ofOther (scheme : List Char) (input : List Char) : Except UriFault Uri :=
  match input with
  | '/' :: '/' :: rest => withAuthority scheme .other rest
  | '/' :: rest =>
      let (path, rest) := readPath .other [] false ['/'] rest
      let guard := if path.text.take 2 = ['/', '/'] then ['/', '.'] else []
      .ok (assembled scheme guard [] path.text rest .other)
  | _ =>
      let path := input.takeWhile fun c => c != '?' && c != '#'
      let rest := input.dropWhile fun c => c != '?' && c != '#'
      .ok (assembled scheme [] [] (percentEncode controlSet path) rest .other)

def isSlash (c : Char) : Bool := c == '/' || c == '\\'

/-- A URI of the file scheme with two slashes. The local host is left out, and so is any host before
a drive letter. -/
def ofFileHost (pauses : Pauses) (scheme input : List Char) : Except UriFault Uri := do
  let written := input.takeWhile fun c => !endsAuthority .file c
  let rest := input.dropWhile fun c => !endsAuthority .file c
  if isDriveLetter written || written.isEmpty then
    let (path, rest) := readPath .file pauses false ['/'] (if written.isEmpty then rest else input)
    .ok (assembled scheme "//".toList [] path.text rest .file)
  else
    let found ← specialHost written
    if found = "localhost".toList then
      let (path, rest) := readPath .file pauses false ['/'] rest
      .ok (assembled scheme "//".toList [] path.text rest .file)
    else
      let (path, rest) := readPathAfterHost .file pauses true rest
      let kept := if path.hasHost then found else []
      .ok (assembled scheme ("//".toList ++ kept) kept path.text rest .file)

def ofFile (pauses : Pauses) (scheme input : List Char) : Except UriFault Uri :=
  match input with
  | c :: d :: rest =>
      if isSlash c && isSlash d then ofFileHost pauses scheme rest
      else if isSlash c then
        let (path, rest) := readPath .file pauses false [] (c :: d :: rest)
        .ok (assembled scheme "//".toList [] path.text rest .file)
      else
        let (path, rest) := readPath .file pauses false ['/'] (c :: d :: rest)
        .ok (assembled scheme "//".toList [] path.text rest .file)
  | _ =>
      let (path, rest) :=
        if (input.head?.map isSlash).getD false then readPath .file pauses false [] input
        else readPath .file pauses false ['/'] input
      .ok (assembled scheme "//".toList [] path.text rest .file)

def parse (s : String) : Except UriFault Uri :=
  match scheme? (cleaned s.toList) with
  | none => .error .relative
  | some (scheme, rest) =>
      match kindOf scheme with
      | .file => ofFile (pausesOf (trimmed s.toList)) scheme rest
      | .special => withAuthority scheme .special (rest.dropWhile isSlash)
      | .other => ofOther scheme rest

def closeDriveLetter (bytes : List UInt8) : List UInt8 :=
  match bytes.reverse with
  | mark :: letter :: _ :: _ =>
      if (mark == 0x3A || mark == 0x7C) && (Char.ofNat letter.toNat).isAlpha then
        bytes ++ [Path.slash]
      else bytes
  | _ => bytes

def filePath? (u : Uri) : Option Path :=
  if u.scheme = "file" ∧ u.host = "" then
    some ⟨closeDriveLetter (percentDecode (Text.bytesOf u.path))⟩
  else none

end Uri

end AsmDiagnostics
