import AsmDiagnostics.Json.Printer
import AsmDiagnostics.Text.Blank
import AsmDiagnostics.Text.Quoted
import AsmDiagnostics.Text.Utf8

/-!
# Frames

Messages travel as frames: header lines, a blank line, and a body of as many bytes as the header
`Content-Length` says. `Frame.write` makes a frame of a body, and `Frame.next` takes the first frame
off the bytes received so far, which may end before the frame does.
-/

namespace AsmDiagnostics.Frame

def maxBody : Nat := 4 * 1024 * 1024

def lengthName : String := "Content-Length"

def header (length : Nat) : List UInt8 :=
  Text.encode (lengthName.toList ++ ": ".toList ++ Text.decimal length ++ "\r\n\r\n".toList)

def write (body : List UInt8) : List UInt8 := header body.length ++ body

def ofMessage (message : Json) : List UInt8 := write message.bytes

/-- Why bytes are not a sequence of frames. -/
inductive Fault where
  | headerNotText (fault : Text.Utf8Fault)
  | badLength (value : String) (fault : Text.NumberFault)
  | noLength
  | tooLong (length : Nat)
  | endInHeader
  | endInBody
  deriving DecidableEq, Repr

def Fault.message : Fault → String
  | .headerNotText fault => "reading header line: " ++ fault.message
  | .badLength value fault =>
      "invalid " ++ lengthName ++ " value " ++ Text.quoted value ++ ": " ++ fault.message
  | .noLength => "missing " ++ lengthName ++ " header"
  | .tooLong length =>
      lengthName ++ " " ++ toString length ++ " exceeds maximum " ++ toString maxBody
  | .endInHeader => "unexpected EOF while reading headers"
  | .endInBody => "reading frame body: early eof"

/-- What stands at the front of the bytes received. -/
inductive Next where
  /-- A frame with this body, and the bytes behind it. -/
  | frame (body rest : List UInt8)
  /-- The bytes end before the frame does, and more may come. -/
  | incomplete
  /-- The input has ended between two frames. -/
  | finished
  | broken (fault : Fault)
  deriving DecidableEq, Repr

/-- The byte that ends a header line. -/
def newline : UInt8 := 0x0A

def splitLine (input : List UInt8) : List UInt8 × List UInt8 :=
  let line := input.takeWhile (· != newline)
  match input.dropWhile (· != newline) with
  | [] => (line, [])
  | b :: rest => (line ++ [b], rest)

/-- Texts that differ at most in the case of ASCII letters. -/
def sameIgnoringCase (s t : List Char) : Bool := s.map Char.toLower == t.map Char.toLower

/-- The length that a header line gives; a line of another name, or of none, gives no length. -/
def lengthOf (line : List Char) : Except Fault (Option Nat) :=
  match line.dropWhile (· != ':') with
  | ':' :: value =>
      if sameIgnoringCase (Text.trim (line.takeWhile (· != ':'))) lengthName.toList then
        match Text.readNumber Text.maxWord64 (Text.trim value) with
        | .ok length => .ok (some length)
        | .error fault => .error (.badLength (String.ofList (Text.trim value)) fault)
      else .ok none
  | _ => .ok none

def takeBody (closed : Bool) (length? : Option Nat) (input : List UInt8) : Next :=
  match length? with
  | none => .broken .noLength
  | some length =>
      if maxBody < length then .broken (.tooLong length)
      else if input.length < length then (if closed then .broken .endInBody else .incomplete)
      else .frame (input.take length) (input.drop length)

theorem splitLine_rest_length (b : UInt8) (rest : List UInt8) :
    (splitLine (b :: rest)).2.length < (b :: rest).length := by
  unfold splitLine
  have suffix : ((b :: rest).dropWhile (· != newline)).length ≤ (b :: rest).length :=
    (List.dropWhile_sublist _).length_le
  revert suffix
  cases (b :: rest).dropWhile (· != newline) with
  | nil => intro _; exact Nat.succ_pos _
  | cons c tail => intro suffix; exact suffix

/-- Reads header lines up to the blank one, and then the body. The length is the one given last so
far; `started` says that a line has been read. `closed` says that no more bytes will come, so that
the bytes left are a line even without a newline. -/
def readHeader (closed : Bool) (started : Bool) (length? : Option Nat) (input : List UInt8) :
    Next :=
  match input with
  | [] =>
      if closed then (if started then .broken .endInHeader else .finished) else .incomplete
  | b :: tail =>
      let line := (splitLine (b :: tail)).1
      let rest := (splitLine (b :: tail)).2
      if !closed && line.getLast? != some newline then .incomplete
      else
        match Text.decode line with
        | .error fault => .broken (.headerNotText fault)
        | .ok text =>
            if Text.allBlank text then takeBody closed length? rest
            else
              match lengthOf (Text.trim text) with
              | .error fault => .broken fault
              | .ok found? => readHeader closed true (found?.or length?) rest
termination_by input.length
decreasing_by exact splitLine_rest_length b tail

def next (closed : Bool) (input : List UInt8) : Next := readHeader closed false none input

/-- A body is followed by fewer bytes than it came with. -/
theorem takeBody_rest_length {closed : Bool} {length? : Option Nat}
    {input body rest : List UInt8} (h : takeBody closed length? input = .frame body rest) :
    rest.length ≤ input.length := by
  unfold takeBody at h
  split at h
  · simp at h
  · split at h
    · simp at h
    · split at h
      · split at h <;> simp at h
      · injection h with _ same
        rw [← same]
        exact List.length_drop ▸ Nat.sub_le _ _

/-- A frame uses up some bytes. -/
theorem next_rest_length {closed : Bool} {input body rest : List UInt8}
    (h : next closed input = .frame body rest) : rest.length < input.length := by
  unfold next at h
  generalize started_eq : false = started at h
  generalize length_eq : (none : Option Nat) = length? at h
  clear started_eq length_eq
  fun_induction readHeader closed started length? input with
  | case1 => simp at h
  | case2 => simp at h
  | case3 => simp at h
  | case4 => simp at h
  | case5 => simp at h
  | case6 =>
      exact Nat.lt_of_le_of_lt (takeBody_rest_length h) (splitLine_rest_length _ _)
  | case7 => simp at h
  | case8 =>
      rename_i ih
      exact Nat.lt_trans (ih h) (splitLine_rest_length _ _)

/-- The bodies of a whole input, and the fault that ends it early. -/
def readAll (input : List UInt8) : List (List UInt8) × Option Fault :=
  match _h : next true input with
  | .frame body rest =>
      let others := readAll rest
      (body :: others.1, others.2)
  | .broken fault => ([], some fault)
  | .incomplete => ([], none)
  | .finished => ([], none)
termination_by input.length
decreasing_by exact next_rest_length _h

end AsmDiagnostics.Frame
