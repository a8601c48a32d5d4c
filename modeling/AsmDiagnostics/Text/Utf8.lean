/-!
# UTF-8

Texts as bytes: encoding, strict decoding that says where and how it fails, and decoding that puts
a replacement character in the place of each malformed piece.

A malformed piece is the longest run of bytes that begins some well-formed character, or a single
byte when there is no such run.
-/

namespace AsmDiagnostics.Text

def encodeChar (c : Char) : List UInt8 :=
  let n := c.toNat
  if n < 0x80 then [UInt8.ofNat n]
  else if n < 0x800 then [UInt8.ofNat (0xC0 + n / 64), UInt8.ofNat (0x80 + n % 64)]
  else if n < 0x10000 then
    [UInt8.ofNat (0xE0 + n / 4096), UInt8.ofNat (0x80 + n / 64 % 64), UInt8.ofNat (0x80 + n % 64)]
  else
    [UInt8.ofNat (0xF0 + n / 262144), UInt8.ofNat (0x80 + n / 4096 % 64),
      UInt8.ofNat (0x80 + n / 64 % 64), UInt8.ofNat (0x80 + n % 64)]

def encode (s : List Char) : List UInt8 := s.flatMap encodeChar

def bytesOf (s : String) : List UInt8 := encode s.toList

/-- What stands at the front of a byte sequence. -/
inductive Front where
  /-- A well-formed character of so many bytes. -/
  | char (c : Char) (width : Nat)
  /-- A malformed piece of so many bytes. -/
  | malformed (width : Nat)
  /-- The bytes end inside a character. -/
  | cut
  deriving Repr

def isContinuation (b : UInt8) : Bool := decide (0x80 ≤ b) && decide (b ≤ 0xBF)

def secondOfThree (lead b : UInt8) : Bool :=
  if lead = 0xE0 then decide (0xA0 ≤ b) && decide (b ≤ 0xBF)
  else if lead = 0xED then decide (0x80 ≤ b) && decide (b ≤ 0x9F)
  else isContinuation b

def secondOfFour (lead b : UInt8) : Bool :=
  if lead = 0xF0 then decide (0x90 ≤ b) && decide (b ≤ 0xBF)
  else if lead = 0xF4 then decide (0x80 ≤ b) && decide (b ≤ 0x8F)
  else isContinuation b

/-- The low six bits of a continuation byte. -/
def payload (b : UInt8) : Nat := b.toNat % 64

def front (lead : UInt8) (rest : List UInt8) : Front :=
  if lead < 0x80 then .char (Char.ofNat lead.toNat) 1
  else if lead < 0xC2 then .malformed 1
  else if lead < 0xE0 then
    match rest with
    | [] => .cut
    | b :: _ =>
        if isContinuation b then .char (Char.ofNat ((lead.toNat - 0xC0) * 64 + payload b)) 2
        else .malformed 1
  else if lead < 0xF0 then
    match rest with
    | [] => .cut
    | b :: rest =>
        if secondOfThree lead b then
          match rest with
          | [] => .cut
          | c :: _ =>
              if isContinuation c then
                .char (Char.ofNat ((lead.toNat - 0xE0) * 4096 + payload b * 64 + payload c)) 3
              else .malformed 2
        else .malformed 1
  else if lead < 0xF5 then
    match rest with
    | [] => .cut
    | b :: rest =>
        if secondOfFour lead b then
          match rest with
          | [] => .cut
          | c :: rest =>
              if isContinuation c then
                match rest with
                | [] => .cut
                | d :: _ =>
                    if isContinuation d then
                      .char (Char.ofNat ((lead.toNat - 0xF0) * 262144 + payload b * 4096 +
                        payload c * 64 + payload d)) 4
                    else .malformed 3
              else .malformed 2
        else .malformed 1
  else .malformed 1

/-- Where and how a byte sequence stops being UTF-8. -/
inductive Utf8Fault where
  /-- A malformed piece of so many bytes starts at the index. -/
  | malformed (index width : Nat)
  /-- The bytes end inside the character that starts at the index. -/
  | cut (index : Nat)
  deriving DecidableEq, Repr

def Utf8Fault.message : Utf8Fault → String
  | .malformed index width =>
      "invalid utf-8 sequence of " ++ toString width ++ " bytes from index " ++ toString index
  | .cut index => "incomplete utf-8 byte sequence from index " ++ toString index

/-- Decodes strictly; the index counts the bytes before the given ones. -/
def decodeFrom (index : Nat) : List UInt8 → Except Utf8Fault (List Char)
  | [] => .ok []
  | lead :: rest =>
      match front lead rest with
      | .char c width => (decodeFrom (index + width) (rest.drop (width - 1))).map (c :: ·)
      | .malformed width => .error (.malformed index width)
      | .cut => .error (.cut index)
termination_by bytes => bytes.length
decreasing_by simp only [List.length_drop, List.length_cons]; omega

def decode (bytes : List UInt8) : Except Utf8Fault (List Char) := decodeFrom 0 bytes

def decode? (bytes : List UInt8) : Option (List Char) := (decode bytes).toOption

def replacement : Char := Char.ofNat 0xFFFD

def decodeLossy : List UInt8 → List Char
  | [] => []
  | lead :: rest =>
      match front lead rest with
      | .char c width => c :: decodeLossy (rest.drop (width - 1))
      | .malformed width => replacement :: decodeLossy (rest.drop (width - 1))
      | .cut => [replacement]
termination_by bytes => bytes.length
decreasing_by all_goals simp only [List.length_drop, List.length_cons]; omega

/-- The string of bytes, with a replacement character for each malformed piece. -/
def lossy (bytes : List UInt8) : String := String.ofList (decodeLossy bytes)

def string? (bytes : List UInt8) : Option String := (decode? bytes).map String.ofList

theorem encode_nil : encode [] = [] := rfl

theorem encode_cons (c : Char) (s : List Char) : encode (c :: s) = encodeChar c ++ encode s := rfl

theorem encodeChar_ne_nil (c : Char) : encodeChar c ≠ [] := by
  unfold encodeChar
  dsimp only
  repeat' split
  all_goals exact List.cons_ne_nil _ _

theorem encode_append (s t : List Char) : encode (s ++ t) = encode s ++ encode t := by
  simp [encode]

theorem decode_nil : decode [] = .ok [] := by simp [decode, decodeFrom]

end AsmDiagnostics.Text
