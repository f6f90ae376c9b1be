/-
  ShardBridge.Text.Utf8

  Bytes as text. A byte string is cut into pieces from the left: whole
  characters, and stretches that are no character. Strict reading stops at the
  first such stretch and says where it stands; lenient reading puts the
  replacement character in its place. Writing is the inverse of strict reading.
-/

namespace ShardBridge.Text.Utf8

/-! ## Writing -/

/-- The bytes of one character: one to four, by the size of its number. -/
def encodeChar (c : Char) : List UInt8 :=
  let n := c.toNat
  if n < 0x80 then [UInt8.ofNat n]
  else if n < 0x800 then [UInt8.ofNat (0xC0 + n / 0x40), UInt8.ofNat (0x80 + n % 0x40)]
  else if n < 0x10000 then
    [UInt8.ofNat (0xE0 + n / 0x1000), UInt8.ofNat (0x80 + n / 0x40 % 0x40),
      UInt8.ofNat (0x80 + n % 0x40)]
  else
    [UInt8.ofNat (0xF0 + n / 0x40000), UInt8.ofNat (0x80 + n / 0x1000 % 0x40),
      UInt8.ofNat (0x80 + n / 0x40 % 0x40), UInt8.ofNat (0x80 + n % 0x40)]

def encode (text : List Char) : List UInt8 := text.flatMap encodeChar

def width (c : Char) : Nat := (encodeChar c).length

def bytesOf (text : String) : List UInt8 := encode text.toList

/-! ## Pieces -/

/-- A stretch of a byte string. -/
inductive Piece where
  /-- The bytes of this character. -/
  | whole (c : Char)
  /-- So many bytes that start no character, whatever follows them. -/
  | bad (length : Nat)
  /-- So many bytes at the very end that more bytes could complete to a character. -/
  | cut (length : Nat)
  deriving DecidableEq, Repr

def Piece.length : Piece → Nat
  | .whole c => width c
  | .bad n => n
  | .cut n => n

/-- The byte continues a character. -/
def isTail (b : UInt8) : Bool := 0x80 ≤ b && b ≤ 0xBF

/-- The byte may come second in a character of three bytes that starts with `a`: overlong forms
    and surrogates are shut out here. -/
def isSecondOfThree (a b : UInt8) : Bool :=
  (if a = 0xE0 then 0xA0 else 0x80) ≤ b && b ≤ (if a = 0xED then 0x9F else 0xBF)

/-- The byte may come second in a character of four bytes that starts with `a`: overlong forms
    and numbers past the last character are shut out here. -/
def isSecondOfFour (a b : UInt8) : Bool :=
  (if a = 0xF0 then 0x90 else 0x80) ≤ b && b ≤ (if a = 0xF4 then 0x8F else 0xBF)

/-- The character made of two bytes. -/
def ofTwo (a b : UInt8) : Char := Char.ofNat ((a.toNat - 0xC0) * 0x40 + (b.toNat - 0x80))

/-- The character made of three bytes. -/
def ofThree (a b c : UInt8) : Char :=
  Char.ofNat ((a.toNat - 0xE0) * 0x1000 + (b.toNat - 0x80) * 0x40 + (c.toNat - 0x80))

/-- The character made of four bytes. -/
def ofFour (a b c d : UInt8) : Char :=
  Char.ofNat ((a.toNat - 0xF0) * 0x40000 + (b.toNat - 0x80) * 0x1000 + (c.toNat - 0x80) * 0x40 +
    (d.toNat - 0x80))

/-- The piece that a byte string starts with, from its first byte and the bytes after it. A
    stretch that is no character ends before the first byte that could not continue it. -/
def firstPiece (a : UInt8) (rest : List UInt8) : Piece :=
  if a < 0x80 then .whole (Char.ofNat a.toNat)
  else if 0xC2 ≤ a && a ≤ 0xDF then
    match rest with
    | [] => .cut 1
    | b :: _ => if isTail b then .whole (ofTwo a b) else .bad 1
  else if 0xE0 ≤ a && a ≤ 0xEF then
    match rest with
    | [] => .cut 1
    | b :: rest' =>
      if isSecondOfThree a b then
        match rest' with
        | [] => .cut 2
        | c :: _ => if isTail c then .whole (ofThree a b c) else .bad 2
      else .bad 1
  else if 0xF0 ≤ a && a ≤ 0xF4 then
    match rest with
    | [] => .cut 1
    | b :: rest' =>
      if isSecondOfFour a b then
        match rest' with
        | [] => .cut 2
        | c :: rest'' =>
          if isTail c then
            match rest'' with
            | [] => .cut 3
            | d :: _ => if isTail d then .whole (ofFour a b c d) else .bad 3
          else .bad 2
      else .bad 1
  else .bad 1

/-- The pieces of a byte string after so many of its bytes. -/
def piecesAfter : Nat → List UInt8 → List Piece
  | _, [] => []
  | 0, a :: rest => firstPiece a rest :: piecesAfter ((firstPiece a rest).length - 1) rest
  | n + 1, _ :: rest => piecesAfter n rest

def pieces (bytes : List UInt8) : List Piece := piecesAfter 0 bytes

/-! ## Reading -/

/-- Where a byte string stops being text. -/
structure Malformation where
  /-- The number of bytes before the stretch that is no character. -/
  validUpTo : Nat
  /-- The length of that stretch; none when the bytes end inside a character. -/
  errorLength : Option Nat
  deriving DecidableEq, Repr

def Malformation.message (m : Malformation) : String :=
  match m.errorLength with
  | some n =>
    "invalid utf-8 sequence of " ++ toString n ++ " bytes from index " ++ toString m.validUpTo
  | none => "incomplete utf-8 byte sequence from index " ++ toString m.validUpTo

/-- The characters of the pieces, or the first piece that is none. -/
def textOf (offset : Nat) : List Piece → Except Malformation (List Char)
  | [] => .ok []
  | .whole c :: rest => (textOf (offset + width c) rest).map (c :: ·)
  | .bad n :: _ => .error ⟨offset, some n⟩
  | .cut _ :: _ => .error ⟨offset, none⟩

/-- Strict reading. -/
def decode (bytes : List UInt8) : Except Malformation (List Char) := textOf 0 (pieces bytes)

/-- A piece as lenient reading shows it. -/
def Piece.shown : Piece → Char
  | .whole c => c
  | .bad _ => '\ufffd'
  | .cut _ => '\ufffd'

/-- Lenient reading: every stretch that is no character becomes one replacement character. -/
def decodeLenient (bytes : List UInt8) : List Char := (pieces bytes).map Piece.shown

def decode? (bytes : List UInt8) : Option String :=
  match decode bytes with
  | .ok text => some (String.ofList text)
  | .error _ => none

end ShardBridge.Text.Utf8
