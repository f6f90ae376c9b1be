/-
  ShardBridge.Base64

  Bytes in the standard base64 alphabet. Three bytes are four symbols; a last
  group of one or two bytes is filled up with padding. Only the padded form
  with no stray bits in its last symbol is read, and a text that is refused is
  refused for the first thing wrong with it from the left.
-/
import ShardBridge.Text.Utf8

namespace ShardBridge.Base64

/-! ## The alphabet -/

/-- The symbol of a number below 64. -/
def symbol (n : Nat) : UInt8 :=
  if n < 26 then UInt8.ofNat (n + 65)
  else if n < 52 then UInt8.ofNat (n - 26 + 97)
  else if n < 62 then UInt8.ofNat (n - 52 + 48)
  else if n = 62 then 43
  else 47

def pad : UInt8 := 61

/-- The number that a symbol stands for. -/
def symbolValue (b : UInt8) : Option Nat :=
  let n := b.toNat
  if 65 ≤ n && n ≤ 90 then some (n - 65)
  else if 97 ≤ n && n ≤ 122 then some (n - 97 + 26)
  else if 48 ≤ n && n ≤ 57 then some (n - 48 + 52)
  else if n = 43 then some 62
  else if n = 47 then some 63
  else none

/-! ## Writing -/

/-- The symbols of a byte string. -/
def encode : List UInt8 → List UInt8
  | [] => []
  | [a] =>
    let n := a.toNat
    [symbol (n / 4), symbol (n % 4 * 16), pad, pad]
  | [a, b] =>
    let n := a.toNat * 256 + b.toNat
    [symbol (n / 1024), symbol (n / 16 % 64), symbol (n % 16 * 4), pad]
  | a :: b :: c :: rest =>
    let n := a.toNat * 65536 + b.toNat * 256 + c.toNat
    symbol (n / 262144) :: symbol (n / 4096 % 64) :: symbol (n / 64 % 64) :: symbol (n % 64) ::
      encode rest

def encodeText (bytes : List UInt8) : String :=
  String.ofList ((encode bytes).map fun b => Char.ofNat b.toNat)

/-! ## Reading -/

/-- Why a text is not the base64 form of any bytes. -/
inductive Error where
  /-- A byte that may not stand where it stands. -/
  | invalidSymbol (byte : UInt8) (offset : Nat)
  /-- A single symbol is left over. -/
  | invalidLength (length : Nat)
  /-- A last symbol that carries bits beyond the bytes. -/
  | invalidLastSymbol (byte : UInt8) (offset : Nat)
  /-- The last group is not filled up. -/
  | invalidPadding
  deriving DecidableEq, Repr

def Error.message : Error → String
  | .invalidSymbol b n =>
    "Invalid symbol " ++ toString b.toNat ++ ", offset " ++ toString n ++ "."
  | .invalidLength n => "Invalid input length: " ++ toString n
  | .invalidLastSymbol b n =>
    "Invalid last symbol " ++ toString b.toNat ++ ", offset " ++ toString n ++ "."
  | .invalidPadding => "Invalid padding"

/-- The value of a symbol at an offset. -/
def valueAt (b : UInt8) (offset : Nat) : Except Error Nat :=
  match symbolValue b with
  | some n => .ok n
  | none => .error (.invalidSymbol b offset)

/-- The bytes of a last group of two symbols. -/
def lastOne (x y : Nat) (last : UInt8) (offset : Nat) : Except Error (List UInt8) :=
  if y % 16 = 0 then .ok [UInt8.ofNat (x * 4 + y / 16)]
  else .error (.invalidLastSymbol last (offset + 1))

/-- The bytes of a last group of three symbols. -/
def lastTwo (x y z : Nat) (last : UInt8) (offset : Nat) : Except Error (List UInt8) :=
  if z % 4 = 0 then
    .ok [UInt8.ofNat (x * 4 + y / 16), UInt8.ofNat (y % 16 * 16 + z / 4)]
  else .error (.invalidLastSymbol last (offset + 2))

def wholeGroup (w x y z : Nat) : List UInt8 :=
  [UInt8.ofNat (w * 4 + x / 16), UInt8.ofNat (x % 16 * 16 + y / 4), UInt8.ofNat (y % 4 * 64 + z)]

/-- The bytes of the last group, which may be padded and may be too short. -/
def decodeLast (offset : Nat) : List UInt8 → Except Error (List UInt8)
  | [] => .ok []
  | [a] => do
    let _ ← valueAt a offset
    .error (.invalidLength (offset + 1))
  | [a, b] => do
    let _ ← valueAt a offset
    let _ ← valueAt b (offset + 1)
    .error .invalidPadding
  | [a, b, c] => do
    let _ ← valueAt a offset
    let _ ← valueAt b (offset + 1)
    if c ≠ pad then
      let _ ← valueAt c (offset + 2)
    .error .invalidPadding
  | a :: b :: c :: d :: _ => do
    let w ← valueAt a offset
    let x ← valueAt b (offset + 1)
    if c = pad then
      if d = pad then lastOne w x b offset
      else .error (.invalidSymbol pad (offset + 2))
    else
      let y ← valueAt c (offset + 2)
      if d = pad then lastTwo w x y c offset
      else
        let z ← valueAt d (offset + 3)
        .ok (wholeGroup w x y z)

/-- Reads groups from an offset on. All but the last are whole. -/
def decodeFrom (offset : Nat) : List UInt8 → Except Error (List UInt8)
  | a :: b :: c :: d :: e :: rest => do
    let w ← valueAt a offset
    let x ← valueAt b (offset + 1)
    let y ← valueAt c (offset + 2)
    let z ← valueAt d (offset + 3)
    let bytes ← decodeFrom (offset + 4) (e :: rest)
    .ok (wholeGroup w x y z ++ bytes)
  | text => decodeLast offset text

/-- A lone last byte that is no symbol is noticed before everything else. -/
def strayLast (text : List UInt8) : Option Error :=
  match text.getLast? with
  | some b =>
    if text.length % 4 = 1 && b ≠ pad && (symbolValue b).isNone then
      some (.invalidSymbol b (text.length - 1))
    else none
  | none => none

/-- The bytes that a text stands for. -/
def decode (text : List UInt8) : Except Error (List UInt8) :=
  match strayLast text with
  | some e => .error e
  | none => decodeFrom 0 text

def decodeText (text : String) : Except Error (List UInt8) := decode (Text.Utf8.bytesOf text)

end ShardBridge.Base64
