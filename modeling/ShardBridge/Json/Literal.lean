/-
  ShardBridge.Json.Literal

  String literals. A reader that wants the text decodes it and stops at the
  first fault; a reader that only passes over it looks for the closing quote
  and is content with surrogates that form no character.
-/
import ShardBridge.Json.Error
import ShardBridge.Text.Utf8

namespace ShardBridge.Json

/-- A string literal as written. -/
structure Literal where
  /-- What it denotes, or the first fault in it. -/
  text : Except Fault (List Char)
  /-- Whether a reader that does not want the text gets past it. -/
  passes : Except Fault Unit
  deriving Repr

namespace Literal

/-! ## Escapes -/

def hexValue (c : Char) : Option Nat :=
  if '0' ≤ c && c ≤ '9' then some (c.toNat - '0'.toNat)
  else if 'a' ≤ c && c ≤ 'f' then some (c.toNat - 'a'.toNat + 10)
  else if 'A' ≤ c && c ≤ 'F' then some (c.toNat - 'A'.toNat + 10)
  else none

def hexQuad (a b c d : Char) : Option Nat := do
  let a ← hexValue a
  let b ← hexValue b
  let c ← hexValue c
  let d ← hexValue d
  return ((a * 16 + b) * 16 + c) * 16 + d

/-- What stands where fewer than four characters follow a `\u`: an early end, unless what is
    there takes four bytes. -/
def shortQuad (rest : List Char) : Fault :=
  if (Text.Utf8.encode rest).length < 4 then .endOfString else .invalidEscape

/-- The character of a one-letter escape. -/
def shortEscape : Char → Option Char
  | '"' => some '"'
  | '\\' => some '\\'
  | '/' => some '/'
  | 'b' => some '\x08'
  | 'f' => some '\x0c'
  | 'n' => some '\n'
  | 'r' => some '\r'
  | 't' => some '\t'
  | _ => none

/-- The number is the first half of a pair. -/
def isHigh (n : Nat) : Bool := 0xD800 ≤ n && n ≤ 0xDBFF

/-- The number is the second half of a pair. -/
def isLow (n : Nat) : Bool := 0xDC00 ≤ n && n ≤ 0xDFFF

/-- The character of a pair. -/
def ofPair (high low : Nat) : Char :=
  Char.ofNat ((high - 0xD800) * 0x400 + (low - 0xDC00) + 0x10000)

/-- The character is a control, which a literal must escape. -/
def isControl (c : Char) : Bool := c.toNat < 0x20

/-! ## Reading -/

/-- Puts a character before a decoded text. -/
def prepend (c : Char) : Except Fault (List Char × List Char) →
    Except Fault (List Char × List Char)
  | .ok (text, rest) => .ok (c :: text, rest)
  | .error f => .error f

/-- Decodes a literal, its opening quote already taken: the text, and what follows the closing
    quote. -/
def decode : List Char → Except Fault (List Char × List Char)
  | [] => .error .endOfString
  | '"' :: rest => .ok ([], rest)
  | '\\' :: 'u' :: a :: b :: c :: d :: rest =>
    match hexQuad a b c d with
    | none => .error .invalidEscape
    | some n =>
      if isLow n then .error .loneSurrogate
      else if isHigh n then
        match rest with
        | [] => .error .endOfString
        | '\\' :: [] => .error .endOfString
        | '\\' :: 'u' :: a' :: b' :: c' :: d' :: rest' =>
          match hexQuad a' b' c' d' with
          | none => .error .invalidEscape
          | some m => if isLow m then prepend (ofPair n m) (decode rest') else .error .loneSurrogate
        | '\\' :: 'u' :: rest' => .error (shortQuad rest')
        | _ => .error .unpairedSurrogate
      else prepend (Char.ofNat n) (decode rest)
  | '\\' :: 'u' :: rest => .error (shortQuad rest)
  | '\\' :: [] => .error .endOfString
  | '\\' :: e :: rest =>
    match shortEscape e with
    | some c => prepend c (decode rest)
    | none => .error .invalidEscape
  | c :: rest => if isControl c then .error .controlCharacter else prepend c (decode rest)

/-- Passes over a literal, its opening quote already taken: what follows the closing quote. -/
def pass : List Char → Except Fault (List Char)
  | [] => .error .endOfString
  | '"' :: rest => .ok rest
  | '\\' :: 'u' :: a :: b :: c :: d :: rest =>
    match hexQuad a b c d with
    | none => .error .invalidEscape
    | some _ => pass rest
  | '\\' :: 'u' :: rest => .error (shortQuad rest)
  | '\\' :: [] => .error .endOfString
  | '\\' :: e :: rest =>
    match shortEscape e with
    | some _ => pass rest
    | none => .error .invalidEscape
  | c :: rest => if isControl c then .error .controlCharacter else pass rest

/-- A literal, its opening quote already taken, and the text after it: nothing, when the closing
    quote cannot be found. -/
def scan (text : List Char) : Literal × List Char :=
  let denoted := (decode text).map Prod.fst
  match pass text with
  | .ok rest => (⟨denoted, .ok ()⟩, rest)
  | .error f => (⟨denoted, .error f⟩, [])

end Literal

end ShardBridge.Json
