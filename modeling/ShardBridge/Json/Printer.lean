/-
  ShardBridge.Json.Printer

  Values as text, without a space anywhere. A string escapes quotes,
  backslashes and controls, and nothing else.
-/
import ShardBridge.Json.Value

namespace ShardBridge.Json

/-! ## Strings -/

/-- A character within a string literal. -/
def Literal.escape (c : Char) : List Char :=
  if c = '"' then ['\\', '"']
  else if c = '\\' then ['\\', '\\']
  else if c = '\x08' then ['\\', 'b']
  else if c = '\x0c' then ['\\', 'f']
  else if c = '\n' then ['\\', 'n']
  else if c = '\r' then ['\\', 'r']
  else if c = '\t' then ['\\', 't']
  else if Literal.isControl c then
    ['\\', 'u', '0', '0', Text.Quoted.hexDigit (c.toNat / 16), Text.Quoted.hexDigit (c.toNat % 16)]
  else [c]

/-- A string literal, from its first character to the closing quote. -/
def Literal.body (text : List Char) : List Char := text.flatMap Literal.escape ++ ['"']

def Literal.render (text : List Char) : List Char := '"' :: Literal.body text

/-! ## Values -/

def Number.render : Number → List Char
  | .integer n => Text.Decimal.signed n
  | .real x => x.text

mutual

def Value.render : Value → List Char
  | .null => ['n', 'u', 'l', 'l']
  | .bool true => ['t', 'r', 'u', 'e']
  | .bool false => ['f', 'a', 'l', 's', 'e']
  | .number n => n.render
  | .string s => Literal.render s.toList
  | .array [] => ['[', ']']
  | .array (v :: rest) => '[' :: (v.render ++ Value.renderItems rest)
  | .object [] => ['{', '}']
  | .object ((k, v) :: rest) =>
    '{' :: (Literal.render k.toList ++ ':' :: (v.render ++ Value.renderMembers rest))

/-- The elements of a list after its first, and the closing bracket. -/
def Value.renderItems : List Value → List Char
  | [] => [']']
  | v :: rest => ',' :: (v.render ++ Value.renderItems rest)

/-- The members of an object after its first, and the closing bracket. -/
def Value.renderMembers : List (String × Value) → List Char
  | [] => ['}']
  | (k, v) :: rest =>
    ',' :: (Literal.render k.toList ++ ':' :: (v.render ++ Value.renderMembers rest))

end

def Value.text (v : Value) : String := String.ofList v.render

end ShardBridge.Json
