/-
  ShardBridge.Json.Error

  What can be wrong with a JSON text: a fault of its form, or a value that is
  not what its place in a schema asks for. Each has one wording, which goes on
  with the place where the text was left, if one is known, and falls into one of
  three categories.
-/
import ShardBridge.Number.Shortest
import ShardBridge.Text.Quoted

namespace ShardBridge.Json

/-! ## Numbers -/

/-- A number as a reader sees it. A whole number keeps its exact value from `-2^63` up to
    `2^64 - 1`; everything else is a binary floating point number. -/
inductive Number where
  | integer (n : Int)
  | real (x : Number.Binary64)
  deriving DecidableEq, Repr

/-! ## Faults of form -/

/-- The ways in which a text fails to be JSON. -/
inductive Fault where
  | endOfList
  | endOfObject
  | endOfString
  | endOfValue
  | expectedColon
  | expectedListCommaOrEnd
  | expectedObjectCommaOrEnd
  | expectedWord
  | expectedValue
  | invalidEscape
  | invalidNumber
  | numberOutOfRange
  | loneSurrogate
  | unpairedSurrogate
  | controlCharacter
  | keyNotString
  | trailingComma
  | trailingCharacters
  | tooDeep
  deriving DecidableEq, Repr

def Fault.message : Fault → String
  | .endOfList => "EOF while parsing a list"
  | .endOfObject => "EOF while parsing an object"
  | .endOfString => "EOF while parsing a string"
  | .endOfValue => "EOF while parsing a value"
  | .expectedColon => "expected `:`"
  | .expectedListCommaOrEnd => "expected `,` or `]`"
  | .expectedObjectCommaOrEnd => "expected `,` or `\x7d`"
  | .expectedWord => "expected ident"
  | .expectedValue => "expected value"
  | .invalidEscape => "invalid escape"
  | .invalidNumber => "invalid number"
  | .numberOutOfRange => "number out of range"
  | .loneSurrogate => "lone leading surrogate in hex escape"
  | .unpairedSurrogate => "unexpected end of hex escape"
  | .controlCharacter => "control character (\\u0000-\\u001F) found while parsing a string"
  | .keyNotString => "key must be a string"
  | .trailingComma => "trailing comma"
  | .trailingCharacters => "trailing characters"
  | .tooDeep => "recursion limit exceeded"

/-- The text ended too early: more text could mend it. -/
def Fault.isEnd : Fault → Bool
  | .endOfList | .endOfObject | .endOfString | .endOfValue => true
  | _ => false

/-! ## Values out of place -/

/-- A value as an error names it. -/
inductive Found where
  | null
  | bool (b : Bool)
  | number (n : Number)
  | string (s : String)
  | sequence
  | map
  deriving DecidableEq, Repr

def Found.name : Found → String
  | .null => "null"
  | .bool true => "boolean `true`"
  | .bool false => "boolean `false`"
  | .number (.integer n) => "integer `" ++ String.ofList (Text.Decimal.signed n) ++ "`"
  | .number (.real x) => "floating point `" ++ String.ofList x.text ++ "`"
  | .string s => "string " ++ Text.Quoted.quote s
  | .sequence => "sequence"
  | .map => "map"

/-- The ways in which a value is not what its place asks for. -/
inductive Mismatch where
  | wrongType (found : Found) (expected : String)
  | wrongValue (found : Found) (expected : String)
  | wrongLength (length : Nat) (expected : String)
  | missingField (name : String)
  | duplicateField (name : String)
  | unknownVariant (name : String) (variants : List String)
  deriving DecidableEq, Repr

/-- The variants that would have been right. -/
def expectedVariants : List String → String
  | [] => "there are no variants"
  | [a] => "expected `" ++ a ++ "`"
  | [a, b] => "expected `" ++ a ++ "` or `" ++ b ++ "`"
  | names => "expected one of " ++ String.intercalate ", " (names.map fun n => "`" ++ n ++ "`")

def Mismatch.message : Mismatch → String
  | .wrongType found expected => "invalid type: " ++ found.name ++ ", expected " ++ expected
  | .wrongValue found expected => "invalid value: " ++ found.name ++ ", expected " ++ expected
  | .wrongLength n expected => "invalid length " ++ toString n ++ ", expected " ++ expected
  | .missingField name => "missing field `" ++ name ++ "`"
  | .duplicateField name => "duplicate field `" ++ name ++ "`"
  | .unknownVariant name variants =>
    "unknown variant `" ++ name ++ "`, " ++ expectedVariants variants

/-! ## Places -/

/-- A place in a text, in words of the machine. -/
structure Place where
  /-- Counted from one. -/
  line : UInt64
  /-- The number of bytes of the line up to the place. -/
  column : UInt64
  deriving DecidableEq, Repr

/-- The place as an error names it. -/
def Place.words (p : Place) : String :=
  " at line " ++ String.ofList (Text.Decimal.digits p.line.toNat) ++
    " column " ++ String.ofList (Text.Decimal.digits p.column.toNat)

/-! ## Errors -/

/-- Why a text was not read. -/
inductive Error where
  | fault (f : Fault)
  | mismatch (m : Mismatch)
  deriving DecidableEq, Repr

/-- What is wrong, without the place. -/
def Error.words : Error → String
  | .fault f => f.message
  | .mismatch m => m.message

/-- The wording of an error, with the place where the text was left. A value that does not come
    from a text has no place. -/
def Error.message (place : Option Place) (e : Error) : String :=
  e.words ++ (place.map Place.words).getD ""

/-- The three categories of error: of form, of an early end, of content. -/
inductive Category where
  | form
  | ending
  | content
  deriving DecidableEq, Repr

def Category.name : Category → String
  | .form => "syntax"
  | .ending => "eof"
  | .content => "data"

def Error.category : Error → Category
  | .fault f => if f.isEnd then .ending else .form
  | .mismatch _ => .content

/-- A reader's result. -/
abbrev Result (α : Type) := Except Error α

end ShardBridge.Json
