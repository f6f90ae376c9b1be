/-
  ShardBridge.Json.Value

  JSON values without a schema, and the general reader of a tree. It wants
  every string decoded and every number in range, and no more than 127 levels
  of lists and objects. Of members with one key the last one counts.
-/
import ShardBridge.Json.Tree

namespace ShardBridge.Json

/-! ## Values -/

/-- A value; the members of an object stand in the order of the text. -/
inductive Value where
  | null
  | bool (b : Bool)
  | number (n : Number)
  | string (s : String)
  | array (items : List Value)
  | object (members : List (String × Value))
  deriving Repr

namespace Value

def int (n : Int) : Value := .number (.integer n)

def nat (n : Nat) : Value := .number (.integer n)

def strings (texts : List String) : Value := .array (texts.map .string)

/-- The last of the members with this key. -/
def lastWithKey (key : String) : List (String × Value) → Option Value
  | [] => none
  | (k, v) :: rest =>
    match lastWithKey key rest with
    | some w => some w
    | none => if k = key then some v else none

def get? (key : String) : Value → Option Value
  | .object members => lastWithKey key members
  | _ => none

/-- Puts a member into a list sorted by key, in place of one with its key. -/
def insertMember (key : String) (value : Value) : List (String × Value) → List (String × Value)
  | [] => [(key, value)]
  | (k, v) :: rest =>
    if key < k then (key, value) :: (k, v) :: rest
    else if key = k then (key, value) :: rest
    else (k, v) :: insertMember key value rest

/-- The members of an object by key, each key once, with its last value. -/
def entries (members : List (String × Value)) : List (String × Value) :=
  members.foldl (fun sorted m => insertMember m.1 m.2 sorted) []

/-- A value as an error names it. -/
def found : Value → Found
  | .null => .null
  | .bool b => .bool b
  | .number n => .number n
  | .string s => .string s
  | .array _ => .sequence
  | .object _ => .map

end Value

/-! ## Faults of a tree -/

/-- The fault of a scrap, to a reader that wants its value. -/
def Scrap.fault : Scrap → Fault
  | .cutWord _ => .endOfValue
  | .wrongWord _ => .expectedWord
  | .cutNumber => .endOfValue
  | .badNumber => .invalidNumber
  | .noValue => .expectedValue

def Stop.listFault : Stop → Fault
  | .ended => .endOfList
  | .other => .expectedListCommaOrEnd
  | .commaClose => .trailingComma
  | .commaEnd => .endOfValue

def Stop.objectFault : Stop → Fault
  | .ended => .endOfObject
  | .other => .expectedObjectCommaOrEnd
  | .commaClose => .trailingComma
  | .commaEnd => .endOfValue

def Stop.colonFault : Stop → Fault
  | .ended => .endOfObject
  | _ => .expectedColon

/-- The string that a literal denotes. -/
def Literal.string (l : Literal) : Except Fault String := l.text.map String.ofList

/-! ## The general reader -/

/-- The number of levels of lists and objects that the general reader enters. -/
def greatestDepth : Nat := 127

mutual

/-- The value of a tree, below so many more levels. -/
def Tree.valueWithin : Nat → Tree → Except Fault Value
  | _, .null => .ok .null
  | _, .bool b => .ok (.bool b)
  | _, .number l => l.number.map .number
  | _, .string l => l.string.map .string
  | 0, .array _ => .error .tooDeep
  | depth + 1, .array items => (items.valuesWithin depth).map .array
  | 0, .object _ => .error .tooDeep
  | depth + 1, .object members => (members.entriesWithin depth).map .object
  | _, .missing => .error .endOfValue
  | _, .scrap s => .error s.fault

def Items.valuesWithin : Nat → Items → Except Fault (List Value)
  | _, .close => .ok []
  | depth, .item value rest =>
    match value.valueWithin depth with
    | .error f => .error f
    | .ok v => (rest.valuesWithin depth).map (v :: ·)
  | _, .stop s => .error s.listFault

def Members.entriesWithin : Nat → Members → Except Fault (List (String × Value))
  | _, .close => .ok []
  | depth, .member key value rest =>
    match key.string with
    | .error f => .error f
    | .ok k =>
      match value.valueWithin depth with
      | .error f => .error f
      | .ok v => (rest.entriesWithin depth).map ((k, v) :: ·)
  | _, .stop s => .error s.objectFault
  | _, .stray _ => .error .keyNotString
  | _, .unpaired key s =>
    match key.string with
    | .error f => .error f
    | .ok _ => .error s.colonFault

end

def Document.value (d : Document) : Except Fault Value :=
  match d.root.valueWithin greatestDepth with
  | .error f => .error f
  | .ok v => if d.trailing then .error .trailingCharacters else .ok v

/-- The value that a text denotes. -/
def Value.ofText (text : String) : Except Fault Value := (Document.ofText text.toList).value

end ShardBridge.Json
