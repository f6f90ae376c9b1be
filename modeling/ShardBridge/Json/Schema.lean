/-
  ShardBridge.Json.Schema

  Readers that want a value of a given type. Each takes a tree and reports the
  first thing wrong in the order of the text: a fault of form where it looks,
  a value of another type, a field that comes twice or not at all. What no
  field asks for is passed over with less care than a wanted value gets.
-/
import ShardBridge.Json.Value

namespace ShardBridge.Json

/-! ## Passing over -/

/-- The fault of a scrap, to a reader that passes over it: a number that the text cuts short is
    no different from a malformed one. -/
def Scrap.passingFault : Scrap → Fault
  | .cutNumber => .invalidNumber
  | s => s.fault

/-- The fault of a list that does not go on, to a reader that passes over it. -/
def Stop.passingListFault : Stop → Fault
  | .commaClose => .expectedValue
  | s => s.listFault

/-- The fault of an object that does not go on, to a reader that passes over it. -/
def Stop.passingObjectFault : Stop → Fault
  | .commaClose => .keyNotString
  | .commaEnd => .endOfObject
  | s => s.objectFault

mutual

/-- Passes over a value, to any depth and without decoding its strings and numbers. -/
def Tree.pass : Tree → Except Fault Unit
  | .null => .ok ()
  | .bool _ => .ok ()
  | .number _ => .ok ()
  | .string l => l.passes
  | .array items => items.pass
  | .object members => members.pass
  | .missing => .error .endOfValue
  | .scrap s => .error s.passingFault

def Items.pass : Items → Except Fault Unit
  | .close => .ok ()
  | .item value rest =>
    match value.pass with
    | .error f => .error f
    | .ok () => rest.pass
  | .stop s => .error s.passingListFault

def Members.pass : Members → Except Fault Unit
  | .close => .ok ()
  | .member key value rest =>
    match key.passes with
    | .error f => .error f
    | .ok () =>
      match value.pass with
      | .error f => .error f
      | .ok () => rest.pass
  | .stop s => .error s.passingObjectFault
  | .stray _ => .error .keyNotString
  | .unpaired key s =>
    match key.passes with
    | .error f => .error f
    | .ok () => .error s.colonFault

end

/-! ## Single values -/

/-- A fault as an error. -/
def ofFault {α : Type} : Except Fault α → Result α
  | .ok a => .ok a
  | .error f => .error (.fault f)

/-- The error of a value where another type is expected. -/
def Found.wrongType (found : Found) (expected : String) : Error :=
  .mismatch (.wrongType found expected)

/-- The error of a value outside the range of its type. -/
def Found.wrongValue (found : Found) (expected : String) : Error :=
  .mismatch (.wrongValue found expected)

def Tree.wrongType (expected : String) : Tree → Error
  | .null => Found.null.wrongType expected
  | .bool b => (Found.bool b).wrongType expected
  | .number l =>
    match l.number with
    | .ok n => (Found.number n).wrongType expected
    | .error f => .fault f
  | .string l =>
    match l.string with
    | .ok s => (Found.string s).wrongType expected
    | .error f => .fault f
  | .array _ => Found.sequence.wrongType expected
  | .object _ => Found.map.wrongType expected
  | .missing => .fault .endOfValue
  | .scrap s => .fault s.fault

def Tree.asString : Tree → Result String
  | .string l => ofFault l.string
  | t => .error (t.wrongType "a string")

/-- Nothing but null. -/
def Tree.asUnit : Tree → Result Unit
  | .null => .ok ()
  | t => .error (t.wrongType "unit")

/-- A range of whole numbers and its name. -/
structure IntegerType where
  name : String
  least : Int
  greatest : Int

/-- Signed numbers of 64 bits. -/
def IntegerType.signed64 : IntegerType :=
  ⟨"i64", -9223372036854775808, 9223372036854775807⟩

def IntegerType.natural32 : IntegerType := ⟨"u32", 0, 4294967295⟩

def IntegerType.natural64 : IntegerType := ⟨"u64", 0, 18446744073709551615⟩

/-- A number as a whole number of a type. -/
def IntegerType.ofNumber (type : IntegerType) : Number → Result Int
  | .integer n =>
    if type.least ≤ n && n ≤ type.greatest then .ok n
    else .error ((Found.number (.integer n)).wrongValue type.name)
  | .real x => .error ((Found.number (.real x)).wrongType type.name)

def Tree.asInteger (type : IntegerType) : Tree → Result Int
  | .number l =>
    match l.number with
    | .ok n => type.ofNumber n
    | .error f => .error (.fault f)
  | t => .error (t.wrongType type.name)

/-- A value or null. What begins as null does can be nothing else. -/
def Tree.asOptional {α : Type} (read : Tree → Result α) : Tree → Result (Option α)
  | .null => .ok none
  | .scrap (.cutWord 'n') => .error (.fault .endOfValue)
  | .scrap (.wrongWord 'n') => .error (.fault .expectedWord)
  | t => (read t).map some

/-! ## Variants -/

def variantNamed {α : Type} (variants : List (String × α)) (name : String) : Result α :=
  match variants.lookup name with
  | some a => .ok a
  | none => .error (.mismatch (.unknownVariant name (variants.map Prod.fst)))

/-- The variant that a literal names. -/
def Literal.variant {α : Type} (variants : List (String × α)) (l : Literal) : Result α :=
  match l.string with
  | .ok name => variantNamed variants name
  | .error f => .error (.fault f)

/-- A variant without content, written as an object: one member, whose key is its name and whose
    value is null. An empty object names none, and a key is a string here as elsewhere. -/
def Members.asVariant {α : Type} (variants : List (String × α)) : Members → Result α
  | .close => .error (.fault .expectedValue)
  | .stop s => .error (.fault s.objectFault)
  | .stray _ => .error (.fault .keyNotString)
  | .unpaired key s =>
    match key.variant variants with
    | .error e => .error e
    | .ok _ => .error (.fault s.colonFault)
  | .member key value rest =>
    match key.variant variants with
    | .error e => .error e
    | .ok a =>
      match value.asUnit with
      | .error e => .error e
      | .ok () =>
        match rest with
        | .close => .ok a
        | .stop .ended => .error (.fault .endOfObject)
        | _ => .error (.fault .expectedValue)

/-- A variant without content: its name, or an object that names it. -/
def Tree.asVariant {α : Type} (variants : List (String × α)) : Tree → Result α
  | .string l => l.variant variants
  | .object members => members.asVariant variants
  | .missing => .error (.fault .endOfValue)
  | _ => .error (.fault .expectedValue)

/-! ## Lists -/

/-- The elements of a list, each read in the same way. -/
def Items.asList {α : Type} (read : Tree → Result α) : Items → Result (List α)
  | .close => .ok []
  | .item value rest =>
    match read value with
    | .error e => .error e
    | .ok a => (rest.asList read).map (a :: ·)
  | .stop s => .error (.fault s.listFault)

def Tree.asList {α : Type} (read : Tree → Result α) : Tree → Result (List α)
  | .array items => items.asList read
  | t => .error (t.wrongType "a sequence")

/-- A list that holds fields in order is over when its fields are. -/
def Items.finish : Items → Result Unit
  | .close => .ok ()
  | .item _ _ => .error (.fault .trailingCharacters)
  | .stop .ended => .error (.fault .endOfList)
  | .stop .commaClose => .error (.fault .trailingComma)
  | .stop _ => .error (.fault .trailingCharacters)

/-! ## Objects with fields -/

/-- A field of an object that is read into a draft. -/
structure Field (δ : Type) where
  name : String
  /-- A list that holds the fields in order may end before this one. -/
  mayEndBefore : Bool
  /-- The draft has its value already. -/
  filled : δ → Bool
  /-- Reads its value into the draft. -/
  take : Tree → δ → Result δ

/-- A field that must be there, with its slot in the draft. -/
def Field.required {α δ : Type} (name : String) (slot : δ → Option α) (put : α → δ → δ)
    (read : Tree → Result α) : Field δ :=
  ⟨name, false, fun d => (slot d).isSome, fun t d => (read t).map (put · d)⟩

/-- A field that may be left out, with its slot in the draft. -/
def Field.optional {α δ : Type} (name : String) (slot : δ → Option α) (put : α → δ → δ)
    (read : Tree → Result α) : Field δ :=
  { Field.required name slot put read with mayEndBefore := true }

def fieldNamed {δ : Type} (fields : List (Field δ)) (name : String) : Option (Field δ) :=
  fields.find? fun f => f.name = name

/-- Reads the members of an object into a draft. A member whose key no field has is passed over;
    a field that comes again is noticed at its key. -/
def Members.fill {δ : Type} (fields : List (Field δ)) : Members → δ → Result δ
  | .close, draft => .ok draft
  | .member key value rest, draft =>
    match key.string with
    | .error f => .error (.fault f)
    | .ok name =>
      match fieldNamed fields name with
      | some field =>
        if field.filled draft then .error (.mismatch (.duplicateField name))
        else
          match field.take value draft with
          | .error e => .error e
          | .ok draft' => rest.fill fields draft'
      | none =>
        match value.pass with
        | .error f => .error (.fault f)
        | .ok () => rest.fill fields draft
  | .stop s, _ => .error (.fault s.objectFault)
  | .stray _, _ => .error (.fault .keyNotString)
  | .unpaired key s, draft =>
    match key.string with
    | .error f => .error (.fault f)
    | .ok name =>
      if (fieldNamed fields name).any (·.filled draft) then
        .error (.mismatch (.duplicateField name))
      else .error (.fault s.colonFault)

/-- Reads the elements of a list, from a position on, into the fields of a draft in their order.
    The list must not go on after the last of them. -/
def Items.fill {δ : Type} (expected : String) : List (Field δ) → Nat → Items → δ → Result δ
  | [], _, items, draft => items.finish.map fun () => draft
  | field :: fields, i, .close, draft =>
    if field.mayEndBefore then Items.fill expected fields (i + 1) .close draft
    else .error (.mismatch (.wrongLength i expected))
  | field :: fields, i, .item value rest, draft =>
    match field.take value draft with
    | .error e => .error e
    | .ok draft' => Items.fill expected fields (i + 1) rest draft'
  | _ :: _, _, .stop s, _ => .error (.fault s.listFault)

/-- The value of a field that must be there. -/
def present {α : Type} (name : String) : Option α → Result α
  | some a => .ok a
  | none => .error (.mismatch (.missingField name))

/-- A type that is read from an object, or from a list of its fields in order. -/
structure Shape (δ α : Type) where
  name : String
  fields : List (Field δ)
  /-- The draft with no field filled. -/
  blank : δ
  /-- The value of a draft, once everything was read. -/
  build : δ → Result α

/-- Its name in the error of a list that is too short. -/
def Shape.lengthName {δ α : Type} (shape : Shape δ α) : String :=
  shape.name ++ " with " ++ toString shape.fields.length ++ " elements"

/-- Reads the members of an object. -/
def Shape.ofMembers {δ α : Type} (shape : Shape δ α) (members : Members) : Result α :=
  match members.fill shape.fields shape.blank with
  | .error e => .error e
  | .ok draft => shape.build draft

def Shape.ofItems {δ α : Type} (shape : Shape δ α) (items : Items) : Result α :=
  match items.fill shape.lengthName shape.fields 0 shape.blank with
  | .error e => .error e
  | .ok draft => shape.build draft

def Shape.ofTree {δ α : Type} (shape : Shape δ α) : Tree → Result α
  | .array items => shape.ofItems items
  | .object members => shape.ofMembers members
  | t => .error (t.wrongType shape.name)

/-! ## Whole texts -/

/-- Reads a whole text: nothing but space may follow the value. -/
def Document.read {α : Type} (d : Document) (reader : Tree → Result α) : Result α :=
  match reader d.root with
  | .error e => .error e
  | .ok a => if d.trailing then .error (.fault .trailingCharacters) else .ok a

end ShardBridge.Json
