/-
  ShardBridge.Config.Json

  Settings as JSON: an object, or a list of the settings in their order. They
  are read either from a text, in the order of the text, or from a value, whose
  members come in the order of their keys.
-/
import ShardBridge.Config
import ShardBridge.Json.Printer
import ShardBridge.Json.Schema

namespace ShardBridge.Config

open Json (Value Tree Found)

/-- The name of the settings in errors. -/
def typeName : String := "struct BridgeConfig"

/-! ## From a text -/

/-- Settings of which some were read; each may have been read as null. -/
structure Draft where
  logLevel : Option (Option String) := none
  logFormat : Option (Option LogFormat) := none
  checkpointRetries : Option (Option UInt32) := none
  checkpointRetryDelay : Option (Option UInt64) := none

def readNatural32 (t : Tree) : Json.Result UInt32 :=
  (t.asInteger .natural32).map fun n => UInt32.ofNat n.toNat

def readNatural64 (t : Tree) : Json.Result UInt64 :=
  (t.asInteger .natural64).map fun n => UInt64.ofNat n.toNat

/-- The settings as the fields of an object. -/
def shape : Json.Shape Draft Config where
  name := typeName
  fields := [
    .optional "log_level" Draft.logLevel (fun a d => { d with logLevel := some a })
      (Tree.asOptional Tree.asString),
    .optional "log_format" Draft.logFormat (fun a d => { d with logFormat := some a })
      (Tree.asOptional (Tree.asVariant LogFormat.variants)),
    .optional "checkpoint_retries" Draft.checkpointRetries
      (fun a d => { d with checkpointRetries := some a }) (Tree.asOptional readNatural32),
    .optional "checkpoint_retry_delay_ms" Draft.checkpointRetryDelay
      (fun a d => { d with checkpointRetryDelay := some a }) (Tree.asOptional readNatural64) ]
  blank := {}
  build := fun d =>
    .ok ⟨d.logLevel.join, d.logFormat.join, d.checkpointRetries.join, d.checkpointRetryDelay.join⟩

def ofJsonText (text : String) : Json.Result Config :=
  (Json.Document.ofText text.toList).read shape.ofTree

/-! ## From a value -/

def stringOf : Value → Json.Result String
  | .string s => .ok s
  | v => .error (v.found.wrongType "a string")

def integerOf (type : Json.IntegerType) : Value → Json.Result Nat
  | .number n => (type.ofNumber n).map Int.toNat
  | v => .error (v.found.wrongType type.name)

/-- The value is the name of a variant without content, or an object that names it. -/
def variantOf {α : Type} (variants : List (String × α)) : Value → Json.Result α
  | .string s => Json.variantNamed variants s
  | .object members =>
    match Value.entries members with
    | [(key, content)] =>
      match Json.variantNamed variants key with
      | .error e => .error e
      | .ok a =>
        match content with
        | .null => .ok a
        | v => .error (v.found.wrongType "unit")
    | _ => .error (Found.map.wrongValue "map with a single key")
  | v => .error (v.found.wrongType "string or map")

/-- The value is null, or something that can be read. -/
def optionalOf {α : Type} (read : Value → Json.Result α) : Value → Json.Result (Option α)
  | .null => .ok none
  | v => (read v).map some

/-- A setting by its name: how a value sets it. -/
structure Setting where
  name : String
  set : Value → Config → Json.Result Config

/-- The settings in their order. -/
def settings : List Setting :=
  [ ⟨"log_level", fun v c => (optionalOf stringOf v).map fun a => { c with logLevel := a }⟩,
    ⟨"log_format", fun v c =>
      (optionalOf (variantOf LogFormat.variants) v).map fun a => { c with logFormat := a }⟩,
    ⟨"checkpoint_retries", fun v c =>
      (optionalOf (integerOf .natural32) v).map fun a =>
        { c with checkpointRetries := a.map UInt32.ofNat }⟩,
    ⟨"checkpoint_retry_delay_ms", fun v c =>
      (optionalOf (integerOf .natural64) v).map fun a =>
        { c with checkpointRetryDelay := a.map UInt64.ofNat }⟩ ]

/-- Sets the settings that members name; other members mean nothing. -/
def setMembers : List (String × Value) → Config → Json.Result Config
  | [], c => .ok c
  | (key, v) :: rest, c =>
    match settings.find? fun s => s.name = key with
    | none => setMembers rest c
    | some s =>
      match s.set v c with
      | .error e => .error e
      | .ok c' => setMembers rest c'

/-- Sets the settings in their order. -/
def setItems : List Setting → List Value → Config → Json.Result Config
  | s :: rest, v :: values, c =>
    match s.set v c with
    | .error e => .error e
    | .ok c' => setItems rest values c'
  | _, _, c => .ok c

def ofValue : Value → Json.Result Config
  | .object members => setMembers (Value.entries members) empty
  | .array items =>
    match setItems settings items empty with
    | .error e => .error e
    | .ok c =>
      if settings.length < items.length then
        .error (.mismatch (.wrongLength items.length "fewer elements in array"))
      else .ok c
  | v => .error (v.found.wrongType typeName)

/-! ## To a value -/

/-- A member that is left out when it has no value. -/
def memberOf {α : Type} (name : String) (toValue : α → Value) : Option α → List (String × Value)
  | some a => [(name, toValue a)]
  | none => []

/-- The object that stands for settings; what is not set is left out. -/
def toJson (c : Config) : Value :=
  .object <|
    memberOf "log_level" .string c.logLevel ++
    memberOf "log_format" (fun f => .string f.name) c.logFormat ++
    memberOf "checkpoint_retries" (fun n => .nat n.toNat) c.checkpointRetries ++
    memberOf "checkpoint_retry_delay_ms" (fun n => .nat n.toNat) c.checkpointRetryDelay

end ShardBridge.Config
