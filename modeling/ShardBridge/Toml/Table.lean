/-
  ShardBridge.Toml.Table

  Tables in TOML, and the rules by which they grow. A table comes into being
  through a header of its own, through a header of a table within it, through
  dotted keys, or inline; how it came to be decides what may still be added.
-/

namespace ShardBridge.Toml

/-- How a table came to be. -/
inductive Origin where
  /-- It has a header. -/
  | header
  /-- A table within it has a header. -/
  | implied
  /-- A dotted key goes through it. -/
  | dotted
  /-- It is written as a value, and is complete. -/
  | inline
  deriving DecidableEq, Repr

inductive Value where
  | string (text : List Char)
  | integer (n : Int)
  | boolean (b : Bool)
  | real
  | moment
  | array (items : List Value)
  | table (origin : Origin) (entries : List (String × Value))
  /-- Tables with one and the same header, the latest first. -/
  | tables (all : List (List (String × Value)))
  deriving Repr

abbrev Entries := List (String × Value)

namespace Entries

/-- The entries with another value for a key, in its place. -/
def replace (key : String) (v : Value) (entries : Entries) : Entries :=
  entries.map fun entry => if entry.1 = key then (key, v) else entry

def remove (key : String) (entries : Entries) : Entries := entries.filter fun e => e.1 ≠ key

/-- Adds a key that is not there yet. -/
def insert? (key : String) (v : Value) (entries : Entries) : Option Entries :=
  match entries.lookup key with
  | some _ => none
  | none => some (entries ++ [(key, v)])

/-- Changes the table at a path, and gives what the change gives besides. Tables that are missing
    on the way are put there. A dotted key goes through no table that has a header, and nothing
    goes through a value. -/
def alter {α : Type} (dotted : Bool) (change : Origin → Entries → Option (α × Entries)) :
    List String → Origin → Entries → Option (α × Entries)
  | [], origin, entries => change origin entries
  | key :: path, _, entries =>
    match entries.lookup key with
    | none => do
      let origin := if dotted then .dotted else .implied
      let (a, sub) ← alter dotted change path origin []
      return (a, entries ++ [(key, .table origin sub)])
    | some (.table origin sub) =>
      if origin = .inline || (dotted && origin = .header) then none
      else do
        let (a, sub') ← alter dotted change path origin sub
        return (a, entries.replace key (.table origin sub'))
    | some (.tables (latest :: earlier)) => do
      let (a, latest') ← alter dotted change path .header latest
      return (a, entries.replace key (.tables (latest' :: earlier)))
    | some _ => none

/-- Sets a key, with the dotted keys before it. A table that a dotted key ends in must have come
    from dotted keys alone. -/
def set (path : List String) (key : String) (v : Value) (entries : Entries) : Option Entries :=
  (alter true (fun origin sub =>
    if decide (origin = .dotted) = path.isEmpty then none
    else (sub.insert? key v).map fun sub' => ((), sub')) path .header entries).map Prod.snd

end Entries

/-! ## Documents -/

/-- A line that is not blank. -/
inductive Line where
  /-- A key with its value, and the dotted keys before it. -/
  | pair (path : List String) (key : String) (v : Value)
  /-- The header of a table. -/
  | table (path : List String) (key : String)
  /-- The header of one more of several tables. -/
  | element (path : List String) (key : String)

/-- The table that lines are put into. -/
inductive Section where
  /-- The document itself. -/
  | root
  | table (path : List String) (key : String)
  | element (path : List String) (key : String)

/-- A document of which some lines were taken. -/
structure Draft where
  /-- The tables that are complete. -/
  root : Entries := []
  current : Section := .root
  /-- The table that lines are put into now. -/
  entries : Entries := []

namespace Draft

/-- Puts the current table in its place. -/
def settle (d : Draft) : Option Entries :=
  match d.current with
  | .root => some d.entries
  | .table path key =>
    (Entries.alter false (fun _ sub =>
      (sub.insert? key (.table .header d.entries)).map fun sub' => ((), sub'))
      path .header d.root).map Prod.snd
  | .element path key =>
    (Entries.alter false (fun _ sub =>
      match sub.lookup key with
      | some (.tables all) => some ((), sub.replace key (.tables (d.entries :: all)))
      | _ => none) path .header d.root).map Prod.snd

/-- Takes a table out that so far was only implied, for its lines to come; a table that is not
    there is empty. -/
def reopen (key : String) (sub : Entries) : Option (Entries × Entries) :=
  match sub.lookup key with
  | none => some ([], sub)
  | some (.table .implied entries) => some (entries, sub.remove key)
  | some _ => none

/-- Makes room for one more of several tables. -/
def makeRoom (key : String) (sub : Entries) : Option (Unit × Entries) :=
  match sub.lookup key with
  | none => some ((), sub ++ [(key, .tables [])])
  | some (.tables _) => some ((), sub)
  | some _ => none

/-- Takes a line. -/
def take (d : Draft) : Line → Option Draft
  | .pair path key v => (d.entries.set path key v).map fun entries => { d with entries }
  | .table path key => do
    let root ← d.settle
    let (entries, root') ← Entries.alter false (fun _ => reopen key) path .header root
    return ⟨root', .table path key, entries⟩
  | .element path key => do
    let root ← d.settle
    let (_, root') ← Entries.alter false (fun _ => makeRoom key) path .header root
    return ⟨root', .element path key, []⟩

def takeAll (d : Draft) : List Line → Option Draft
  | [] => some d
  | line :: rest =>
    match d.take line with
    | some d' => d'.takeAll rest
    | none => none

end Draft

/-- The document of its lines. -/
def Entries.ofLines (lines : List Line) : Option Entries :=
  (Draft.takeAll {} lines).bind Draft.settle

end ShardBridge.Toml
