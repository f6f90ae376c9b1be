/-
  ShardBridge.Toml.Document

  TOML documents as text. Each line is blank, a header, or a key with a value;
  comments go up to the end of a line. Only a list runs over several lines.
-/
import ShardBridge.Toml.Table
import ShardBridge.Toml.Text
import ShardBridge.Toml.Word

namespace ShardBridge.Toml

/-! ## Blanks and comments -/

def isBlank (c : Char) : Bool := c = ' ' || c = '\t'

def skipBlanks (input : List Char) : List Char := input.dropWhile isBlank

/-- The input after a comment, if one stands at its start. -/
def skipComment : List Char → List Char
  | '#' :: rest => rest.dropWhile Text.isBare
  | input => input

/-- The input after a line end; the end of the input ends a line too. -/
def lineEnd : List Char → Option (List Char)
  | [] => some []
  | '\n' :: rest => some rest
  | '\r' :: '\n' :: rest => some rest
  | _ => none

/-- The input after the rest of a line on which nothing more stands. -/
def restOfLine (input : List Char) : Option (List Char) := lineEnd (skipComment (skipBlanks input))

/-- The input without the blanks, line ends and comments at its start, or within a comment. A
    control stays where it is. -/
def skipFiller : (inComment : Bool) → List Char → List Char
  | _, [] => []
  | true, '\n' :: rest => skipFiller false rest
  | true, '\r' :: '\n' :: rest => skipFiller false rest
  | true, c :: rest => if Text.isBare c then skipFiller true rest else c :: rest
  | false, '\n' :: rest => skipFiller false rest
  | false, '\r' :: '\n' :: rest => skipFiller false rest
  | false, '#' :: rest => skipFiller true rest
  | false, c :: rest => if isBlank c then skipFiller false rest else c :: rest

/-! ## Keys -/

/-- The character may stand in a key without quotes. -/
def isKeyPart (c : Char) : Bool := c.isAlphanum || c = '_' || c = '-'

def readKeyPart (input : List Char) : Option (String × List Char) :=
  match input with
  | '"' :: _ => (Text.readShort input).map fun r => (String.ofList r.1, r.2)
  | '\'' :: _ => (Text.readShort input).map fun r => (String.ofList r.1, r.2)
  | _ =>
    if input.takeWhile isKeyPart = [] then none
    else some (String.ofList (input.takeWhile isKeyPart), input.dropWhile isKeyPart)

/-- Keys with dots between them, and the blanks around them. The first argument bounds their
    number. -/
def readKeys : Nat → List Char → Option (List String × List Char)
  | 0, _ => none
  | fuel + 1, input =>
    match readKeyPart (skipBlanks input) with
    | none => none
    | some (key, rest) =>
      match skipBlanks rest with
      | '.' :: rest' => (readKeys fuel rest').map fun r => (key :: r.1, r.2)
      | rest' => some ([key], rest')

/-- The greatest number of keys with dots between them, and of lists and tables within each
    other. -/
def greatestDepth : Nat := 79

def readKey (input : List Char) : Option ((List String × String) × List Char) :=
  match readKeys greatestDepth input with
  | none => none
  | some (keys, rest) => keys.getLast?.map fun key => ((keys.dropLast, key), rest)

/-! ## Values -/

/-- The value of a word. -/
def Word.value : Word → Value
  | .boolean b => .boolean b
  | .integer n => .integer n
  | .real => .real
  | .date => .moment
  | .moment => .moment

mutual

/-- A value, with so many levels of lists and tables within it at most. The first argument bounds
    the number of calls. -/
def readValue : Nat → Nat → List Char → Option (Value × List Char)
  | 0, _, _ => none
  | fuel + 1, depth, input =>
    match input with
    | '[' :: rest =>
      if depth = 0 then none
      else (readItems fuel (depth - 1) rest).map fun r => (.array r.1, r.2)
    | '{' :: rest =>
      if depth = 0 then none
      else
        match skipBlanks rest with
        | '}' :: rest' => some (.table .inline [], rest')
        | rest' =>
          (readPairs fuel (depth - 1) [] rest').map fun r => (.table .inline r.1, r.2)
    | '"' :: _ => (Text.read input).map fun r => (.string r.1, r.2)
    | '\'' :: _ => (Text.read input).map fun r => (.string r.1, r.2)
    | _ => (Word.read input).map fun r => (r.1.value, r.2)

/-- The elements of a list up to its end; a comma may stand after the last of them. -/
def readItems : Nat → Nat → List Char → Option (List Value × List Char)
  | 0, _, _ => none
  | fuel + 1, depth, input =>
    match skipFiller false input with
    | ']' :: rest => some ([], rest)
    | start =>
      match readValue fuel depth start with
      | none => none
      | some (v, rest) =>
        match skipFiller false rest with
        | ']' :: rest' => some ([v], rest')
        | ',' :: rest' => (readItems fuel depth rest').map fun r => (v :: r.1, r.2)
        | _ => none

/-- The keys and values of an inline table up to its end, added to those before them. -/
def readPairs : Nat → Nat → Entries → List Char → Option (Entries × List Char)
  | 0, _, _, _ => none
  | fuel + 1, depth, entries, input =>
    match readKey input with
    | some ((path, key), '=' :: rest) =>
      match readValue fuel depth (skipBlanks rest) with
      | none => none
      | some (v, rest') =>
        match entries.set path key v with
        | none => none
        | some entries' =>
          match skipBlanks rest' with
          | '}' :: rest'' => some (entries', rest'')
          | ',' :: rest'' => readPairs fuel depth entries' rest''
          | _ => none
    | _ => none

end

/-! ## Lines -/

/-- A number of calls that suffices for an input. -/
def callsFor (input : List Char) : Nat := 2 * input.length + 2

def readPair (input : List Char) : Option (Line × List Char) :=
  match readKey input with
  | some ((path, key), '=' :: rest) =>
    (readValue (callsFor rest) greatestDepth (skipBlanks rest)).map fun r =>
      (.pair path key r.1, r.2)
  | _ => none

/-- A header, its opening bracket already taken. -/
def readHeader : List Char → Option (Line × List Char)
  | '[' :: input =>
    match readKey input with
    | some ((path, key), ']' :: ']' :: rest) => some (.element path key, rest)
    | _ => none
  | input =>
    match readKey input with
    | some ((path, key), ']' :: rest) => some (.table path key, rest)
    | _ => none

/-- What stands on a line, and the input after it. -/
def readLine (input : List Char) : Option (Option Line × List Char) :=
  match skipBlanks input with
  | [] => some (none, [])
  | '#' :: rest => (restOfLine ('#' :: rest)).map fun r => (none, r)
  | '\n' :: rest => some (none, rest)
  | '\r' :: rest => (lineEnd ('\r' :: rest)).map fun r => (none, r)
  | '[' :: rest =>
    (readHeader rest).bind fun r => (restOfLine r.2).map fun rest' => (some r.1, rest')
  | start =>
    (readPair start).bind fun r => (restOfLine r.2).map fun rest' => (some r.1, rest')

/-- The lines of an input. The first argument bounds their number. -/
def readLines : Nat → List Char → Option (List Line)
  | _, [] => some []
  | 0, _ :: _ => none
  | fuel + 1, input =>
    match readLine input with
    | none => none
    | some (none, rest) => readLines fuel rest
    | some (some line, rest) => (readLines fuel rest).map (line :: ·)

/-- The input without the mark that may start a file. -/
def dropByteOrderMark : List Char → List Char
  | '\ufeff' :: rest => rest
  | input => input

def Entries.ofText (text : List Char) : Option Entries :=
  (readLines (text.length + 1) (dropByteOrderMark text)).bind Entries.ofLines

end ShardBridge.Toml
