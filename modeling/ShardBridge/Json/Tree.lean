/-
  ShardBridge.Json.Tree

  A JSON text as written. Reading a text never fails: it gives a tree that
  holds every member with its repetitions, every number and string in its
  written form, and, at the place where the text stops being JSON, what was
  found there. What a reader makes of the tree, and which of the things wrong
  with the text it meets first, is its own affair.
-/
import ShardBridge.Json.Literal
import ShardBridge.Json.Numeral

namespace ShardBridge.Json

/-! ## Trees -/

/-- A word, number or character that is no value. -/
inductive Scrap where
  /-- The text ends inside a word that began with this letter. -/
  | cutWord (begun : Char)
  /-- A word goes on otherwise than it began, with this letter. -/
  | wrongWord (begun : Char)
  | cutNumber
  /-- A number is malformed. -/
  | badNumber
  /-- A character that starts no value. -/
  | noValue
  deriving DecidableEq, Repr

/-- What stands where a list or an object should go on or close. -/
inductive Stop where
  /-- The text ends. -/
  | ended
  /-- Neither a comma nor the closing bracket; for a key, no colon. -/
  | other
  /-- A comma, and then the closing bracket. -/
  | commaClose
  /-- A comma, and then the end of the text. -/
  | commaEnd
  deriving DecidableEq, Repr

mutual

/-- A value as written. -/
inductive Tree where
  | null
  | bool (b : Bool)
  | number (l : Numeral)
  | string (l : Literal)
  | array (items : Items)
  | object (members : Members)
  /-- The text ends where a value should start. -/
  | missing
  /-- No value starts here. -/
  | scrap (s : Scrap)

/-- The elements of a list, as far as they can be read. -/
inductive Items where
  | close
  | item (value : Tree) (rest : Items)
  | stop (s : Stop)

/-- The members of an object, as far as they can be read. -/
inductive Members where
  | close
  | member (key : Literal) (value : Tree) (rest : Members)
  | stop (s : Stop)
  /-- A value that is no string stands in the place of a key. -/
  | stray (found : Tree)
  /-- A key without a colon after it. -/
  | unpaired (key : Literal) (s : Stop)

end

/-! ## Scanning -/

/-- The character may stand between the parts of a text. -/
def isSpace (c : Char) : Bool := c = ' ' || c = '\t' || c = '\n' || c = '\r'

/-- The text from its first character that is no space. -/
def skipSpace (text : List Char) : List Char := text.dropWhile isSpace

/-- The rest of a word whose first letter was taken. -/
def scanWord (begun : Char) (value : Tree) : List Char → List Char → Tree × List Char
  | [], text => (value, text)
  | _ :: _, [] => (.scrap (.cutWord begun), [])
  | c :: word, d :: text =>
    if c = d then scanWord begun value word text else (.scrap (.wrongWord begun), [])

def scanNumber (text : List Char) : Tree × List Char :=
  match Numeral.scan text with
  | .ok (l, rest) => (.number l, rest)
  | .error .cut => (.scrap .cutNumber, [])
  | .error .malformed => (.scrap .badNumber, [])

/-- A value that is neither a string nor has parts. -/
def scanScalar (c : Char) (rest : List Char) : Tree × List Char :=
  if c = 'n' then scanWord c .null ['u', 'l', 'l'] rest
  else if c = 't' then scanWord c (.bool true) ['r', 'u', 'e'] rest
  else if c = 'f' then scanWord c (.bool false) ['a', 'l', 's', 'e'] rest
  else if c = '-' || Text.Decimal.isDigit c then scanNumber (c :: rest)
  else (.scrap .noValue, [])

mutual

/-- A value and the text after it. A value that is not whole takes the rest of the text with it.
    The first argument bounds the number of calls. -/
def scanValue : Nat → List Char → Tree × List Char
  | 0, _ => (.missing, [])
  | fuel + 1, text =>
    match skipSpace text with
    | [] => (.missing, [])
    | '"' :: rest =>
      let (l, rest') := Literal.scan rest
      (.string l, rest')
    | '[' :: rest =>
      match skipSpace rest with
      | [] => (.array (.stop .ended), [])
      | ']' :: rest' => (.array .close, rest')
      | c :: rest' =>
        let (items, rest'') := scanItems fuel (c :: rest')
        (.array items, rest'')
    | '{' :: rest =>
      match skipSpace rest with
      | [] => (.object (.stop .ended), [])
      | '}' :: rest' => (.object .close, rest')
      | c :: rest' =>
        let (members, rest'') := scanMembers fuel (c :: rest')
        (.object members, rest'')
    | c :: rest => scanScalar c rest

def scanItems : Nat → List Char → Items × List Char
  | 0, _ => (.stop .ended, [])
  | fuel + 1, text =>
    let (value, rest) := scanValue fuel text
    match skipSpace rest with
    | [] => (.item value (.stop .ended), [])
    | ']' :: rest' => (.item value .close, rest')
    | ',' :: rest' =>
      match skipSpace rest' with
      | [] => (.item value (.stop .commaEnd), [])
      | ']' :: _ => (.item value (.stop .commaClose), [])
      | c :: rest'' =>
        let (items, rest''') := scanItems fuel (c :: rest'')
        (.item value items, rest''')
    | _ => (.item value (.stop .other), [])

def scanMembers : Nat → List Char → Members × List Char
  | 0, _ => (.stop .ended, [])
  | fuel + 1, '"' :: text =>
    let (key, rest) := Literal.scan text
    match skipSpace rest with
    | [] => (.unpaired key .ended, [])
    | ':' :: rest' =>
      let (value, rest'') := scanValue fuel rest'
      match skipSpace rest'' with
      | [] => (.member key value (.stop .ended), [])
      | '}' :: more => (.member key value .close, more)
      | ',' :: more =>
        match skipSpace more with
        | [] => (.member key value (.stop .commaEnd), [])
        | '}' :: _ => (.member key value (.stop .commaClose), [])
        | c :: more' =>
          let (members, more'') := scanMembers fuel (c :: more')
          (.member key value members, more'')
      | _ => (.member key value (.stop .other), [])
    | _ => (.unpaired key .other, [])
  | fuel + 1, text => (.stray (scanValue fuel text).1, [])

end

/-! ## Whole texts -/

/-- A text as written: its value, and whether anything but space follows it. -/
structure Document where
  root : Tree
  trailing : Bool

/-- A number of calls that suffices for a text: two for each character, and one more. -/
def callsFor (text : List Char) : Nat := 2 * text.length + 2

def Document.ofText (text : List Char) : Document :=
  let (root, rest) := scanValue (callsFor text) text
  ⟨root, skipSpace rest ≠ []⟩

end ShardBridge.Json
