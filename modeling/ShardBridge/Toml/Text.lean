/-
  ShardBridge.Toml.Text

  Strings in TOML. There are four styles: a text stands between double quotes,
  and then has escapes, or between single quotes, and then has none; and it
  stands on one line, or between triple quotes on any number of them. The
  reader goes character by character and keeps where it stands; the writer
  takes the plainest style that can hold the text.
-/
import ShardBridge.Json.Literal
import ShardBridge.Text.Quoted

namespace ShardBridge.Toml

/-- A way to write a string. -/
structure Style where
  quote : Char
  /-- A backslash starts an escape. -/
  escapes : Bool
  /-- Triple quotes, and line ends within the text. -/
  long : Bool
  deriving DecidableEq, Repr

namespace Style

/-- Double quotes on one line. -/
def basic : Style := ⟨'"', true, false⟩

/-- Single quotes on one line. -/
def plain : Style := ⟨'\'', false, false⟩

/-- Double quotes over several lines. -/
def longBasic : Style := ⟨'"', true, true⟩

/-- Single quotes over several lines. -/
def longPlain : Style := ⟨'\'', false, true⟩

end Style

namespace Text

/-! ## Reading -/

/-- The character may stand in a text as it is: it is a tab or no control. -/
def isBare (c : Char) : Bool := c = '\t' || (0x20 ≤ c.toNat && c.toNat ≠ 0x7F)

/-- The character of a one-letter escape. -/
def shortEscape : Char → Option Char
  | '"' => some '"'
  | '\\' => some '\\'
  | 'b' => some '\x08'
  | 'f' => some '\x0c'
  | 'n' => some '\n'
  | 'r' => some '\r'
  | 't' => some '\t'
  | _ => none

/-- The character with a number. -/
def charOf (n : Nat) : Option Char := if n.isValidChar then some (Char.ofNat n) else none

/-- Where the reader stands. -/
inductive Mark where
  | text
  /-- After a backslash. -/
  | escape
  /-- Within the number of a character: so many digits are due, and this is the number so far. -/
  | code (due : Nat) (number : Nat)
  /-- After a carriage return. -/
  | lineEnd
  /-- After a backslash that swallows the blanks after it; whether a line end was among them. -/
  | swallow (ended : Bool)
  /-- After a carriage return among those blanks. -/
  | swallowLineEnd
  /-- After so many quotes in a row, in a long style. -/
  | quotes (count : Nat)
  deriving DecidableEq, Repr

/-- What a character does. -/
inductive Move where
  | refuse
  /-- It stands for this text, and the reader goes on. -/
  | go (text : List Char) (mark : Mark)
  /-- It ends the string, with this text at the end. -/
  | close (text : List Char)
  /-- The string has ended before it, with this text at the end. -/
  | closeBefore (text : List Char)
  deriving DecidableEq, Repr

/-- Puts text before that of a move. -/
def Move.after (text : List Char) : Move → Move
  | .refuse => .refuse
  | .go t mark => .go (text ++ t) mark
  | .close t => .close (text ++ t)
  | .closeBefore t => .closeBefore (text ++ t)

/-- The greatest number of quotes in a row that are text in a long style. -/
def spareQuotes : Nat := 2

/-- The number of quotes that end a long style. -/
def closingQuotes : Nat := 3

/-- A character in the text. -/
def textMove (s : Style) (c : Char) : Move :=
  if c = s.quote then (if s.long then .go [] (.quotes 1) else .close [])
  else if s.escapes && c = '\\' then .go [] .escape
  else if s.long && c = '\n' then .go ['\n'] .text
  else if s.long && c = '\r' then .go [] .lineEnd
  else if isBare c then .go [c] .text
  else .refuse

/-- A character among the blanks that a backslash swallows. -/
def swallowMove (s : Style) (ended : Bool) (c : Char) : Move :=
  if c = ' ' || c = '\t' then .go [] (.swallow ended)
  else if c = '\n' then .go [] (.swallow true)
  else if c = '\r' then .go [] .swallowLineEnd
  else if ended then textMove s c
  else .refuse

/-- A character after a backslash. -/
def escapeMove (s : Style) (c : Char) : Move :=
  match shortEscape c with
  | some d => .go [d] .text
  | none =>
    if c = 'u' then .go [] (.code 4 0)
    else if c = 'U' then .go [] (.code 8 0)
    else if s.long then swallowMove s false c
    else .refuse

/-- A character in the number of a character. -/
def codeMove (number : Nat) (c : Char) : Nat → Move
  | 0 => .refuse
  | due + 1 =>
    match Json.Literal.hexValue c with
    | none => .refuse
    | some d =>
      if due = 0 then
        match charOf (number * 16 + d) with
        | some e => .go [e] .text
        | none => .refuse
      else .go [] (.code due (number * 16 + d))

/-- A character after quotes. -/
def quotesMove (s : Style) (count : Nat) (c : Char) : Move :=
  if c = s.quote then
    if count < closingQuotes + spareQuotes - 1 then .go [] (.quotes (count + 1))
    else .close (List.replicate spareQuotes s.quote)
  else if closingQuotes ≤ count then .closeBefore (List.replicate (count - closingQuotes) s.quote)
  else (textMove s c).after (List.replicate count s.quote)

/-- What a character does, by where the reader stands. -/
def move (s : Style) (c : Char) : Mark → Move
  | .text => textMove s c
  | .escape => escapeMove s c
  | .code due number => codeMove number c due
  | .lineEnd => if c = '\n' then .go ['\n'] .text else .refuse
  | .swallow ended => swallowMove s ended c
  | .swallowLineEnd => if c = '\n' then .go [] (.swallow true) else .refuse
  | .quotes count => quotesMove s count c

/-- The text at the end of the input: a long style can end with it. -/
def atEnd (s : Style) : Mark → Option (List Char)
  | .quotes count =>
    if closingQuotes ≤ count then some (List.replicate (count - closingQuotes) s.quote) else none
  | _ => none

/-- Reads on from a mark: the text up to the closing quotes, and the input after them. -/
def scan (s : Style) : Mark → List Char → Option (List Char × List Char)
  | mark, [] => (atEnd s mark).map fun text => (text, [])
  | mark, c :: rest =>
    match move s c mark with
    | .refuse => none
    | .close text => some (text, rest)
    | .closeBefore text => some (text, c :: rest)
    | .go text mark' => (scan s mark' rest).map fun r => (text ++ r.1, r.2)

/-- The input without a line end at its start. -/
def dropLineEnd : List Char → List Char
  | '\n' :: rest => rest
  | '\r' :: '\n' :: rest => rest
  | input => input

/-- Reads a string of one line. -/
def readShort : List Char → Option (List Char × List Char)
  | '"' :: rest => scan .basic .text rest
  | '\'' :: rest => scan .plain .text rest
  | _ => none

/-- Reads a string. A line end right after triple quotes is not part of it. -/
def read : List Char → Option (List Char × List Char)
  | '"' :: '"' :: '"' :: rest => scan .longBasic .text (dropLineEnd rest)
  | '\'' :: '\'' :: '\'' :: rest => scan .longPlain .text (dropLineEnd rest)
  | input => readShort input

/-! ## Writing -/

/-- The character is a control that no style can hold as it is. -/
def needsCode (c : Char) : Bool := c ≠ '\n' && !isBare c

/-- The greatest number of times that a character comes in a row. -/
def longestRun (q : Char) (text : List Char) : Nat :=
  (text.foldl (fun (r : Nat × Nat) c => if c = q then (r.1 + 1, max r.2 (r.1 + 1)) else (0, r.2))
    (0, 0)).2

/-- The plainest style for a text: the first that holds it without an escape, and else one with
    escapes. -/
def styleFor (text : List Char) : Style :=
  let coded := text.any needsCode
  let backslash := text.contains '\\'
  let lines := text.contains '\n'
  if !coded && !backslash && !lines && longestRun '"' text = 0 then .basic
  else if !coded && !lines && longestRun '\'' text = 0 then .plain
  else if !coded && !backslash && longestRun '"' text ≤ spareQuotes then .longBasic
  else if !coded && longestRun '\'' text ≤ spareQuotes then .longPlain
  else if lines then .longBasic
  else .basic

def capitalDigit (n : Nat) : Char :=
  if n < 10 then Char.ofNat ('0'.toNat + n) else Char.ofNat ('A'.toNat + (n - 10))

/-- A character other than a quote, in a style with escapes. -/
def escape (long : Bool) (c : Char) : List Char :=
  if c = '\x08' then ['\\', 'b']
  else if c = '\t' then ['\\', 't']
  else if c = '\n' then (if long then ['\n'] else ['\\', 'n'])
  else if c = '\x0c' then ['\\', 'f']
  else if c = '\r' then ['\\', 'r']
  else if c = '\\' then ['\\', '\\']
  else if needsCode c then
    ['\\', 'u', '0', '0', capitalDigit (c.toNat / 16), capitalDigit (c.toNat % 16)]
  else [c]

/-- A text in a style with escapes, after so many quotes in a row. One quote more than the style
    spares is escaped. -/
def escapeAll (s : Style) : Nat → List Char → List Char
  | _, [] => []
  | run, c :: rest =>
    if c = s.quote then
      if s.long && run < spareQuotes then c :: escapeAll s (run + 1) rest
      else '\\' :: c :: escapeAll s 0 rest
    else escape s.long c ++ escapeAll s 0 rest

/-- The quotes around a text. -/
def fence (s : Style) : List Char :=
  if s.long then List.replicate closingQuotes s.quote else [s.quote]

/-- A text in a style. A text of several lines starts on a line of its own. -/
def renderIn (s : Style) (text : List Char) : List Char :=
  fence s ++ (if s.long && text.contains '\n' then ['\n'] else []) ++
    (if s.escapes then escapeAll s 0 text else text) ++ fence s

def render (text : List Char) : List Char := renderIn (styleFor text) text

end Text

end ShardBridge.Toml
