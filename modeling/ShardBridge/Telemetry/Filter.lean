/-
  ShardBridge.Telemetry.Filter

  Which entries of the log are let through. A filter is a list of directives:
  a level for everything, or a level for the subjects whose names start with a
  given text. In brackets a directive can ask for more: for a span of work with
  a name, for a field, or for a field with a value. Of the directives that
  apply to an entry the one with the longest text counts, then one that asks
  for a field, and of equals the last one.
-/
import ShardBridge.Telemetry.Entry
import ShardBridge.Text.Alphanumeric
import ShardBridge.Text.Blank
import ShardBridge.Text.Natural
import ShardBridge.Text.Utf8

namespace ShardBridge

/-- How much is let through: everything up to a level, or nothing. -/
abbrev LogThreshold := Option LogLevel

namespace LogThreshold

/-- The thresholds in words. -/
def names : List (String × LogThreshold) :=
  [ ("off", none), ("error", some .error), ("warn", some .warn), ("info", some .info),
    ("debug", some .debug), ("trace", some .trace) ]

/-- The greatest number that is read as a number. -/
def greatestNumber : Nat := UInt64.size - 1

/-- The threshold that a text names, by a number or by a word in whatever case. -/
def named? (text : List Char) : Option LogThreshold :=
  match Text.Natural.read greatestNumber text with
  | .ok n => (names[n]?).map Prod.snd
  | .error _ => names.lookup (Text.toLowerAscii (String.ofList text))

def name (t : LogThreshold) : String :=
  match t with
  | none => "off"
  | some level => Text.toLowerAscii level.name

def passes (t : LogThreshold) (level : LogLevel) : Bool := t.any fun l => level.rank ≤ l.rank

end LogThreshold

/-- A directive: what is let through of the subjects whose names start with a text, or of
    everything. -/
structure LogDirective where
  target : Option (List Char) := none
  /-- It counts within spans of work with a name, or with a value in a field, and nowhere else. -/
  withinSpans : Bool := false
  /-- The field that an entry must have. -/
  field : Option String := none
  threshold : LogThreshold := some .trace
  deriving DecidableEq, Repr

namespace LogDirective

/-! ## Reading -/

/-- Where a reader of a directive stands. -/
inductive Place where
  | start
  /-- In a level or the text of a target. -/
  | word
  /-- In the name of a span, after a bracket. -/
  | span
  /-- In a field, after a brace. -/
  | field
  /-- After the closing brace. -/
  | fieldEnd
  /-- After the closing bracket. -/
  | bracketEnd
  /-- In the level, after an equals sign. -/
  | level
  deriving DecidableEq, Repr

/-- A directive of which a part was read, and the text since the last mark. -/
structure Draft where
  place : Place := .start
  directive : LogDirective := {}
  text : List Char := []
  deriving DecidableEq, Repr

namespace Draft

/-- The character may start a directive without brackets. -/
def isStart (c : Char) : Bool := c = '-' || c = ':' || c = '_' || Text.isAlphanumeric c

/-- Takes a character into the text. -/
def push (d : Draft) (c : Char) : Draft := { d with text := d.text ++ [c] }

/-- Goes on at another place, with what was read so far. -/
def goTo (d : Draft) (place : Place) (directive : LogDirective) : Draft :=
  { d with place, directive, text := [] }

/-- Takes the text as a target. -/
def withTarget (d : Draft) : LogDirective := { d.directive with target := some d.text }

/-- Takes the text as a field, which may have a value. -/
def withField (d : Draft) : LogDirective :=
  { d.directive with
    field := some (String.ofList (d.text.takeWhile (· ≠ '=')))
    withinSpans := d.directive.withinSpans || d.text.contains '=' }

/-- Goes on by a character: what it marks, and what it adds to the text. -/
def step (d : Draft) (mark c : Char) : Option Draft :=
  match d.place with
  | .start =>
    if mark = '[' then some (d.goTo .span d.directive)
    else if isStart mark then some ((d.goTo .word d.directive).push c)
    else none
  | .word =>
    if mark = '=' then some (d.goTo .level d.withTarget)
    else if mark = '[' then some (d.goTo .span d.withTarget)
    else some (d.push c)
  | .span =>
    if mark = ']' then some (d.goTo .bracketEnd { d.directive with withinSpans := true })
    else if mark = '{' then
      some (d.goTo .field { d.directive with withinSpans := d.text ≠ [] })
    else some (d.push c)
  | .field =>
    if mark = '}' then if d.text = [] then none else some (d.goTo .fieldEnd d.withField)
    else some (d.push c)
  | .fieldEnd => if mark = ']' then some (d.goTo .bracketEnd d.directive) else none
  | .bracketEnd => if mark = '=' then some (d.goTo .level d.directive) else none
  | .level => some (d.push c)

/-- Goes on by the characters of a text, with their marks. -/
def steps : List Char → List Char → Draft → Option (Draft × List Char)
  | mark :: marks, c :: text, d => (d.step mark c).bind (steps marks text)
  | _, text, d => some (d, text)

/-- The directive, once the text is at its end. A word is a level, or else the text of a target of
    which everything is let through; so it is with a target whose level is empty. -/
def finish (d : Draft) (rest : List Char) : Option LogDirective :=
  let text := d.text ++ rest
  match d.place with
  | .word =>
    match LogThreshold.named? text with
    | some t => some { threshold := t }
    | none => some { target := some text }
  | .level =>
    if text = [] then some d.directive
    else (LogThreshold.named? text).map fun t => { d.directive with threshold := t }
  | .bracketEnd => some d.directive
  | _ => none

end Draft

/-- Reads a directive. Its marks are looked for in the text without the blanks around it, but its
    parts are cut from the text as it stands, so that blanks before it shift every part. -/
def ofText (text : List Char) : Option LogDirective :=
  (Draft.steps (Text.trim text) text {}).bind fun r => r.1.finish r.2

/-! ## Use -/

/-- The directive is about a subject, outside of spans. -/
def covers (d : LogDirective) (subject : LogSubject) : Bool :=
  !d.withinSpans && d.target.all (·.isPrefixOf subject.name.toList)

/-- The name of the field that every entry has. -/
def messageField : String := "message"

/-- The directive applies to an entry. -/
def applies (d : LogDirective) (e : LogEntry) : Bool :=
  d.covers e.subject &&
    d.field.all fun name => name = messageField || (e.fields.lookup name).isSome

/-- How much a directive asks of a subject: the length of its text, and more than nothing when it
    has one. -/
def weight (d : LogDirective) : Nat :=
  match d.target with
  | none => 0
  | some target => (Text.Utf8.encode target).length + 1

/-- Of two fields that are asked for, the second goes before the first. -/
def fieldOutranked : Option String → Option String → Bool
  | _, none => false
  | none, some _ => true
  | some a, some b => a < b

/-- Of two directives that apply, the second counts before the first. -/
def outranked (d e : LogDirective) : Bool :=
  d.weight < e.weight || (d.weight = e.weight && fieldOutranked d.field e.field)

end LogDirective

/-- The directives of a log. -/
abbrev LogFilter := List LogDirective

namespace LogFilter

/-- The pieces of a text between commas. -/
def pieces : List Char → List (List Char)
  | [] => [[]]
  | ',' :: rest => [] :: pieces rest
  | c :: rest =>
    match pieces rest with
    | [] => [[c]]
    | piece :: more => (c :: piece) :: more

def ofText (text : String) : Option LogFilter :=
  ((pieces text.toList).filter (· ≠ [])).mapM LogDirective.ofText

/-- Of the directives that pass a test the one that counts before all others; of equals the
    last. -/
def choose (test : LogDirective → Bool) : LogFilter → Option LogDirective
  | [] => none
  | d :: rest =>
    match choose test rest with
    | some e => if test d && e.outranked d then some d else some e
    | none => if test d then some d else none

/-- How much of a subject is let through, as far as its name settles it; nothing where no
    directive is about it. -/
def threshold (f : LogFilter) (subject : LogSubject) : LogThreshold :=
  (f.choose (·.covers subject)).bind LogDirective.threshold

/-- The filter lets an entry through. -/
def passes (f : LogFilter) (e : LogEntry) : Bool :=
  LogThreshold.passes ((f.choose (·.applies e)).bind LogDirective.threshold) e.level

end LogFilter

end ShardBridge
