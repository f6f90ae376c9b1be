/-
  ShardBridge.Transport

  The one handle through which a session talks to the daemon: its input, its
  output, and a third stream for diagnostics. A journal keeps what happens, in
  its order. A report on a line that is no message also names a place in it,
  which is for the reader of JSON to say.
-/
import ShardBridge.Journal
import ShardBridge.Message
import ShardBridge.Session.Error
import ShardBridge.Stream.Input
import ShardBridge.Stream.Sink

namespace ShardBridge

/-! ## The handle -/

/-- The streams of a session, and what happened to them so far. -/
structure Transport where
  input : Input
  output : Sink
  diagnostics : Sink
  journal : Array Event := #[]
  /-- The places that the reader of JSON names. -/
  locate : Locator := .silent

namespace Transport

def record (t : Transport) (e : Event) : Transport := { t with journal := t.journal.push e }

/-- Puts an entry into the journal. -/
def log (t : Transport) (level : LogLevel) (subject : LogSubject) (message : String)
    (fields : List (String × LogValue)) : Transport :=
  t.record (.logged ⟨level, subject, message, fields⟩)

def sink (t : Transport) : Channel → Sink
  | .output => t.output
  | .diagnostics => t.diagnostics

/-- The handle with another stream in a channel. -/
def withSink (t : Transport) (c : Channel) (s : Sink) : Transport :=
  match c with
  | .output => { t with output := s }
  | .diagnostics => { t with diagnostics := s }

/-! ## Writing -/

/-- Writes bytes until all of them are taken. -/
def writeAll (c : Channel) (bytes : List UInt8) (t : Transport) :
    Except StreamFailure Unit × Transport :=
  match bytes with
  | [] => (.ok (), t)
  | b :: rest =>
    match (t.sink c).offer (b :: rest) with
    | (.error e, s) => (.error e, t.withSink c s)
    | (.ok [], s) => (.error .writeZero, t.withSink c s)
    | (.ok (x :: taken), s) =>
      writeAll c (rest.drop taken.length) ((t.withSink c s).record (.wrote c (x :: taken)))
  termination_by bytes.length
  decreasing_by simp only [List.length_drop, List.length_cons]; omega

def flush (c : Channel) (t : Transport) : Except StreamFailure Unit × Transport :=
  match (t.sink c).flush with
  | (.error e, s) => (.error e, t.withSink c s)
  | (.ok (), s) => (.ok (), (t.withSink c s).record (.flushed c))

/-- Writes a line and its end, then flushes. -/
def sendLine (c : Channel) (line : String) (t : Transport) :
    Except StreamFailure Unit × Transport :=
  match t.writeAll c (Text.Utf8.bytesOf line) with
  | (.error e, t') => (.error e, t')
  | (.ok (), t') =>
    match t'.writeAll c [Input.lineFeed] with
    | (.error e, t'') => (.error e, t'')
    | (.ok (), t'') => t''.flush c

/-- The character would end a line. -/
def breaksLine (c : Char) : Bool := c = '\n' || c = '\r'

def writeLine (line : String) (t : Transport) : Except SessionError Unit × Transport :=
  if line.toList.any breaksLine then (.error .embeddedNewline, t)
  else
    let t := t.log .trace .transport "-> daemon" [("line", .quoted line)]
    match t.sendLine .output line with
    | (.ok (), t') => (.ok (), t')
    | (.error e, t') => (.error (.write e), t')

def writeMessage (m : Message) (t : Transport) : Except SessionError Unit × Transport :=
  t.writeLine m.encode

/-- A line with a blank in place of each line end within it. -/
def flatten (line : String) : String :=
  String.ofList (line.toList.map fun c => if breaksLine c then ' ' else c)

def writeDiagnostic (line : String) (t : Transport) : Except StreamFailure Unit × Transport :=
  t.sendLine .diagnostics (flatten line)

/-- Writes lines to the diagnostics, up to the first that fails. -/
def writeDiagnostics : List String → Transport → Except StreamFailure Unit × Transport
  | [], t => (.ok (), t)
  | line :: rest, t =>
    match t.writeDiagnostic line with
    | (.ok (), t') => writeDiagnostics rest t'
    | (.error e, t') => (.error e, t')

/-- Writes the report on an error to the diagnostics. -/
def report (e : SessionError) (t : Transport) : Except StreamFailure Unit × Transport :=
  t.writeDiagnostics (e.report t.locate)

/-! ## Reading -/

/-- Takes the bytes of the next line that is not blank. -/
def fetchLine (t : Transport) : Input.Fetched × Transport :=
  (t.input.nextLine.1,
    { t with input := t.input.nextLine.2, journal := t.journal.push .reading })

/-- The line of these bytes. -/
def receive (bytes : List UInt8) (t : Transport) :
    Except SessionError (Option String) × Transport :=
  match Text.Utf8.decode bytes with
  | .ok text =>
    (.ok (some (String.ofList text)),
      t.log .trace .transport "<- daemon" [("line", .quoted (String.ofList text))])
  | .error m =>
    (.error (.malformed ⟨String.ofList (Text.Utf8.decodeLenient bytes), .invalidUtf8 m⟩), t)

/-- Reads the next line that is not blank; none at the end of the stream. A line that is not text
    is taken from the stream all the same. -/
def readLine (t : Transport) : Except SessionError (Option String) × Transport :=
  match t.fetchLine with
  | (.ended, t') => (.ok none, t')
  | (.failed e, t') => (.error (.read e), t')
  | (.line bytes, t') => t'.receive bytes

/-! ## What a session leaves of its input -/

@[simp] theorem input_record (t : Transport) (e : Event) : (t.record e).input = t.input := rfl

@[simp] theorem input_log (t : Transport) (l : LogLevel) (s : LogSubject) (m : String)
    (fs : List (String × LogValue)) : (t.log l s m fs).input = t.input := rfl

@[simp] theorem input_withSink (t : Transport) (c : Channel) (s : Sink) :
    (t.withSink c s).input = t.input := by cases c <;> rfl

@[simp] theorem input_writeAll (c : Channel) (bytes : List UInt8) (t : Transport) :
    (t.writeAll c bytes).2.input = t.input := by
  fun_induction writeAll c bytes t with
  | case1 t => rfl
  | case2 t b rest e s h => simp
  | case3 t b rest s h => simp
  | case4 t b rest x taken s h ih => simpa using ih

@[simp] theorem input_flush (c : Channel) (t : Transport) : (t.flush c).2.input = t.input := by
  rw [flush]; split <;> simp

@[simp] theorem input_sendLine (c : Channel) (line : String) (t : Transport) :
    (t.sendLine c line).2.input = t.input := by
  have h₁ := input_writeAll c (Text.Utf8.bytesOf line) t
  rw [sendLine]
  split
  · next heq => rw [heq] at h₁; exact h₁
  · next t' heq =>
    rw [heq] at h₁
    have h₂ := input_writeAll c [Input.lineFeed] t'
    split
    · next heq' => rw [heq'] at h₂; exact h₂.trans h₁
    · next t'' heq' => rw [heq'] at h₂; rw [input_flush]; exact h₂.trans h₁

@[simp] theorem input_writeLine (line : String) (t : Transport) :
    (t.writeLine line).2.input = t.input := by
  rw [writeLine]
  split
  · rfl
  · have h := input_sendLine .output line
      (t.log .trace .transport "-> daemon" [("line", .quoted line)])
    simp only
    split <;> next heq => rw [heq] at h; exact h

@[simp] theorem input_writeMessage (m : Message) (t : Transport) :
    (t.writeMessage m).2.input = t.input := by
  rw [writeMessage, input_writeLine]

theorem input_receive (bytes : List UInt8) (t : Transport) :
    (t.receive bytes).2.input = t.input := by
  unfold receive
  cases Text.Utf8.decode bytes with
  | ok text => exact input_log ..
  | error m => rfl

theorem length_pending_readLine_le (t : Transport) :
    t.readLine.2.input.pending.length ≤ t.input.pending.length := by
  have h : t.fetchLine.2.input.pending.length ≤ t.input.pending.length :=
    Input.length_pending_nextLine_le t.input
  rw [readLine]
  split <;> next heq => rw [heq] at h; simpa [input_receive] using h

theorem length_pending_of_readLine {t t' : Transport} {line : String}
    (h : t.readLine = (.ok (some line), t')) :
    t'.input.pending.length < t.input.pending.length := by
  rw [readLine] at h
  split at h
  · simp at h
  · simp at h
  · next bytes t₁ heq =>
    obtain ⟨h₁, rfl⟩ := Prod.mk.inj heq
    have hlt : t.input.nextLine.2.pending.length < t.input.pending.length :=
      @Input.length_pending_of_nextLine _ _ bytes (Prod.ext h₁ rfl)
    have hi := input_receive bytes
      { t with input := t.input.nextLine.2, journal := t.journal.push .reading }
    rw [h] at hi
    exact hi ▸ hlt

end Transport

end ShardBridge
