/-
  ShardBridge.Session.Error

  What ends a session before its time, and what a callback can report. The two
  are nested: a callback can pass on what ended a handshake, and what a
  callback reports can end the session. Each error has a wording and, unless it
  is a root, a source. The words for a line that is no message name the place
  where its reader stopped, as a locator has it.
-/
import ShardBridge.Message.Malformed
import ShardBridge.Stream.Failure

namespace ShardBridge

mutual

/-- What ends a session. -/
inductive SessionError where
  /-- A line is no message, or not one for its place. -/
  | malformed (m : MalformedLine)
  /-- A message has no line: why, and what led to that. -/
  | encode (action : Action) (reason : String) (trail : Trail)
  /-- Reading from the daemon failed. -/
  | read (e : StreamFailure)
  /-- Writing to the daemon failed. -/
  | write (e : StreamFailure)
  /-- The stream ended while an answer to a checkpoint was due. -/
  | closedDuringCheckpoint
  /-- A line would have been two. -/
  | embeddedNewline
  /-- The processor failed at a message of this kind. -/
  | processor (action : Action) (source : ProcessorError)

/-- What a callback reports. -/
inductive ProcessorError where
  /-- It passes on what ended a handshake. -/
  | session (e : SessionError)
  /-- It passes on a line that is no message. -/
  | malformed (m : MalformedLine)
  /-- An error of its own. -/
  | own (text : String)
  /-- An error of its own, with the error that led to it. -/
  | because (text : String) (source : ProcessorError)

end

mutual

def SessionError.message (locate : Locator) : SessionError → String
  | .malformed m => m.message locate
  | .encode action reason _ => "failed to encode " ++ action.name ++ " message: " ++ reason
  | .read e => "failed to read from daemon: " ++ e.text
  | .write e => "failed to write to daemon: " ++ e.text
  | .closedDuringCheckpoint =>
    "daemon closed the stream while a checkpoint response was pending"
  | .embeddedNewline => "refusing to write a line containing a newline"
  | .processor action source =>
    "record processor failed during " ++ action.name ++ ": " ++ source.message locate

def ProcessorError.message (locate : Locator) : ProcessorError → String
  | .session e => e.message locate
  | .malformed m => m.message locate
  | .own text => text
  | .because text _ => text

end

/-- What ends the session when the callback for a message of this kind reports an error. What
    ended a handshake ends the session as it is. -/
def SessionError.ofProcessor (action : Action) : ProcessorError → SessionError
  | .session e => e
  | e => .processor action e

/-! ## Sources -/

/-- A link in the chain from an error to its root. -/
inductive ErrorLink where
  | session (e : SessionError)
  | processor (e : ProcessorError)
  /-- The cause for which a line is no message. -/
  | cause (m : MalformedLine)
  /-- The error of the reader that stopped in a line. -/
  | reason (r : ReaderError) (m : MalformedLine)
  /-- An error with words of its own. -/
  | words (text : String) (behind : Trail)

/-- The nearest of the errors that led to an error. -/
def Trail.link? : Trail → Option ErrorLink
  | .root => none
  | .error text behind => some (.words text behind)
  | .malformed m => some (.processor (.malformed m))

namespace ErrorLink

def message (locate : Locator) : ErrorLink → String
  | .session e => e.message locate
  | .processor e => e.message locate
  | .cause m => m.cause.message (locate m)
  | .reason r m => r.message (locate m)
  | .words text _ => text

/-- The link that led to this one; none at the root. A malformed line stands for itself only once:
    its source is the cause. -/
def source? : ErrorLink → Option ErrorLink
  | .session (.malformed m) => some (.cause m)
  | .session (.encode _ text trail) => some (.words text trail)
  | .session (.read e) => some (.words e.text e.trail)
  | .session (.write e) => some (.words e.text e.trail)
  | .session .closedDuringCheckpoint => none
  | .session .embeddedNewline => none
  | .session (.processor _ e) => some (.processor e)
  | .processor (.session e) => (ErrorLink.session e).source?
  | .processor (.malformed m) => some (.cause m)
  | .processor (.own _) => none
  | .processor (.because _ e) => some (.processor e)
  | .cause m => m.cause.reason?.map fun r => .reason r m
  | .reason _ _ => none
  | .words _ behind => behind.link?
  termination_by
    l => match l with
    | .processor (.session _) => 1
    | _ => 0

/-- A bound on the number of errors along a trail, with the links of a malformed line. -/
def trailHeight : Trail → Nat
  | .root => 0
  | .error _ behind => trailHeight behind + 1
  | .malformed _ => 3

mutual

/-- A bound on the number of links above a session error. -/
def sessionHeight : SessionError → Nat
  | .processor _ e => processorHeight e + 1
  | .encode _ _ trail => trailHeight trail + 2
  | .read e => trailHeight e.trail + 2
  | .write e => trailHeight e.trail + 2
  | _ => 3

def processorHeight : ProcessorError → Nat
  | .session e => sessionHeight e + 1
  | .malformed _ => 3
  | .own _ => 3
  | .because _ e => processorHeight e + 1

end

def height : ErrorLink → Nat
  | .session e => sessionHeight e
  | .processor e => processorHeight e
  | .cause _ => 2
  | .reason _ _ => 1
  | .words _ behind => trailHeight behind + 1

theorem trailLink_height {trail : Trail} {l : ErrorLink} (h : trail.link? = some l) :
    l.height = trailHeight trail := by
  cases trail with
  | root => cases h
  | error text behind =>
    obtain rfl := Option.some.inj h
    rfl
  | malformed m =>
    obtain rfl := Option.some.inj h
    rw [height, processorHeight, trailHeight]

theorem sessionSource_height {e : SessionError} {l : ErrorLink}
    (h : (ErrorLink.session e).source? = some l) : l.height < sessionHeight e := by
  cases e <;> simp [source?] at h <;> subst h <;> simp [height, sessionHeight]

/-- Every link is nearer to the root than the link it led to. -/
theorem height_lt_of_source? {l l' : ErrorLink} (h : l.source? = some l') :
    l'.height < l.height := by
  match l with
  | .session e => exact sessionSource_height h
  | .processor (.session e) =>
    rw [source?] at h
    exact Nat.lt_succ_of_lt (sessionSource_height h)
  | .processor (.malformed m) => simp [source?] at h; subst h; simp [height, processorHeight]
  | .processor (.own _) => simp [source?] at h
  | .processor (.because _ e) =>
    simp [source?] at h; subst h; simp [height, processorHeight]
  | .cause m =>
    simp only [source?, Option.map_eq_some_iff] at h
    obtain ⟨r, -, rfl⟩ := h
    simp [height]
  | .reason _ _ => simp [source?] at h
  | .words _ behind =>
    rw [source?] at h
    rw [trailLink_height h]
    exact Nat.lt_succ_self _

/-- The links above a link, down to the root. -/
def sources (l : ErrorLink) : List ErrorLink :=
  match h : l.source? with
  | some l' =>
    have := height_lt_of_source? h
    l' :: sources l'
  | none => []
  termination_by l.height

end ErrorLink

/-! ## Reports -/

/-- The start of every report. -/
def reportHeading : String := "kcl bridge terminated"

/-- The lines of the report on an error: the error, and every source down to the root. -/
def SessionError.report (locate : Locator) (e : SessionError) : List String :=
  (reportHeading ++ ": " ++ e.message locate) ::
    (ErrorLink.session e).sources.map fun l => "caused by: " ++ l.message locate

end ShardBridge
