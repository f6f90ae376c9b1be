/-
  ShardBridge.Session

  A session with the daemon: each line is a message, its callback runs, and a
  status line answers it. The session ends well when the stream ends, or when
  the daemon goes away between messages. Everything else that stops it is an
  error, which is reported on the diagnostics.
-/
import ShardBridge.Processor

namespace ShardBridge.Session

/-- How a session ended. -/
structure Ending (σ : Type) where
  state : σ
  outcome : Except SessionError Unit
  transport : Transport

/-! ## One message -/

/-- What a session does with what it reads. -/
inductive Turn where
  | stop (outcome : Except SessionError Unit) (transport : Transport)
  /-- Handles a message. -/
  | handle (line : String) (message : Message) (transport : Transport)

/-- What a session does with a line. -/
def Turn.ofLine (line : String) (t : Transport) : Turn :=
  match Message.decode line with
  | .error m => .stop (.error (.malformed m)) t
  | .ok m => .handle line m (t.log .debug .bridge "dispatching" [("action", .shown m.action.name)])

def nextTurn (t : Transport) : Turn :=
  match t.readLine with
  | (.ok none, t') => .stop (.ok ()) (t'.log .info .bridge "input closed, stopping" [])
  | (.error (.read e), t') =>
    if e.kind.isClosing then
      .stop (.ok ())
        (t'.log .warn .bridge "input closed abruptly, stopping" [("error", .shown e.text)])
    else .stop (.error (.read e)) t'
  | (.error e, t') => .stop (.error e) t'
  | (.ok (some line), t') => .ofLine line t'

/-- Where a session stands after a message. -/
inductive Round (σ : Type) where
  | over (e : Ending σ)
  | goOn (state : σ) (transport : Transport)

/-- What follows a callback: the status line, or the end. -/
def Round.ofCallback {σ : Type} (action : Action) (e : Activity.Ending σ) : Round σ :=
  match e.outcome with
  | .error source => .over ⟨e.state, .error (.ofProcessor action source), e.transport⟩
  | .ok () =>
    match e.transport.writeMessage (.status action) with
    | (.error failure, t) => .over ⟨e.state, .error failure, t⟩
    | (.ok (), t) => .goOn e.state t

def round {σ : Type} (p : Processor σ) (state : σ) (t : Transport) : Round σ :=
  match nextTurn t with
  | .stop outcome t' => .over ⟨state, outcome, t'⟩
  | .handle line m t' =>
    match p.callback? state m with
    | none => .over ⟨state, .error (.malformed ⟨line, .unexpectedAction m.action⟩), t'⟩
    | some run => .ofCallback m.action (run t')

theorem Turn.input_of_ofLine {line line' : String} {m : Message} {t t' : Transport}
    (h : ofLine line t = .handle line' m t') : t'.input = t.input := by
  rw [ofLine] at h
  split at h
  · simp at h
  · obtain ⟨-, -, rfl⟩ := Turn.handle.inj h
    exact Transport.input_log ..

theorem length_pending_of_nextTurn {t t' : Transport} {line : String} {m : Message}
    (h : nextTurn t = .handle line m t') :
    t'.input.pending.length < t.input.pending.length := by
  rw [nextTurn] at h
  split at h
  · simp at h
  · split at h <;> simp at h
  · simp at h
  · next line' t₁ heq =>
    rw [Turn.input_of_ofLine h]
    exact Transport.length_pending_of_readLine heq

theorem Round.input_of_ofCallback {σ : Type} {action : Action} {e : Activity.Ending σ}
    {state : σ} {t : Transport} (h : ofCallback action e = .goOn state t) :
    t.input = e.transport.input := by
  have hw := Transport.input_writeMessage (.status action) e.transport
  rw [ofCallback] at h
  split at h
  · simp at h
  · split at h
    · simp at h
    · next heq =>
      obtain ⟨-, rfl⟩ := Round.goOn.inj h
      rw [heq] at hw
      exact hw

theorem length_pending_of_round {σ : Type} {p : Processor σ} {state state' : σ}
    {t t' : Transport} (h : round p state t = .goOn state' t') :
    t'.input.pending.length < t.input.pending.length := by
  rw [round] at h
  split at h
  · simp at h
  · next line m t₁ heq =>
    split at h
    · simp at h
    · next run hr =>
      rw [Round.input_of_ofCallback h]
      exact Nat.lt_of_le_of_lt (Processor.length_pending_callback_le hr t₁)
        (length_pending_of_nextTurn heq)

/-! ## The loop -/

/-- Handles messages until something stops the session. -/
def loop {σ : Type} (p : Processor σ) (state : σ) (t : Transport) : Ending σ :=
  match h : round p state t with
  | .over e => e
  | .goOn state' t' =>
    have := length_pending_of_round h
    loop p state' t'
  termination_by t.input.pending.length

/-! ## Sessions -/

/-- Says what ended a session, in the log and on the diagnostics. -/
def terminate (e : SessionError) (t : Transport) : Transport :=
  match (t.log .error .bridge "bridge terminated"
      [("error", .shown (e.message t.locate))]).report e with
  | (.ok (), t') => t'
  | (.error failure, t') =>
    t'.log .warn .bridge "failed to write diagnostics" [("error", .shown failure.text)]

/-- Runs a session. -/
def run {σ : Type} (p : Processor σ) (state : σ) (t : Transport) : Ending σ :=
  let e := loop p state t
  match e.outcome with
  | .ok () => e
  | .error failure => { e with transport := terminate failure e.transport }

end ShardBridge.Session
