import KmxAio.Http3.FrameCodec
import KmxAio.Lib.Run

/-!
# The states of an HTTP/3 request stream

A stream takes frames and ends in two directions, but remembers in one flag that headers
have crossed it and in one state where it is.
-/

namespace KmxAio.Http3

open Lib.Run

/-! ## The state machine -/

inductive StreamState where
  | idle | opened | halfClosedLocal | halfClosedRemote | closed
  deriving DecidableEq

structure StreamFrameMessages where
  unsupportedFrame : String
  missingHeaders : String
  closedSide : String

inductive StreamError where
  | invalidArgument (text : String)
  | logicError (text : String)
  deriving DecidableEq

structure Stream where
  state : StreamState := .idle
  headersSeen : Bool := false
  sendClosed : Bool := false
  recvClosed : Bool := false
  deriving DecidableEq

namespace Stream

def isRequestStreamFrame (type : UInt64) : Bool :=
  type == FrameType.headers || type == FrameType.data

variable (stream : Stream)

def onFrame (type : UInt64) (halfClosedState : StreamState) (messages : StreamFrameMessages) :
    Except StreamError Stream :=
  if isRequestStreamFrame type = false then .error (.invalidArgument messages.unsupportedFrame)
  else if stream.headersSeen = false then
    if type ≠ FrameType.headers then .error (.logicError messages.missingHeaders)
    else .ok { stream with headersSeen := true, state := .opened }
  else if stream.state = .closed ∨ stream.state = halfClosedState then
    .error (.logicError messages.closedSide)
  else .ok stream

def onFrameSent (type : UInt64) : Except StreamError Stream :=
  stream.onFrame type .halfClosedLocal
    { unsupportedFrame := "HTTP/3 stream received unsupported outgoing frame type"
      missingHeaders := "HTTP/3 request stream must start with HEADERS"
      closedSide := "cannot send frame on closed local HTTP/3 stream side" }

def onFrameReceived (type : UInt64) : Except StreamError Stream :=
  stream.onFrame type .halfClosedRemote
    { unsupportedFrame := "HTTP/3 stream received unsupported incoming frame type"
      missingHeaders := "HTTP/3 response stream must start with HEADERS"
      closedSide := "cannot receive frame on closed remote HTTP/3 stream side" }

def onSendFin : Stream :=
  { stream with
    sendClosed := true
    state := if stream.recvClosed then .closed else .halfClosedLocal }

def onRecvFin : Stream :=
  { stream with
    recvClosed := true
    state := if stream.sendClosed then .closed else .halfClosedRemote }

def onReset : Stream := { stream with sendClosed := true, recvClosed := true, state := .closed }

end Stream

open Http3.Stream

/-! ## Runs -/

inductive Side where
  | send | recv
  deriving DecidableEq

inductive StreamEvent where
  | frame (side : Side) (type : UInt64)
  | fin (side : Side)
  | reset
  deriving DecidableEq

namespace Stream

def halfClosed : Side → StreamState
  | .send => .halfClosedLocal
  | .recv => .halfClosedRemote

def take (stream : Stream) : Side → UInt64 → Except StreamError Stream
  | .send => stream.onFrameSent
  | .recv => stream.onFrameReceived

def finish (stream : Stream) : Side → Stream
  | .send => stream.onSendFin
  | .recv => stream.onRecvFin

variable {stream after : Stream} {side : Side} {type : UInt64}

/-- A frame is accepted as the first headers of the stream, or where its side is not closed. -/
theorem take_ok (accepted : stream.take side type = .ok after) :
    stream.headersSeen = false ∧ type = FrameType.headers ∧
        after = { stream with headersSeen := true, state := .opened } ∨
      stream.headersSeen = true ∧ (type = FrameType.headers ∨ type = FrameType.data) ∧
        (stream.state ≠ .closed ∧ stream.state ≠ halfClosed side) ∧ after = stream := by
  obtain ⟨messages, same⟩ : ∃ messages,
      stream.take side type = stream.onFrame type (halfClosed side) messages := by
    cases side <;> exact ⟨_, rfl⟩
  rw [same, onFrame] at accepted
  split_ifs at accepted with unsupported fresh other shut
  · exact .inl ⟨fresh, not_not.mp other, (Except.ok.inj accepted).symm⟩
  · have kind : isRequestStreamFrame type = true := Bool.not_eq_false _ ▸ unsupported
    simp only [isRequestStreamFrame, Bool.or_eq_true, beq_iff_eq] at kind
    exact .inr ⟨Bool.not_eq_false _ ▸ fresh, kind, not_or.mp shut, (Except.ok.inj accepted).symm⟩

end Stream

/-- A stream beside the directions it has accepted frames in and those that have ended. -/
structure StreamHistory where
  stream : Stream := {}
  carried : Side → Bool := fun _ => false
  ended : Side → Bool := fun _ => false

namespace StreamHistory

/-- A refused frame throws and leaves the stream as it was. -/
def next (past : StreamHistory) : StreamEvent → StreamHistory
  | .frame side type =>
    match past.stream.take side type with
    | .error _ => past
    | .ok stream => { past with stream := stream, carried := Function.update past.carried side true }
  | .fin side =>
    { past with stream := past.stream.finish side, ended := Function.update past.ended side true }
  | .reset => { past with stream := past.stream.onReset, ended := fun _ => true }

/-- What the next event does keeps the directions apart. -/
structure Apart (past : StreamHistory) (event : StreamEvent) : Prop where
  accepted : ∀ side type stream, event = .frame side type →
    past.stream.take side type = .ok stream →
      past.ended side = false ∧ (past.carried side = false → type = FrameType.headers)
  closed : past.stream.state = .closed → (past.next event).stream.state = .closed

/-- Ends follow the first headers, and data follows the headers of its own direction or comes
before any. -/
def Ordered (past : StreamHistory) : StreamEvent → Prop
  | .frame side type =>
    type = FrameType.data → past.carried side = true ∨ past.stream.headersSeen = false
  | _ => past.stream.headersSeen = true

/-- The state two ends make once headers have crossed. -/
def stateOf (ended : Side → Bool) : StreamState :=
  match ended .send, ended .recv with
  | false, false => .opened
  | true, false => .halfClosedLocal
  | false, true => .halfClosedRemote
  | true, true => .closed

/-- Nothing has crossed the stream, or headers have and its state and flags are the ends seen. -/
inductive Faithful : StreamHistory → Prop
  | fresh : Faithful {}
  | seen (carried ended : Side → Bool) :
    Faithful ⟨⟨stateOf ended, true, ended .send, ended .recv⟩, carried, ended⟩

variable {past : StreamHistory} {event : StreamEvent} {ended : Side → Bool} {side : Side}

theorem finish_seen : finish ⟨stateOf ended, true, ended .send, ended .recv⟩ side =
    let ended := Function.update ended side true
    ⟨stateOf ended, true, ended .send, ended .recv⟩ := by
  cases side <;> cases send : ended .send <;> cases recv : ended .recv <;>
    simp [finish, onSendFin, onRecvFin, stateOf, send, recv]

theorem ended_of_stateOf (live : stateOf ended ≠ .closed)
    (inside : stateOf ended ≠ halfClosed side) : ended side = false := by
  cases side <;> cases send : ended .send <;> cases recv : ended .recv <;>
    simp_all [stateOf, halfClosed]

theorem Faithful.next (faithful : past.Faithful) (ordered : past.Ordered event) :
    (past.next event).Faithful := by
  cases event with
  | frame side type =>
    dsimp only [StreamHistory.next]
    split
    · exact faithful
    rename_i taken
    cases faithful with
    | fresh =>
      obtain ⟨-, -, rfl⟩ | ⟨seen, -⟩ := take_ok taken
      · exact .seen _ (fun _ => false)
      · cases seen
    | seen carried ended =>
      obtain ⟨fresh, -⟩ | ⟨-, -, -, rfl⟩ := take_ok taken
      · cases fresh
      · exact .seen _ ended
  | fin side =>
    cases faithful with
    | fresh => cases ordered
    | seen carried ended =>
      rw [StreamHistory.next, finish_seen]
      exact .seen carried _
  | reset =>
    cases faithful with
    | fresh => cases ordered
    | seen carried ended => exact .seen carried (fun _ => true)

theorem Faithful.apart (faithful : past.Faithful) (ordered : past.Ordered event) :
    past.Apart event := by
  cases faithful with
  | fresh =>
    refine ⟨?_, nofun⟩
    rintro side type stream rfl accepted
    obtain ⟨-, first, -⟩ | ⟨seen, -⟩ := take_ok accepted
    · exact ⟨rfl, fun _ => first⟩
    · cases seen
  | seen carried ended =>
    constructor
    · rintro side type stream rfl accepted
      obtain ⟨fresh, -⟩ | ⟨-, kind, ⟨live, inside⟩, -⟩ := take_ok accepted
      · cases fresh
      refine ⟨ended_of_stateOf live inside, fun uncarried => kind.resolve_right fun data => ?_⟩
      obtain carries | unseen := ordered data
      · exact Bool.false_ne_true (uncarried.symm.trans carries)
      · cases unseen
    · -- Once closed, both sides have ended, and no event takes an end back.
      intro closed
      have both : ended = fun _ => true := by
        funext side
        cases side <;> cases send : ended .send <;> cases recv : ended .recv <;>
          simp_all [stateOf]
      subst both
      cases event with
      | frame side type =>
        dsimp only [StreamHistory.next]
        split
        · rfl
        rename_i taken
        obtain ⟨fresh, -⟩ | ⟨-, -, ⟨live, -⟩, -⟩ := take_ok taken
        · cases fresh
        · exact absurd rfl live
      | fin side => cases side <;> rfl
      | reset => rfl

end StreamHistory

open StreamHistory

theorem directions_apart (events : List StreamEvent) (ordered : Admissible next Ordered {} events) :
    Admissible next Apart {} events :=
  ordered.imp (fun _ _ faithful here => Faithful.next faithful here)
    (fun _ _ faithful here => Faithful.apart faithful here) Faithful.fresh

/-- A request with an end, answered by headers, data and an end. -/
theorem exchange_apart : Admissible next Apart {}
    [.frame .send FrameType.headers, .fin .send, .frame .recv FrameType.headers,
      .frame .recv FrameType.data, .fin .recv, .frame .recv FrameType.headers] := by
  refine directions_apart _ ⟨nofun, rfl, nofun, fun _ => .inl rfl, rfl, nofun, trivial⟩

/-- Headers in one direction let data be the first frame of the other. A reset or an end that comes
before any headers is forgotten at the first. -/
theorem directions_mixed :
    ¬ Apart (run next {} [.frame .send FrameType.headers])
        (.frame .recv FrameType.data) ∧
      ¬ Apart (run next {} [.reset]) (.frame .send FrameType.headers) ∧
      ¬ Apart (run next {} [.fin .send, .frame .recv FrameType.headers])
        (.frame .send FrameType.headers) := by
  refine ⟨fun apart => ?_, fun apart => ?_, fun apart => ?_⟩
  · have first := (apart.accepted .recv FrameType.data _ rfl rfl).2 rfl
    exact absurd first (by decide)
  · cases (apart.accepted .send FrameType.headers _ rfl rfl).1
  · cases (apart.accepted .send FrameType.headers _ rfl rfl).1

end KmxAio.Http3
