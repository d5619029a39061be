import KmxAio.Lib.Run

/-!
# The states of an HTTP/2 stream

A stream moves when a frame crosses it in either direction. A direction ends with the
frame that carries END_STREAM, or from the start when the other side promised the stream.
-/

namespace KmxAio.Http2

open Lib.Run

/-! ## The state machine -/

inductive FrameType where
  | data | headers | priority | rstStream | settings | pushPromise | ping | goaway | windowUpdate
  | continuation
  deriving DecidableEq

inductive StreamState where
  | idle | reservedLocal | reservedRemote | opened | halfClosedLocal | halfClosedRemote | closed
  deriving DecidableEq

namespace StreamState

def afterIdle (type : FrameType) (endStream : Bool) (current halfClosed reserved : StreamState) :
    StreamState :=
  match type with
  | .headers => if endStream then halfClosed else .opened
  | .pushPromise => reserved
  | _ => current

/-- Headers open the promised half, whether or not they carry END_STREAM. -/
def afterReserved (type : FrameType) (current halfOpened : StreamState) : StreamState :=
  match type with
  | .headers => halfOpened
  | .rstStream => .closed
  | _ => current

def afterData (type : FrameType) (endStream : Bool) (current finished : StreamState) :
    StreamState :=
  if type = .rstStream then .closed else if endStream then finished else current

def onFrameSent (state : StreamState) (type : FrameType) (endStream : Bool) : StreamState :=
  match state with
  | .idle => afterIdle type endStream state .halfClosedLocal .reservedLocal
  | .reservedLocal => afterReserved type state .halfClosedRemote
  | .opened => afterData type endStream state .halfClosedLocal
  | .halfClosedRemote => afterData type endStream state .closed
  | .halfClosedLocal | .closed | .reservedRemote => if type = .rstStream then .closed else state

def onFrameReceived (state : StreamState) (type : FrameType) (endStream : Bool) : StreamState :=
  match state with
  | .idle => afterIdle type endStream state .halfClosedRemote .reservedRemote
  | .reservedRemote => afterReserved type state .halfClosedLocal
  | .opened => afterData type endStream state .halfClosedRemote
  | .halfClosedLocal => afterData type endStream state .closed
  | .halfClosedRemote | .closed | .reservedLocal => if type = .rstStream then .closed else state

end StreamState

/-! ## What crosses a stream -/

inductive Side where
  | sent | received
  deriving DecidableEq

structure Crossing where
  side : Side
  type : FrameType
  endStream : Bool
  deriving DecidableEq

namespace StreamState

def onCrossing (state : StreamState) (crossing : Crossing) : StreamState :=
  match crossing.side with
  | .sent => state.onFrameSent crossing.type crossing.endStream
  | .received => state.onFrameReceived crossing.type crossing.endStream

/-- The states in which nothing has ended a direction yet. -/
def unfinished : Side → List StreamState
  | .sent => [.idle, .reservedLocal, .opened, .halfClosedRemote]
  | .received => [.idle, .reservedRemote, .opened, .halfClosedLocal]

def reserved : Side → StreamState
  | .sent => .reservedLocal
  | .received => .reservedRemote

/-- The frame carries END_STREAM where that ends its direction. -/
def EndsStream (state : StreamState) (crossing : Crossing) : Prop :=
  crossing.endStream = true ∧ state ∈ unfinished crossing.side ∧
    (crossing.type = .headers ∨
      crossing.type = .data ∧ state ≠ .idle ∧ state ≠ reserved crossing.side)

/-- The frame ends a direction: its own by END_STREAM, the other by promising the stream. -/
def Ends (side : Side) (state : StreamState) (crossing : Crossing) : Prop :=
  crossing.side = side ∧ state.EndsStream crossing ∨
    crossing.side ≠ side ∧ state = .idle ∧ crossing.type = .pushPromise

/-- The headers that open a promised stream also end it. -/
def EndsReserved (state : StreamState) (crossing : Crossing) : Prop :=
  state = reserved crossing.side ∧ crossing.type = .headers ∧ crossing.endStream = true

instance (state : StreamState) (crossing : Crossing) : Decidable (state.EndsStream crossing) :=
  inferInstanceAs (Decidable (_ ∧ _))

instance (side : Side) (state : StreamState) (crossing : Crossing) :
    Decidable (Ends side state crossing) :=
  inferInstanceAs (Decidable (_ ∨ _))

variable {state : StreamState} {crossing : Crossing} {side : Side}

theorem onCrossing_closed (crossing : Crossing) : onCrossing .closed crossing = .closed := by
  obtain ⟨_ | _, type, _⟩ := crossing <;> exact ite_self _

theorem onCrossing_reset (used : state ≠ .idle) (reset : crossing.type = .rstStream) :
    state.onCrossing crossing = .closed := by
  obtain ⟨_ | _, type, _⟩ := crossing <;> subst reset <;> cases state <;>
    first | rfl | exact absurd rfl used

/-- A direction that has ended stays ended. -/
theorem finished_onCrossing (finished : state ∉ unfinished side) :
    state.onCrossing crossing ∉ unfinished side := by
  obtain ⟨_ | _, type, flag⟩ := crossing <;> cases side <;> cases state <;>
    first
    | exact absurd (by decide) finished
    | cases type <;> cases flag <;> decide

theorem finished_of_ends (ends : Ends side state crossing) (opens : ¬ state.EndsReserved crossing) :
    state.onCrossing crossing ∉ unfinished side := by
  obtain ⟨way, type, flag⟩ := crossing
  rcases ends with ⟨rfl, flagged, inside, kind⟩ | ⟨other, rfl, rfl⟩
  · subst flagged
    rcases kind with rfl | ⟨rfl, used, carrying⟩
    · cases way <;> cases state <;> first | decide | exact absurd ⟨rfl, rfl, rfl⟩ opens
    · cases way <;> cases state <;>
        first | decide | exact absurd rfl used | exact absurd rfl carrying
  · cases way <;> cases side <;> first | exact absurd rfl other | cases flag <;> decide

end StreamState

/-! ## Histories -/

/-- The state of a stream beside what has crossed it. -/
structure History where
  state : StreamState := .idle
  ended : Side → Bool := fun _ => false
  reset : Bool := false

namespace History

open StreamState

def cross (past : History) (crossing : Crossing) : History where
  state := past.state.onCrossing crossing
  ended side := past.ended side || decide (Ends side past.state crossing)
  reset := past.reset || decide (past.state ≠ .idle ∧ crossing.type = .rstStream)

/-- A direction that has ended is not open again, and a stream that is finished is closed. -/
structure Kept (past : History) : Prop where
  ended : ∀ side, past.ended side = true → past.state ∉ unfinished side
  finished : past.ended .sent = true ∧ past.ended .received = true ∨ past.reset = true →
    past.state = .closed

variable {past : History}

theorem kept_start : Kept {} :=
  ⟨fun _ impossible => (Bool.false_ne_true impossible).elim, by simp⟩

theorem closed_of_finished {state : StreamState} (sent : state ∉ unfinished .sent)
    (received : state ∉ unfinished .received) : state = .closed := by
  cases state <;> first | rfl | exact absurd (by decide) sent | exact absurd (by decide) received

theorem Kept.cross (kept : past.Kept) {crossing : Crossing}
    (opens : ¬ past.state.EndsReserved crossing) : (past.cross crossing).Kept := by
  have ended : ∀ side, (past.cross crossing).ended side = true →
      (past.cross crossing).state ∉ unfinished side := by
    intro side ended
    rcases Bool.or_eq_true _ _ ▸ ended with before | now
    · exact finished_onCrossing (kept.ended side before)
    · exact finished_of_ends (of_decide_eq_true now) opens
  refine ⟨ended, ?_⟩
  rintro (⟨sent, received⟩ | reset)
  · exact closed_of_finished (ended .sent sent) (ended .received received)
  · rcases Bool.or_eq_true _ _ ▸ reset with before | now
    · have closed := kept.finished (.inr before)
      show past.state.onCrossing crossing = .closed
      rw [closed, onCrossing_closed]
    · obtain ⟨used, reset⟩ := of_decide_eq_true now
      exact onCrossing_reset used reset

end History

open StreamState

theorem finished_direction_stays (crossings : List Crossing) :
    (Admissible History.cross (fun past crossing => ¬ past.state.EndsReserved crossing) {}
        crossings → (run History.cross {} crossings).Kept) ∧
      ∀ later, (run History.cross {} crossings).state = .closed →
        (run History.cross {} (crossings ++ later)).state = .closed := by
  refine ⟨invariant_run (fun _ _ kept => History.Kept.cross kept) History.kept_start, ?_⟩
  intro later closed
  rw [run_append]
  generalize run History.cross {} crossings = past at closed ⊢
  induction later generalizing past with
  | nil => exact closed
  | cons crossing rest ih =>
    refine ih _ ?_
    rw [History.cross, closed, onCrossing_closed]

/-- A request sent whole, and the answer to it. -/
theorem exchange_closes :
    let exchange : List Crossing :=
      [⟨.sent, .headers, true⟩, ⟨.received, .headers, false⟩, ⟨.received, .data, true⟩]
    (run History.cross {} exchange).Kept ∧
      (run History.cross {} (exchange ++ [⟨.received, .headers, false⟩])).state = .closed := by
  intro exchange
  obtain ⟨kept, closed⟩ := finished_direction_stays exchange
  refine ⟨kept ?_, closed _ rfl⟩
  simp [exchange, Admissible, EndsReserved, reserved, History.cross, onCrossing, onFrameSent,
    afterIdle]

/-- A pushed answer of headers alone leaves its stream half open. -/
theorem pushed_headers_stay_open :
    let past := run History.cross {} [⟨.sent, .pushPromise, false⟩, ⟨.sent, .headers, true⟩]
    past.ended .sent = true ∧ past.ended .received = true ∧ past.state ∈ unfinished .sent := by
  decide

/-! ## The two ends of a stream -/

/-- A stream that carries data, by the directions that have ended. -/
def carrying : Bool → Bool → StreamState
  | false, false => .opened
  | true, false => .halfClosedLocal
  | false, true => .halfClosedRemote
  | true, true => .closed

def Crossing.finishes (side : Side) (crossing : Crossing) : Bool :=
  crossing.type = .rstStream ∨ crossing.side = side ∧ crossing.endStream

/-- The frame as the other end sees it. -/
def Crossing.opposite (crossing : Crossing) : Crossing :=
  { crossing with side := if crossing.side = .sent then .received else .sent }

theorem run_carrying (crossings : List Crossing) (sent received : Bool) :
    run onCrossing (carrying sent received) crossings =
      carrying (sent || crossings.any (Crossing.finishes .sent))
        (received || crossings.any (Crossing.finishes .received)) := by
  induction crossings generalizing sent received with
  | nil => simp
  | cons crossing rest ih =>
    have step : (carrying sent received).onCrossing crossing =
        carrying (sent || crossing.finishes .sent) (received || crossing.finishes .received) := by
      obtain ⟨_ | _, type, flag⟩ := crossing <;> cases sent <;> cases received <;> cases flag <;>
        cases type <;> rfl
    rw [run_cons, step, ih, List.any_cons, List.any_cons, Bool.or_assoc, Bool.or_assoc]

/-- Both ends of an open stream that saw the same frames agree, in whatever order these crossed:
what one has closed locally the other has closed remotely. -/
theorem ends_agree {here there : List Crossing}
    (crossed : there.Perm (here.map Crossing.opposite)) :
    ∃ sent received, run onCrossing .opened here = carrying sent received ∧
      run onCrossing .opened there = carrying received sent := by
  refine ⟨_, _, run_carrying here false false, ?_⟩
  have flipped (crossing : Crossing) :
      crossing.opposite.finishes .sent = crossing.finishes .received ∧
        crossing.opposite.finishes .received = crossing.finishes .sent := by
    obtain ⟨_ | _, type, flag⟩ := crossing <;> simp [Crossing.finishes, Crossing.opposite]
  rw [← show carrying false false = .opened from rfl, run_carrying, crossed.any_eq,
    crossed.any_eq, List.any_map, List.any_map]
  simp only [Function.comp_def, flipped]

theorem ends_agree_crossing :
    let frames : List Crossing := [⟨.sent, .data, true⟩, ⟨.received, .data, true⟩]
    ∃ sent received, run onCrossing .opened frames = carrying sent received ∧
      run onCrossing .opened frames = carrying received sent :=
  ends_agree (List.Perm.swap _ _ _)

end KmxAio.Http2
