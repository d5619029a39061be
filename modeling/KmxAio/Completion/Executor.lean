import KmxAio.Lib.SlotQueue

/-!
# The completion executor

An operation takes entries from the submission queue, prepares them, submits the
queue, and then suspends, recording itself in its context, whose address the entries
carry. Any submission hands the whole queue to the kernel. The loop reaps
completions on its own thread: it stores the result in the context a completion
names and resumes the coroutine recorded there, if one is.
-/

namespace KmxAio.Completion

open Lib Function

/-- Where the context of an operation lies. An address is used again once its operation is gone. -/
abbrev Address := Nat

abbrev Errno := Int

def badFileDescriptor : Errno := 9

def noBufferSpace : Errno := 105

def ENOENT : Errno := 2

def ETIME : Errno := 62

def ETIMEDOUT : Errno := 110

def EALREADY : Errno := 114

def ECANCELED : Errno := 125

inductive Opcode where
  | nop
  | read
  | write
  | readFixed
  | writeFixed
  | accept
  | connect
  | recvmsg
  | sendmsg
  | asyncCancel
  | timeout
  | linkTimeout
  | pollAdd
  deriving DecidableEq

/-- What is prepared in an entry: the request, and the context it names. -/
structure Content where
  opcode : Opcode
  userData : Option Address
  deriving DecidableEq

/-- An entry of the submission queue. Taking an entry leaves in it what it held; who took it last, and
whether it was prepared since, is recorded beside. -/
structure Sqe where
  content : Content := ⟨.nop, none⟩
  taker : Nat := 0
  prepared : Bool := false
  deriving DecidableEq

structure Cqe where
  entry : Sqe
  result : Int
  deriving DecidableEq

/-- What an operation returns to its caller once its completion is there. -/
inductive Outcome where
  | value (result : Int)
  | done
  | failed (error : Errno)
  deriving DecidableEq

/-- The operations, and the request to cancel everything that the loop makes as it stops. -/
inductive Call where
  | read
  | write
  | readFixed
  | writeFixed
  | accept
  | connect
  | recvmsg
  | recvmsgUntil
  | sendmsg
  | cancel
  | timeout
  | poll (fd : Int)
  | requestCancelAll
  deriving DecidableEq

namespace Call

/-- What a call prepares in its entries. The linked timeout of a receive and the cancellation of
everything name no context. -/
def contents (call : Call) (address : Address) : List Content :=
  match call with
  | .read => [⟨.read, some address⟩]
  | .write => [⟨.write, some address⟩]
  | .readFixed => [⟨.readFixed, some address⟩]
  | .writeFixed => [⟨.writeFixed, some address⟩]
  | .accept => [⟨.accept, some address⟩]
  | .connect => [⟨.connect, some address⟩]
  | .recvmsg => [⟨.recvmsg, some address⟩]
  | .recvmsgUntil => [⟨.recvmsg, some address⟩, ⟨.linkTimeout, none⟩]
  | .sendmsg => [⟨.sendmsg, some address⟩]
  | .cancel => [⟨.asyncCancel, some address⟩]
  | .timeout => [⟨.timeout, some address⟩]
  | .poll _ => [⟨.pollAdd, some address⟩]
  | .requestCancelAll => [⟨.asyncCancel, none⟩]

def rejection : Call → Option Errno
  | .poll fd => if fd < 0 then some badFileDescriptor else none
  | _ => none

def outcome (call : Call) (result : Int) : Outcome :=
  match call with
  | .connect => if result < 0 then .failed (-result) else .done
  | .recvmsgUntil =>
    if result = -ECANCELED then .failed ETIMEDOUT
    else if result < 0 then .failed (-result)
    else .value result
  | .cancel =>
    if result < 0 ∧ result ≠ -EALREADY ∧ result ≠ -ENOENT then .failed (-result) else .done
  | .timeout => if result < 0 ∧ result ≠ -ETIME then .failed (-result) else .done
  | _ => if result < 0 then .failed (-result) else .value result

end Call

inductive Phase where
  /-- It takes its entries; a full queue yields none. -/
  | taking (got : List (Option Nat))
  /-- It prepares the entries it took. -/
  | filling (left : List (Nat × Content))
  | prepared
  /-- It has submitted and not suspended yet. -/
  | submitted
  /-- It is suspended, and its context names it. -/
  | waiting
  | returned (outcome : Outcome)
  /-- It returned an error without waiting. -/
  | refused (error : Errno)
  deriving DecidableEq

namespace Phase

def midway : Phase → Bool
  | .taking _ | .filling _ | .prepared | .submitted => true
  | .waiting | .returned _ | .refused _ => false

def unfinished : Phase → Bool
  | .returned _ | .refused _ => false
  | _ => true

/-- Whether an entry of the call can be in the kernel before the call has recorded itself. -/
def exposed : Phase → Bool
  | .filling _ | .prepared | .submitted => true
  | _ => false

theorem midway_of_exposed {phase : Phase} (exposed : phase.exposed = true) :
    phase.midway = true := by
  cases phase with
  | filling left | prepared | submitted => rfl
  | _ => cases exposed

theorem unfinished_of_exposed {phase : Phase} (exposed : phase.exposed = true) :
    phase.unfinished = true := by
  cases phase with
  | filling left | prepared | submitted => rfl
  | _ => cases exposed

def isRefused : Phase → Bool
  | .refused _ => true
  | _ => false

end Phase

structure Operation where
  call : Call
  address : Address
  onLoopThread : Bool
  phase : Phase
  deriving DecidableEq

/-- The context of an operation, which is part of its frame. -/
structure IoContext where
  operation : Nat
  continuation : Option Nat := none
  result : Int := 0
  deriving DecidableEq

/-- The answer of the kernel to a submission: how many entries it took, or an error and none. -/
inductive SubmitAnswer where
  | taken (count : Nat)
  | failed (error : Errno)
  deriving DecidableEq

/-- The executor with its ring and the kernel behind it. The completions the loop reaped and the
coroutines it resumed are recorded, each with the result. -/
structure System where
  ringEntries : Nat
  ring : SlotQueue Sqe
  inFlight : List Sqe := []
  completions : List Cqe := []
  contexts : Address → Option IoContext := fun _ => none
  operations : List Operation := []
  reaped : List (Nat × Int) := []
  resumed : List (Nat × Int) := []

inductive UringEvent where
  /-- A coroutine calls an operation, whose frame is placed at a free address. -/
  | start (call : Call) (address : Address) (onLoopThread : Bool)
  /-- `io_uring_get_sqe`. -/
  | take (operation : Nat)
  /-- An entry is prepared and its user data set. -/
  | fill (operation : Nat)
  | submit (operation : Nat) (answer : SubmitAnswer)
  /-- `io_awaiter::await_suspend`. -/
  | suspend (operation : Nat)
  /-- The loop submits and waits; the kernel takes some entries whatever the wait returns. -/
  | submitAndWait (count : Nat)
  /-- The kernel completes a request. -/
  | complete (index : Nat) (result : Int)
  /-- The loop dispatches the next completion. -/
  | reap
  deriving DecidableEq

namespace System

def create (ringEntries size : Nat) : System :=
  { ringEntries := ringEntries, ring := SlotQueue.empty size {} }

variable (sys : System) (num : Nat) (op : Operation)

def setPhase (phase : Phase) : System :=
  { sys with
    operations := sys.operations.modify num (fun op =>
      { op with phase := phase }) }

def finish (phase : Phase) : System :=
  { sys.setPhase num phase with
    contexts := update sys.contexts op.address none }

/-- An error before the call has waited. The loop only logs that its request to cancel failed. -/
def refuse (error : Errno) : System :=
  sys.finish num op
    (match op.call with
      | .requestCancelAll => .returned .done
      | _ => .refused error)

def loopFree : Bool :=
  sys.operations.all (fun op => !(op.onLoopThread && op.phase.midway))

/-! ## The steps of a call -/

def start (call : Call) (address : Address) (onLoopThread : Bool) : System :=
  if (sys.contexts address).isSome ∨ (onLoopThread ∧ ¬sys.loopFree) ∨
      (call = .requestCancelAll ∧ ¬onLoopThread) then sys
  else
    match call.rejection with
    | some error =>
      { sys with
        operations := sys.operations ++ [⟨call, address, onLoopThread, .refused error⟩] }
    | none =>
      { sys with
        operations := sys.operations ++ [⟨call, address, onLoopThread, .taking []⟩]
        contexts := update sys.contexts address
          (some { operation := sys.operations.length }) }

/-- Once it was answered for every entry it needs, a call that was refused one gives up. -/
def took (got : List (Option Nat)) : System :=
  if got.length < (op.call.contents op.address).length then
    sys.setPhase num (.taking got)
  else if got.all Option.isSome then
    sys.setPhase num
      (.filling ((got.filterMap id).zip (op.call.contents op.address)))
  else sys.refuse num op noBufferSpace

def take (got : List (Option Nat)) : System :=
  match sys.ring.claim (fun entry => { entry with taker := num, prepared := false }) with
  | none => sys.took num op (got ++ [none])
  | some (ring, spot) =>
    { sys with ring := ring }.took num op (got ++ [some spot])

def fill (spot : Nat) (content : Content) (left : List (Nat × Content)) : System :=
  { sys with ring := sys.ring.write spot ⟨content, num, true⟩ }.setPhase num
    (if left = [] then .prepared else .filling left)

/-- The kernel takes entries from the head of the queue, whoever prepared them. -/
def handOver (count : Nat) : System :=
  { sys with
    ring := (sys.ring.consume count).1
    inFlight := sys.inFlight ++ (sys.ring.consume count).2 }

/-- A call goes on to wait; the request to cancel everything does not. -/
def proceed : System :=
  match op.call with
  | .requestCancelAll => sys.finish num op (.returned .done)
  | _ => sys.setPhase num .submitted

/-- On the thread of the loop the entries are left for the loop to submit, as long as more than a
quarter of the queue is free. -/
def leavesToLoop : Bool :=
  op.onLoopThread && decide (sys.ringEntries / 4 < sys.ring.space)

def submit (answer : SubmitAnswer) : System :=
  if sys.leavesToLoop op then sys.proceed num op
  else
    match answer with
    | .failed error => sys.refuse num op error
    | .taken count => (sys.handOver count).proceed num op

def suspend : System :=
  { sys.setPhase num .waiting with
    contexts := update sys.contexts op.address
      ((sys.contexts op.address).map (fun ctx =>
        { ctx with continuation := some num })) }

/-! ## The steps of the loop and the kernel -/

def submitAndWait (count : Nat) : System :=
  if sys.loopFree then sys.handOver count else sys

def complete (index : Nat) (result : Int) : System :=
  match sys.inFlight[index]? with
  | none => sys
  | some entry =>
    { sys with
      inFlight := sys.inFlight.eraseIdx index
      completions := sys.completions ++ [⟨entry, result⟩] }

def resume (result : Int) : System :=
  match sys.operations[num]? with
  | none => sys
  | some op =>
    { sys with resumed := sys.resumed ++ [(num, result)] }.finish num op
      (.returned (op.call.outcome result))

def dispatch (address : Address) (result : Int) : System :=
  match sys.contexts address with
  | none => sys
  | some ctx =>
    match ctx.continuation with
    | none =>
      { sys with
        contexts := update sys.contexts address
          (some { ctx with result := result }) }
    | some num => sys.resume num result

def received (completion : Cqe) (rest : List Cqe) : System :=
  { sys with
    completions := rest
    reaped := sys.reaped ++ [(completion.entry.taker, completion.result)] }

def reap : System :=
  match sys.completions with
  | [] => sys
  | completion :: rest =>
    if sys.loopFree then
      match completion.entry.content.userData with
      | none => { sys with completions := rest }
      | some address => (sys.received completion rest).dispatch address completion.result
    else sys

variable {sys} {address : Address} {ctx : IoContext} {result : Int}

theorem dispatch_stored (there : sys.contexts address = some ctx)
    (unrecorded : ctx.continuation = none) :
    sys.dispatch address result =
      { sys with
        contexts := update sys.contexts address
          (some { ctx with result := result }) } := by
  rw [dispatch, there]
  dsimp only
  rw [unrecorded]

theorem dispatch_resumed {num : Nat} {op : Operation} (there : sys.contexts address = some ctx)
    (recorded : ctx.continuation = some num) (known : sys.operations[num]? = some op) :
    sys.dispatch address result =
      { sys with resumed := sys.resumed ++ [(num, result)] }.finish num op
        (.returned (op.call.outcome result)) := by
  rw [dispatch, there]
  dsimp only
  rw [recorded]
  dsimp only
  rw [resume, known]

theorem reap_cases (sys : System) :
    sys.reap = sys ∨
      ∃ completion rest, sys.completions = completion :: rest ∧ sys.loopFree = true ∧
        ((completion.entry.content.userData = none ∧
            sys.reap = { sys with completions := rest }) ∨
          ∃ address, completion.entry.content.userData = some address ∧
            sys.reap = (sys.received completion rest).dispatch address completion.result) := by
  unfold reap
  cases next : sys.completions with
  | nil => exact .inl rfl
  | cons completion rest =>
    dsimp only
    split_ifs with free
    · refine .inr ⟨completion, rest, rfl, free, ?_⟩
      cases data : completion.entry.content.userData with
      | none => exact .inl ⟨rfl, rfl⟩
      | some address => exact .inr ⟨address, rfl, rfl⟩
    · exact .inl rfl

/-! ## Runs -/

/-- A call goes on with the step its phase asks for, and with no other. -/
def step (sys : System) : UringEvent → System
  | .start call address onLoopThread => sys.start call address onLoopThread
  | .take num =>
    match sys.operations[num]? with
    | some ⟨call, address, onLoopThread, .taking got⟩ =>
      sys.take num ⟨call, address, onLoopThread, .taking got⟩ got
    | _ => sys
  | .fill num =>
    match sys.operations[num]? with
    | some ⟨_, _, _, .filling ((spot, content) :: left)⟩ => sys.fill num spot content left
    | _ => sys
  | .submit num answer =>
    match sys.operations[num]? with
    | some ⟨call, address, onLoopThread, .prepared⟩ =>
      sys.submit num ⟨call, address, onLoopThread, .prepared⟩ answer
    | _ => sys
  | .suspend num =>
    match sys.operations[num]? with
    | some ⟨call, address, onLoopThread, .submitted⟩ =>
      sys.suspend num ⟨call, address, onLoopThread, .submitted⟩
    | _ => sys
  | .submitAndWait count => sys.submitAndWait count
  | .complete index result => sys.complete index result
  | .reap => sys.reap

/-- What a step comes to: nothing where the call is elsewhere, or what the event is. -/
inductive StepsTo (sys : System) : UringEvent → System → Prop where
  | idle (event : UringEvent) : StepsTo sys event sys
  | start (call : Call) (address : Address) (onLoopThread : Bool) :
      StepsTo sys (.start call address onLoopThread) (sys.start call address onLoopThread)
  | take {num : Nat} {operation : Operation} {got : List (Option Nat)}
      (known : sys.operations[num]? = some operation)
      (taking : operation.phase = .taking got) :
      StepsTo sys (.take num) (sys.take num operation got)
  | fill {num position : Nat} {operation : Operation} {content : Content}
      {left : List (Nat × Content)} (known : sys.operations[num]? = some operation)
      (filling : operation.phase = .filling ((position, content) :: left)) :
      StepsTo sys (.fill num) (sys.fill num position content left)
  | submit {num : Nat} {operation : Operation} (answer : SubmitAnswer)
      (known : sys.operations[num]? = some operation)
      (ready : operation.phase = .prepared) :
      StepsTo sys (.submit num answer) (sys.submit num operation answer)
  | suspend {num : Nat} {operation : Operation}
      (known : sys.operations[num]? = some operation)
      (reached : operation.phase = .submitted) :
      StepsTo sys (.suspend num) (sys.suspend num operation)
  | submitAndWait (count : Nat) :
      StepsTo sys (.submitAndWait count) (sys.submitAndWait count)
  | complete (index : Nat) (result : Int) :
      StepsTo sys (.complete index result) (sys.complete index result)
  | reap : StepsTo sys .reap sys.reap

theorem step_stepsTo (sys : System) (event : UringEvent) : sys.StepsTo event (sys.step event) := by
  cases event with
  | start call address onLoopThread => exact .start call address onLoopThread
  | submitAndWait count => exact .submitAndWait count
  | complete index result => exact .complete index result
  | reap => exact .reap
  | take num | fill num | submit num answer | suspend num =>
    dsimp only [step]
    split
    · rename_i known
      constructor <;> first | exact known | rfl
    · exact .idle _

end System

end KmxAio.Completion
