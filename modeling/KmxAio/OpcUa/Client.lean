import Mathlib.Data.List.Basic

/-!
# The requests of an OPC UA client

A call of a service makes a request, hands it to the backend together with a
callback, iterates the client once, and then waits for the outcome, suspending when
there is none yet. A callback stores the outcome. A client that disconnects, or
finds itself disconnected, fails every request without an outcome and resumes the
coroutines suspended on them. A coroutine that is resumed may call the client again,
so calls nest.
-/

namespace KmxAio.OpcUa

inductive ErrorCode where
  | notInitialized
  | invalidConfiguration
  | connectFailed
  | disconnected
  | requestFailed
  | securityError
  | timedOut
  | internalError
  deriving DecidableEq

abbrev StatusCode := UInt32

namespace StatusCode

def good : StatusCode := 0x00000000

def badInternalError : StatusCode := 0x80020000

def badTimeout : StatusCode := 0x800A0000

def badSecureChannelClosed : StatusCode := 0x80860000

def badConfigurationError : StatusCode := 0x80890000

def badNotConnected : StatusCode := 0x808A0000

def badConnectionClosed : StatusCode := 0x80AE0000

end StatusCode

inductive StatusContext where
  | connect
  | runtime
  deriving DecidableEq

def mapStatusToError (status : StatusCode) (ctx : StatusContext) : Option ErrorCode :=
  if status = .good then none
  else if status = .badTimeout then some .timedOut
  else if status = .badConfigurationError then some .invalidConfiguration
  else if status = .badSecureChannelClosed then
    some (if ctx = .connect then .securityError else .disconnected)
  else if status = .badNotConnected ∨ status = .badConnectionClosed then
    some (if ctx = .connect then .connectFailed else .disconnected)
  else if status = .badInternalError then
    some (if ctx = .connect then .connectFailed else .requestFailed)
  else some (if ctx = .connect then .connectFailed else .internalError)

inductive LifecycleState where
  | idle
  | connecting
  | connected
  | disconnecting
  deriving DecidableEq

inductive SecureChannelState where
  | closed
  | reverseListening
  | connecting
  | connected
  | reverseConnected
  | rheSent
  | helSent
  | helReceived
  | ackSent
  | ackReceived
  | opnSent
  | opened
  | closing
  deriving DecidableEq

inductive SessionState where
  | closed
  | createRequested
  | created
  | activateRequested
  | activated
  | closing
  deriving DecidableEq

def isConnected (channel : SecureChannelState) (sess : SessionState) : Bool :=
  (channel = .connected ∨ channel = .opened) ∧ sess = .activated

def isClosed (channel : SecureChannelState) (sess : SessionState) : Bool :=
  channel = .closed ∧ sess = .closed

/-! ## Requests -/

inductive ServiceKind where
  | read
  | write
  | call
  deriving DecidableEq

inductive ServiceCall where
  | readNode (nodeId : String)
  | writeNode (nodeId value : String)
  | callMethod (objectNodeId methodNodeId : String) (inputArguments : List String)
  deriving DecidableEq

namespace ServiceCall

def kind : ServiceCall → ServiceKind
  | .readNode _ => .read
  | .writeNode _ _ => .write
  | .callMethod _ _ _ => .call

def complete : ServiceCall → Bool
  | .readNode nodeId => nodeId ≠ ""
  | .writeNode nodeId val => nodeId ≠ "" ∧ val ≠ ""
  | .callMethod objectNodeId methodNodeId _ => objectNodeId ≠ "" ∧ methodNodeId ≠ ""

end ServiceCall

inductive Outcome where
  | value (nodeId value : String)
  | written
  | outputs (objectNodeId methodNodeId : String) (outputArguments : List String)
  | failed (error : Option ErrorCode)
  deriving DecidableEq

inductive Stage where
  /-- In the iteration that its call makes. -/
  | iterating
  /-- Suspended on the outcome. -/
  | suspended
  | returned (outcome : Outcome)
  deriving DecidableEq

/-- The state of a request, which its coroutine keeps alive. The call of the client in which the
outcome was stored is recorded beside it. -/
structure Request where
  call : ServiceCall
  id : UInt64
  outcome : Option Outcome := none
  /-- The coroutine of the request is recorded in it. -/
  continuation : Bool := false
  stage : Stage := .iterating
  storedIn : Nat := 0
  deriving DecidableEq

namespace Request

def store (req : Request) (outcome : Outcome) (within : Nat) : Request :=
  { req with outcome := some outcome, storedIn := within }

def onRequestComplete (req : Request) (success : Outcome) (requestId : UInt32)
    (status : StatusCode) (within : Nat) : Request :=
  if req.id ≠ requestId.toUInt64 ∨ req.outcome.isSome then req
  else if status ≠ .good then
    req.store (.failed (mapStatusToError status .runtime)) within
  else req.store success within

end Request

/-- What the backend passes to a callback. A text it does not give is empty. -/
structure Completion where
  /-- The request the callback was registered for. -/
  request : Nat
  status : StatusCode
  value : Option String := none
  outputArguments : List (Option String) := []
  deriving DecidableEq

namespace Request

variable (req : Request)

def onReadRequestComplete (nodeId : String) (requestId : UInt32)
    (completion : Completion) (within : Nat) : Request :=
  req.onRequestComplete (.value nodeId (completion.value.getD "")) requestId completion.status
    within

def onWriteRequestComplete (requestId : UInt32) (completion : Completion)
    (within : Nat) : Request :=
  req.onRequestComplete .written requestId completion.status within

def onCallRequestComplete (objectNodeId methodNodeId : String)
    (requestId : UInt32) (completion : Completion) (within : Nat) : Request :=
  req.onRequestComplete
    (.outputs objectNodeId methodNodeId (completion.outputArguments.map (fun text => text.getD "")))
    requestId completion.status within

def onComplete (requestId : UInt32) (completion : Completion) (within : Nat) :
    Request :=
  match req.call with
  | .readNode nodeId => req.onReadRequestComplete nodeId requestId completion within
  | .writeNode _ _ => req.onWriteRequestComplete requestId completion within
  | .callMethod objectNodeId methodNodeId _ =>
    req.onCallRequestComplete objectNodeId methodNodeId requestId completion within

end Request

/-! ## The client -/

structure ClientConfig where
  endpointUrl : String
  /-- The security mode is another than none. -/
  secured : Bool := false
  certificatePath : String := ""
  privateKeyPath : String := ""
  deriving DecidableEq

structure PendingEntry where
  kind : ServiceKind
  id : UInt64
  number : Nat
  deriving DecidableEq

/-- What the backend was given for a request: its user data and the id, cut to 32 bits. -/
structure Submission where
  number : Nat
  requestId : UInt32
  deriving DecidableEq

/-- A call of `iterate` or `disconnect` that has not returned: whose iteration it is, the coroutines
it has still to resume, and what it returns. -/
structure Activation where
  number : Nat
  owner : Option Nat
  handles : List Nat
  result : Except (Option ErrorCode) Bool
  disconnects : Bool := false
  deriving DecidableEq

/-- What the backend does as the client iterates: the callbacks it runs, the status of the iteration,
and the states it reports after. -/
structure Iteration where
  completions : List Completion := []
  status : StatusCode := .good
  channel : SecureChannelState := .opened
  session : SessionState := .activated
  connectStatus : StatusCode := .good
  deriving DecidableEq

/-- A client with the requests it handed to the backend, in order, and its calls that have not
returned, the innermost first. The coroutines that were resumed, and the requests whose callback
stored nothing although there was no outcome, are recorded. -/
structure Client where
  config : ClientConfig
  native : Bool := false
  state : LifecycleState := .idle
  deleteAfterDisconnect : Bool := false
  nextRequestId : UInt64 := 1
  pending : List PendingEntry := []
  requests : List Request := []
  submitted : List Submission := []
  stack : List Activation := []
  calls : Nat := 0
  resumed : List (Nat × Outcome) := []
  ignored : List Nat := []
  deriving DecidableEq

namespace Client

variable (client : Client) (owner : Option Nat)

def emplace (entry : PendingEntry) : Client :=
  if client.pending.any (fun other => other.kind = entry.kind ∧ other.id = entry.id) then client
  else { client with pending := client.pending ++ [entry] }

def erase (kind : ServiceKind) (id : UInt64) : Client :=
  { client with
    pending := client.pending.filter (fun entry => ¬(entry.kind = kind ∧ entry.id = id)) }

def setRequest (num : Nat) (req : Request) : Client :=
  { client with requests := client.requests.set num req }

def complete (completion : Completion) : Client :=
  match client.submitted.find? (·.number = completion.request) with
  | none => client
  | some submission =>
    let forgotten :=
      { client with submitted := client.submitted.filter (·.number ≠ completion.request) }
    match client.requests[submission.number]? with
    | none => forgotten
    | some req =>
      match req.stage with
      -- the state of the request is gone with its coroutine
      | .returned _ => forgotten
      | _ =>
        let completed := req.onComplete submission.requestId completion client.calls
        { forgotten.setRequest submission.number completed with
          ignored :=
            if completed.outcome.isNone then client.ignored ++ [submission.number]
            else client.ignored }

/-- Fails a request that has no outcome, and collects the coroutine recorded in it. -/
def failRequest (error : Option ErrorCode) (swept : Client × List Nat) (entry : PendingEntry) :
    Client × List Nat :=
  match swept.1.requests[entry.number]? with
  | none => swept
  | some req =>
    if req.outcome.isSome then swept
    else if req.continuation then
      (swept.1.setRequest entry.number
          { req.store (.failed error) swept.1.calls with continuation := false },
        swept.2 ++ [entry.number])
    else (swept.1.setRequest entry.number (req.store (.failed error) swept.1.calls), swept.2)

def failPendingRequests (kind : ServiceKind) (error : Option ErrorCode)
    (swept : Client × List Nat) : Client × List Nat :=
  (swept.1.pending.filter (·.kind = kind)).foldl (failRequest error) swept

def failAllPendingRequests (error : Option ErrorCode) : Client × List Nat :=
  failPendingRequests .call error
    (failPendingRequests .write error (failPendingRequests .read error (client, [])))

def activate (handles : List Nat) (result : Except (Option ErrorCode) Bool) (disconnects : Bool) :
    Client :=
  { client with
    stack := ⟨client.calls, owner, handles, result, disconnects⟩ :: client.stack
    calls := client.calls + 1 }

def finalizeDisconnect : Client :=
  { client with
    native := false, state := .idle, deleteAfterDisconnect := false, submitted := [] }

variable (iteration : Iteration)

def iterateFailed : Client :=
  let mapped := mapStatusToError iteration.connectStatus
    (if client.state = .connecting then .connect else .runtime)
  let (swept, handles) := client.failAllPendingRequests mapped
  let left :=
    if isClosed iteration.channel iteration.session then swept.finalizeDisconnect
    else { swept with state := .idle }
  left.activate owner handles (.error mapped) false

def noteConnected : Client :=
  if isConnected iteration.channel iteration.session ∧ client.state ≠ .connected then
    { client with state := .connected }
  else client

def iterateConnected : Client :=
  if client.deleteAfterDisconnect ∧ isClosed iteration.channel iteration.session then
    let (swept, handles) := client.failAllPendingRequests (some .disconnected)
    swept.finalizeDisconnect.activate owner handles (.ok false) false
  else if ¬isConnected iteration.channel iteration.session ∧ client.state = .connected then
    let (swept, handles) := client.failAllPendingRequests (some .disconnected)
    { swept with state := .idle }.activate owner handles (.error (some .disconnected)) false
  else client.activate owner [] (.ok !client.deleteAfterDisconnect) false

def iterate (timeout : Int) (iteration : Iteration) :
    Client :=
  if ¬client.native then client.activate owner [] (.error (some .notInitialized)) false
  else if timeout < 0 then
    client.activate owner [] (.error (some .invalidConfiguration)) false
  else
    let ran := iteration.completions.foldl complete client
    if iteration.status ≠ .good then
      ran.activate owner [] (.error (mapStatusToError iteration.status .runtime)) false
    else if iteration.connectStatus ≠ .good then ran.iterateFailed owner iteration
    else (ran.noteConnected iteration).iterateConnected owner iteration

def disconnect (status : StatusCode) : Client :=
  if ¬client.native ∨ status ≠ .good then client
  else
    let (swept, handles) := client.failAllPendingRequests (some .disconnected)
    swept.activate none handles (.ok true) true

def connect (created : Bool) (status : StatusCode) : Client :=
  if client.config.endpointUrl = "" ∨ client.native ∨
      (client.config.secured ∧
        (client.config.certificatePath = "" ∨ client.config.privateKeyPath = "")) ∨ ¬created then
    client
  else if status ≠ .good then { client with state := .idle, deleteAfterDisconnect := false }
  else { client with native := true, state := .connecting, deleteAfterDisconnect := false }

def serviceSessionError : Option ErrorCode :=
  if ¬client.native then some .notInitialized
  else if client.state ≠ .connected then some .disconnected
  else none

def handToBackend (call : ServiceCall) (id : UInt64) : Client :=
  { client with
    requests := client.requests ++ [{ call := call, id := id }]
    submitted := client.submitted ++ [⟨client.requests.length, id.toUInt32⟩] }

/-- A service call, up to where the iteration it makes resumes coroutines. -/
def request (call : ServiceCall) (submitStatus : StatusCode) (iteration : Iteration) : Client :=
  if ¬call.complete ∨ client.serviceSessionError.isSome then client
  else
    let id := client.nextRequestId
    let num := client.requests.length
    let numbered := { client with nextRequestId := id + 1 }.emplace ⟨call.kind, id, num⟩
    if submitStatus ≠ .good then numbered.erase call.kind id
    else (numbered.handToBackend call id).iterate (some num) 0 iteration

/-! ## What coroutines do next -/

def giveBack (num : Nat) (req : Request) (outcome : Outcome) : Client :=
  (client.erase req.call.kind req.id).setRequest num
    { req with stage := .returned outcome }

def resumeNext (client : Client) : Client :=
  match client.stack with
  | ⟨num, owner, handle :: handles, result, disconnects⟩ :: outer =>
    let left := { client with stack := ⟨num, owner, handles, result, disconnects⟩ :: outer }
    match client.requests[handle]? with
    | none => left
    | some req =>
      match req.outcome with
      | none => left
      | some outcome =>
        { left.giveBack handle req outcome with
          resumed := client.resumed ++ [(handle, outcome)] }
  | _ => client

/-- The iteration that the call of a request made has returned. -/
def awaitOutcome (num : Nat) (req : Request) (result : Except (Option ErrorCode) Bool) :
    Client :=
  match result with
  | .error error => client.giveBack num req (.failed error)
  | .ok false => client.giveBack num req (.failed (some .disconnected))
  | .ok true =>
    match req.outcome with
    | some outcome => client.giveBack num req outcome
    | none => client.setRequest num { req with continuation := true, stage := .suspended }

/-- A coroutine in its first iteration goes on when that returns. -/
def awaitOwner (result : Except (Option ErrorCode) Bool) :
    Client :=
  match owner with
  | none => client
  | some num =>
    match client.requests[num]? with
    | none => client
    | some req =>
      match req.stage with
      | .iterating => client.awaitOutcome num req result
      | _ => client

/-- The innermost call returns once it has resumed the coroutines it collected. -/
def leave (client : Client) : Client :=
  match client.stack with
  | ⟨_, owner, [], result, disconnects⟩ :: outer =>
    let left := { client with stack := outer }
    (if disconnects then { left with state := .disconnecting, deleteAfterDisconnect := true }
      else left).awaitOwner owner result
  | _ => client

end Client

inductive ClientEvent where
  | connect (created : Bool) (status : StatusCode)
  | request (call : ServiceCall) (submitStatus : StatusCode) (iteration : Iteration)
  | iterate (timeout : Int) (iteration : Iteration)
  | disconnect (status : StatusCode)
  | resumeNext
  | leave
  deriving DecidableEq

def Client.step (client : Client) : ClientEvent → Client
  | .connect created status => client.connect created status
  | .request call submitStatus iteration => client.request call submitStatus iteration
  | .iterate timeout iteration => client.iterate none timeout iteration
  | .disconnect status => client.disconnect status
  | .resumeNext => client.resumeNext
  | .leave => client.leave

end KmxAio.OpcUa
