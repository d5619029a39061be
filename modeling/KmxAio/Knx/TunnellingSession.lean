import KmxAio.Knx.Datagram

/-!
# The tunnelling session

The rules of a tunnelling client without any I/O: which service is legal in which
state, which channel and sequence number an answer has to carry, and when a retry
becomes a give-up. Over a stream nothing is acknowledged and nothing is resent.
-/

namespace KmxAio.Knx

open Lib.Wire Knx.Frame Connection

structure TunnellingConfig where
  maxRetries : UInt16 := 2
  ackTimeoutMs : UInt32 := 1000
  connectTimeoutMs : UInt32 := 10000
  connectionstateTimeoutMs : UInt32 := 10000
  disconnectTimeoutMs : UInt32 := 10000
  heartbeatIntervalMs : UInt32 := 60000
  heartbeatFailureLimit : UInt8 := 3
  inactivityTimeoutMs : UInt32 := 120000
  deriving DecidableEq

inductive SessionState where
  | idle
  | connecting
  | connected
  | waitingAck
  | closing
  | closed
  deriving DecidableEq

structure TunnellingSession where
  config : TunnellingConfig := {}
  state : SessionState := .idle
  pending : Bool := false
  retries : UInt32 := 0
  channelId : UInt16 := 0
  expectedSequence : UInt16 := 0
  nextSequence : UInt8 := 0
  connectRetries : UInt16 := 0
  disconnectRetries : UInt16 := 0
  heartbeatFailures : UInt8 := 0
  lastActivityMs : UInt32 := 0
  incomingSequenceValid : Bool := false
  lastIncomingSequence : UInt8 := 0
  nextIncomingSequence : UInt8 := 0
  assignedAddress : IndividualAddress := 0
  requestPacket : Octets := []
  connectPacket : Octets := []
  lastDeadlineMs : UInt32 := 0
  stream : Bool := false
  heartbeatOutstanding : Bool := false
  heartbeatDeadlineMs : UInt32 := 0
  controlEndpoint : Hpai := Hpai.default
  deriving DecidableEq

def reachedMs (nowMs deadlineMs : UInt32) : Bool := (nowMs - deadlineMs).toInt32 ≥ 0

namespace TunnellingSession

variable (sess : TunnellingSession) (room : Nat)

def reset : TunnellingSession :=
  { config := sess.config, stream := sess.stream }

def shutdown : TunnellingSession :=
  { sess with
    pending := false
    heartbeatOutstanding := false
    state := .closed
    requestPacket := []
    connectPacket := [] }

/-- Over a stream nothing is acknowledged and nothing is resent. -/
def useStreamRules (stream : Bool) : TunnellingSession :=
  { sess with stream := stream }

/-! ## Preparing packets -/

def prepareConnectRequestPacket (req : ConnectRequestFrame) :
    TunnellingSession × Expected Octets :=
  if sess.state ≠ .idle then (sess, refuse .invalidConfiguration)
  else
    match encodeConnectRequestPacket room req with
    | .error why => (sess, .error why)
    | .ok pkt => ({ sess with connectPacket := pkt }, .ok pkt)

def startConnect (req : ConnectRequestFrame) (deadlineMs : UInt32) :
    TunnellingSession × Expected Octets :=
  match sess.prepareConnectRequestPacket room req with
  | (unprepared, .error why) => (unprepared, .error why)
  | (prepared, .ok pkt) =>
    ({ prepared with
        controlEndpoint := req.controlEndpoint
        state := .connecting
        connectRetries := 0
        lastDeadlineMs := deadlineMs }, .ok pkt)

variable (chan : UInt8) (val : Datagram) (req : TunnellingRequestFrame) (pkt : Octets)
  (deadlineMs : UInt32) (nowMs : UInt32)

def startConnectRaw : TunnellingSession × Expected Unit :=
  if sess.state ≠ .idle then (sess, refuse .invalidConfiguration)
  else if pkt.length < communicationHeaderSize ∨ pkt.length > maxDatagramSize then
    (sess, refuse .invalidLength)
  else
    ({ sess with
        connectPacket := pkt
        controlEndpoint := Hpai.default
        state := .connecting
        connectRetries := 0
        lastDeadlineMs := deadlineMs }, .ok ())

/-- Marks a request outstanding; over a stream it is complete at once and only the counter moves. -/
def beginRequest (chan seq : UInt16) (deadlineMs : UInt32) :
    TunnellingSession × Expected Unit :=
  if sess.pending then (sess, refuse .sendQueueFull)
  else if sess.state = .closing ∨ sess.state = .closed then (sess, refuse .shutdown)
  else if chan = 0 ∨ chan > 0xFF ∨ seq > 0xFF then (sess, refuse .sequenceError)
  else
    let numbered :=
      { sess with
        channelId := chan
        expectedSequence := seq
        nextSequence := seq.toUInt8 + 1 }
    if sess.stream then (numbered, .ok ())
    else
      ({ numbered with pending := true, state := .waitingAck, lastDeadlineMs := deadlineMs },
        .ok ())

def beginNextRequest : TunnellingSession × Expected UInt8 :=
  match sess.beginRequest chan.toUInt16 sess.nextSequence.toUInt16 deadlineMs with
  | (refused, .error why) => (refused, .error why)
  | (started, .ok _) => (started, .ok sess.nextSequence)

def prepareRequestPacket (cemiBytes : Octets) (deadlineMs : UInt32) :
    TunnellingSession × Expected Octets :=
  if sess.pending then (sess, refuse .sendQueueFull)
  else if sess.state = .closing ∨ sess.state = .closed then (sess, refuse .shutdown)
  else if chan = 0 then (sess, refuse .sequenceError)
  else
    match encodeTunnellingRequestPacket room chan sess.nextSequence cemiBytes with
    | .error why => (sess, .error why)
    | .ok pkt =>
      let retained := if sess.stream then sess else { sess with requestPacket := pkt }
      match retained.beginRequest chan.toUInt16 sess.nextSequence.toUInt16 deadlineMs with
      | (refused, .error why) => (refused, .error why)
      | (started, .ok _) => (started, .ok pkt)

def prepareRetryPacket : Expected Octets :=
  if sess.pending = false ∨ sess.retries = 0 ∨ sess.requestPacket = [] then
    refuse .invalidConfiguration
  else if room < sess.requestPacket.length then refuse .invalidLength
  else .ok sess.requestPacket

def prepareConnectionstateRequestPacket :
    Expected Octets :=
  if sess.state ≠ .connected then refuse .shutdown
  else
    encodeConnectionstateRequestPacket room
      ⟨sess.channelId.toUInt8, sess.controlEndpoint⟩

def prepareDisconnectRequestPacket :
    TunnellingSession × Expected Octets :=
  if sess.state = .closed then (sess, refuse .shutdown)
  else if sess.state ≠ .connected then (sess, refuse .invalidConfiguration)
  else
    match encodeDisconnectRequestPacket room
        ⟨sess.channelId.toUInt8, sess.controlEndpoint⟩ with
    | .error why => (sess, .error why)
    | .ok pkt => ({ sess with state := .closing, disconnectRetries := 0 }, .ok pkt)

/-! ## Acknowledgements, responses and indications -/

def onAck (chan seq : UInt16) :
    TunnellingSession × Expected Unit :=
  if sess.pending = false then (sess, refuse .sequenceError)
  else if sess.channelId ≠ chan ∨ sess.expectedSequence ≠ seq then
    (sess, refuse .sequenceError)
  else
    ({ sess with
        pending := false
        requestPacket := []
        state := .connected
        retries := 0
        channelId := chan
        expectedSequence := seq }, .ok ())

def onAckFrame (ack : TunnellingAckFrame) :
    TunnellingSession × Expected Unit :=
  if ack.status ≠ 0 then (sess, refuse .connectionFailed)
  else sess.onAck ack.channelId.toUInt16 ack.sequenceNumber.toUInt16

def abandonConnect : TunnellingSession :=
  if sess.state ≠ .connecting then sess
  else { sess with state := .idle, connectPacket := [], connectRetries := 0 }

def onConnectResponse (status : ConnectStatus)
    (assignedAddress : IndividualAddress) : TunnellingSession × Expected Unit :=
  if sess.state ≠ .idle ∧ sess.state ≠ .connecting then
    (sess, refuse .invalidConfiguration)
  else if status ≠ .noError then (sess.abandonConnect, refuse .connectionFailed)
  else if chan = 0 then (sess.abandonConnect, refuse .sequenceError)
  else
    ({ sess with
        channelId := chan.toUInt16
        assignedAddress := assignedAddress
        state := .connected
        pending := false
        retries := 0
        connectRetries := 0
        disconnectRetries := 0
        connectPacket := []
        heartbeatFailures := 0
        lastActivityMs := 0
        incomingSequenceValid := false }, .ok ())

/-- Counts a failed heartbeat, and closes the session when the run of them is long enough. -/
def failHeartbeat : TunnellingSession × Expected Unit :=
  let failures :=
    if sess.heartbeatFailures < 0xFF then sess.heartbeatFailures + 1
    else sess.heartbeatFailures
  let counted := { sess with heartbeatFailures := failures }
  if sess.config.heartbeatFailureLimit = 0 ∨ failures ≥ sess.config.heartbeatFailureLimit then
    ({ counted with state := .closed }, refuse .heartbeatFailed)
  else (counted, refuse .connectionFailed)

def onConnectionstateResponse (resp : ControlResponseFrame) :
    TunnellingSession × Expected Unit :=
  if sess.state ≠ .connected then (sess, refuse .invalidConfiguration)
  else if resp.channelId.toUInt16 ≠ sess.channelId then (sess, refuse .sequenceError)
  else
    let answered := { sess with heartbeatOutstanding := false }
    if resp.status ≠ .noError then answered.failHeartbeat
    else ({ answered with heartbeatFailures := 0 }, .ok ())

def onConnectionstateTimeout : TunnellingSession × Expected Unit :=
  if sess.state ≠ .connected then (sess, refuse .invalidConfiguration)
  else sess.failHeartbeat

def duplicateIndication : Bool :=
  !sess.stream && sess.state == .connected &&
    req.channelId.toUInt16 == sess.channelId && sess.incomingSequenceValid &&
    req.sequenceNumber == sess.lastIncomingSequence

def outOfOrderIndication : Bool :=
  !sess.stream && sess.incomingSequenceValid &&
    req.sequenceNumber != sess.nextIncomingSequence

def onIndication : TunnellingSession × Expected Unit :=
  if sess.state ≠ .connected then (sess, refuse .invalidConfiguration)
  else if req.channelId.toUInt16 ≠ sess.channelId then (sess, refuse .sequenceError)
  else if req.cemiBytes = [] then (sess, refuse .malformedFrame)
  else if sess.duplicateIndication req ∨ sess.outOfOrderIndication req then
    (sess, refuse .sequenceError)
  else
    ({ sess with
        incomingSequenceValid := true
        lastIncomingSequence := req.sequenceNumber
        nextIncomingSequence := req.sequenceNumber + 1 }, .ok ())

def onConnectionstateRequest (req : ControlRequestFrame) :
    TunnellingSession × Expected Unit :=
  if sess.state ≠ .connected then (sess, refuse .invalidConfiguration)
  else if req.channelId.toUInt16 ≠ sess.channelId then (sess, refuse .sequenceError)
  else (sess, .ok ())

def onDisconnectRequest (req : ControlRequestFrame) :
    TunnellingSession × Expected Unit :=
  if sess.state ≠ .connected ∧ sess.state ≠ .closing then
    (sess, refuse .invalidConfiguration)
  else if req.channelId.toUInt16 ≠ sess.channelId then (sess, refuse .sequenceError)
  else ({ sess with state := .closing }, .ok ())

def onDisconnectResponse (resp : ControlResponseFrame) :
    TunnellingSession × Expected Unit :=
  if sess.state = .closed then (sess, refuse .shutdown)
  else if sess.state ≠ .closing then (sess, refuse .invalidConfiguration)
  else if resp.channelId.toUInt16 ≠ sess.channelId then (sess, refuse .sequenceError)
  else if resp.status ≠ .noError then (sess, refuse .connectionFailed)
  else (sess.shutdown, .ok ())

/-! ## Datagrams -/

/-- A frame is acted on only under the service type that carries it. -/
def underService (service : UInt16) (act : TunnellingSession × Expected Unit) :
    TunnellingSession × Expected Unit :=
  if val.serviceType ≠ service then (sess, refuse .invalidConfiguration) else act

/-- The answers a session takes; nothing for any other frame. -/
def onResponseDatagram : Option (TunnellingSession × Expected Unit) :=
  match val.payload with
  | .connectResponse resp =>
    some (sess.underService val connectResponseService
      (sess.onConnectResponse resp.channelId resp.status resp.assignedAddress))
  | .ipv6ConnectResponse resp =>
    some (sess.underService val connectResponseService
      (sess.onConnectResponse resp.channelId resp.status resp.assignedAddress))
  | .connectionstateResponse resp =>
    some (sess.underService val connectionstateResponseService
      (sess.onConnectionstateResponse resp))
  | .tunnellingAck ack =>
    some (sess.underService val tunnellingAckService (sess.onAckFrame ack))
  | .disconnectResponse resp =>
    some (sess.underService val disconnectResponseService (sess.onDisconnectResponse resp))
  | _ => none

/-- The requests a session takes; nothing for any other frame. -/
def onRequestDatagram : Option (TunnellingSession × Expected Unit) :=
  match val.payload with
  | .tunnellingRequest req =>
    some (sess.underService val tunnellingRequestService (sess.onIndication req))
  | .connectionstateRequest req =>
    some (sess.underService val connectionstateRequestService (sess.onConnectionstateRequest req))
  | .disconnectRequest req =>
    some (sess.underService val disconnectRequestService (sess.onDisconnectRequest req))
  | _ => none

def onDatagram : TunnellingSession × Expected Unit :=
  match sess.onResponseDatagram val with
  | some handled => handled
  | none =>
    match sess.onRequestDatagram val with
    | some handled => handled
    | none => (sess, refuse .unsupportedService)

def noteActivity : TunnellingSession :=
  if sess.state = .connected then { sess with lastActivityMs := nowMs } else sess

def dispatchSessionDatagram : TunnellingSession × Expected Unit :=
  match sess.onDatagram val with
  | (rejected, .error why) => (rejected, .error why)
  | (accepted, .ok _) => (accepted.noteActivity nowMs, .ok ())

/-- What must hold before a request of the peer is answered at all. -/
def answerable (req : Datagram) : Expected Unit :=
  match req.payload with
  | .tunnellingRequest tunnel =>
    if req.serviceType ≠ tunnellingRequestService then refuse .invalidConfiguration
    else if sess.state ≠ .connected then refuse .invalidConfiguration
    else if tunnel.channelId.toUInt16 ≠ sess.channelId then refuse .sequenceError
    else .ok ()
  | .connectionstateRequest heartbeat =>
    if req.serviceType ≠ connectionstateRequestService then refuse .invalidConfiguration
    else if sess.state ≠ .connected ∨ heartbeat.channelId.toUInt16 ≠ sess.channelId then
      refuse .sequenceError
    else .ok ()
  | .disconnectRequest disconnect =>
    if req.serviceType ≠ disconnectRequestService then refuse .invalidConfiguration
    else if (sess.state ≠ .connected ∧ sess.state ≠ .closing) ∨
        disconnect.channelId.toUInt16 ≠ sess.channelId then refuse .sequenceError
    else .ok ()
  | _ => .ok ()

/-- Encodes the answer to a request and then acts on the request. -/
def prepareResponseDatagram (req : Datagram) (status : UInt8) :
    TunnellingSession × Expected Octets :=
  match sess.answerable req with
  | .error why => (sess, .error why)
  | .ok _ =>
    match encodeResponseDatagram room req status with
    | .error why => (sess, .error why)
    | .ok pkt =>
      match sess.onDatagram req with
      | (rejected, .error why) => (rejected, .error why)
      | (accepted, .ok _) => (accepted, .ok pkt)

/-! ## Octets -/

/-- Acts on what `decoded` holds, and does nothing where there is nothing to act on. -/
def onDecoded {Frame Result : Type} (sess : TunnellingSession) (decoded : Expected Frame)
    (act : Frame → TunnellingSession × Expected Result) : TunnellingSession × Expected Result :=
  match decoded with
  | .error why => (sess, .error why)
  | .ok frame => act frame

def prepareResponsePacket (requestPacket : Octets) (status : UInt8) :
    TunnellingSession × Expected Octets :=
  sess.onDecoded (decodeDatagram requestPacket)
    (fun req => sess.prepareResponseDatagram room req status)

def onConnectResponsePacket : TunnellingSession × Expected Unit :=
  sess.onDecoded (decodeConnectResponsePacket pkt)
    (fun resp =>
      sess.onConnectResponse resp.channelId resp.status resp.assignedAddress)

def onConnectionstateResponsePacket : TunnellingSession × Expected Unit :=
  sess.onDecoded (decodeConnectionstateResponsePacket pkt) sess.onConnectionstateResponse

def onAckPacket : TunnellingSession × Expected Unit :=
  sess.onDecoded (decodeTunnellingAckPacket pkt) sess.onAckFrame

def onDisconnectResponsePacket : TunnellingSession × Expected Unit :=
  if sess.state = .closed then (sess, refuse .shutdown)
  else if sess.state ≠ .closing then (sess, refuse .invalidConfiguration)
  else sess.onDecoded (decodeDisconnectResponsePacket pkt) sess.onDisconnectResponse

def onDatagramPacket : TunnellingSession × Expected Unit :=
  sess.onDecoded (decodeDatagram pkt) sess.onDatagram

def dispatchSessionPacket : TunnellingSession × Expected Unit :=
  sess.onDecoded (decodeDatagram pkt)
    (fun val => sess.dispatchSessionDatagram val nowMs)

/-! ## Timeouts -/

def onTimeout : TunnellingSession × Expected Unit :=
  if sess.pending = false then (sess, refuse .invalidConfiguration)
  else
    let retried := { sess with retries := sess.retries + 1 }
    if retried.retries.toNat > sess.config.maxRetries.toNat then
      ({ retried with pending := false, requestPacket := [], state := .closed }, refuse .timeout)
    else
      ({ retried with
          lastDeadlineMs := sess.lastDeadlineMs + sess.config.ackTimeoutMs
          state := .waitingAck }, .ok ())

def onConnectTimeout : TunnellingSession × Expected Unit :=
  if sess.state ≠ .connecting then (sess, refuse .invalidConfiguration)
  else
    let retried := { sess with connectRetries := sess.connectRetries + 1 }
    if sess.stream ∨ retried.connectRetries > sess.config.maxRetries then
      ({ retried with state := .closed, connectPacket := [] }, refuse .timeout)
    else
      ({ retried with
          lastDeadlineMs := sess.lastDeadlineMs + sess.config.connectTimeoutMs }, .ok ())

def onDisconnectTimeout : TunnellingSession × Expected Unit :=
  if sess.state ≠ .closing then (sess, refuse .invalidConfiguration)
  else
    let retried := { sess with disconnectRetries := sess.disconnectRetries + 1 }
    if sess.stream ∨ retried.disconnectRetries > sess.config.maxRetries then
      ({ retried with state := .closed }, refuse .timeout)
    else (retried, .ok ())

def inactive : Bool :=
  sess.state == .connected &&
    (nowMs - sess.lastActivityMs).toInt32 ≥ sess.config.inactivityTimeoutMs.toInt32

def checkInactivity : TunnellingSession × Expected Unit :=
  if sess.inactive nowMs then
    ({ sess with state := .closed, pending := false }, refuse .inactivityTimeout)
  else (sess, .ok ())

def noteHeartbeatSent : TunnellingSession :=
  if sess.heartbeatOutstanding then sess
  else { sess with heartbeatOutstanding := true, heartbeatDeadlineMs := deadlineMs }

def checkHeartbeat : TunnellingSession × Expected Unit :=
  if sess.heartbeatOutstanding = false ∨ reachedMs nowMs sess.heartbeatDeadlineMs = false then
    (sess, .ok ())
  else { sess with heartbeatOutstanding := false }.onConnectionstateTimeout

end TunnellingSession

end KmxAio.Knx
