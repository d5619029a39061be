import KmxAio.Lib.Run
import KmxAio.Knx.TunnellingHeartbeat
import KmxAio.Knx.TunnellingResponses

/-!
# What a session can do

Every public operation that may change a tunnelling session, and every change one
of them can make. Each change says what has to hold before it, and what it tells
the session of the heartbeats, so that what holds along a run is read off the
changes and not off the operations.
-/

namespace KmxAio.Knx

open Lib.Run Lib.Wire Knx.Frame Connection

/-- A call of a public operation that may change the session. -/
inductive SessionOperation where
  | reset
  | shutdown
  | useStreamRules (stream : Bool)
  | prepareConnectRequestPacket (capacity : Nat) (request : ConnectRequestFrame)
  | startConnect (capacity : Nat) (request : ConnectRequestFrame) (deadlineMs : UInt32)
  | startConnectRaw (packet : Octets) (deadlineMs : UInt32)
  | onConnectTimeout
  | onConnectResponse (channelId : UInt8) (status : ConnectStatus)
      (assignedAddress : IndividualAddress)
  | onConnectResponsePacket (packet : Octets)
  | beginRequest (channelId sequence : UInt16) (deadlineMs : UInt32)
  | beginNextRequest (channelId : UInt8) (deadlineMs : UInt32)
  | prepareRequestPacket (capacity : Nat) (channelId : UInt8) (cemiBytes : Octets)
      (deadlineMs : UInt32)
  | onAck (channelId sequence : UInt16)
  | onAckFrame (ack : TunnellingAckFrame)
  | onAckPacket (packet : Octets)
  | onTimeout
  | onConnectionstateResponse (response : ControlResponseFrame)
  | onConnectionstateResponsePacket (packet : Octets)
  | onConnectionstateTimeout
  | noteHeartbeatSent (deadlineMs : UInt32)
  | checkHeartbeat (nowMs : UInt32)
  | observeActivity (nowMs : UInt32)
  | checkInactivity (nowMs : UInt32)
  | prepareDisconnectRequestPacket (capacity : Nat)
  | onDisconnectTimeout
  | onDisconnectResponsePacket (packet : Octets)
  | prepareResponseDatagram (capacity : Nat) (request : Datagram) (status : UInt8)
  | prepareResponsePacket (capacity : Nat) (requestPacket : Octets) (status : UInt8)
  | onDatagram (value : Datagram)
  | onDatagramPacket (packet : Octets)
  | dispatchSessionDatagram (value : Datagram) (nowMs : UInt32)
  | dispatchSessionPacket (packet : Octets) (nowMs : UInt32)
  deriving DecidableEq

namespace TunnellingSession

def operate (sess : TunnellingSession) : SessionOperation → TunnellingSession
  | .reset => sess.reset
  | .shutdown => sess.shutdown
  | .useStreamRules stream => sess.useStreamRules stream
  | .prepareConnectRequestPacket room req =>
    (sess.prepareConnectRequestPacket room req).1
  | .startConnect room req deadlineMs =>
    (sess.startConnect room req deadlineMs).1
  | .startConnectRaw pkt deadlineMs => (sess.startConnectRaw pkt deadlineMs).1
  | .onConnectTimeout => sess.onConnectTimeout.1
  | .onConnectResponse chan status assignedAddress =>
    (sess.onConnectResponse chan status assignedAddress).1
  | .onConnectResponsePacket pkt => (sess.onConnectResponsePacket pkt).1
  | .beginRequest chan seq deadlineMs =>
    (sess.beginRequest chan seq deadlineMs).1
  | .beginNextRequest chan deadlineMs => (sess.beginNextRequest chan deadlineMs).1
  | .prepareRequestPacket room chan cemiBytes deadlineMs =>
    (sess.prepareRequestPacket room chan cemiBytes deadlineMs).1
  | .onAck chan seq => (sess.onAck chan seq).1
  | .onAckFrame ack => (sess.onAckFrame ack).1
  | .onAckPacket pkt => (sess.onAckPacket pkt).1
  | .onTimeout => sess.onTimeout.1
  | .onConnectionstateResponse resp => (sess.onConnectionstateResponse resp).1
  | .onConnectionstateResponsePacket pkt => (sess.onConnectionstateResponsePacket pkt).1
  | .onConnectionstateTimeout => sess.onConnectionstateTimeout.1
  | .noteHeartbeatSent deadlineMs => sess.noteHeartbeatSent deadlineMs
  | .checkHeartbeat nowMs => (sess.checkHeartbeat nowMs).1
  | .observeActivity nowMs => sess.noteActivity nowMs
  | .checkInactivity nowMs => (sess.checkInactivity nowMs).1
  | .prepareDisconnectRequestPacket room => (sess.prepareDisconnectRequestPacket room).1
  | .onDisconnectTimeout => sess.onDisconnectTimeout.1
  | .onDisconnectResponsePacket pkt => (sess.onDisconnectResponsePacket pkt).1
  | .prepareResponseDatagram room req status =>
    (sess.prepareResponseDatagram room req status).1
  | .prepareResponsePacket room requestPacket status =>
    (sess.prepareResponsePacket room requestPacket status).1
  | .onDatagram val => (sess.onDatagram val).1
  | .onDatagramPacket pkt => (sess.onDatagramPacket pkt).1
  | .dispatchSessionDatagram val nowMs => (sess.dispatchSessionDatagram val nowMs).1
  | .dispatchSessionPacket pkt nowMs => (sess.dispatchSessionPacket pkt nowMs).1

end TunnellingSession

/-! ## What an operation tells of the heartbeats -/

def Datagram.heartbeatAnswer (val : Datagram) : Option ControlResponseFrame :=
  match val.payload with
  | .connectionstateResponse resp =>
    if val.serviceType = connectionstateResponseService then some resp else none
  | _ => none

def SessionOperation.heartbeatAnswer : SessionOperation → Option ControlResponseFrame
  | .onConnectionstateResponse resp => some resp
  | .onConnectionstateResponsePacket pkt => (decodeConnectionstateResponsePacket pkt).toOption
  | .onDatagram val => val.heartbeatAnswer
  | .onDatagramPacket pkt => (decodeDatagram pkt).toOption.bind Datagram.heartbeatAnswer
  | .dispatchSessionDatagram val _ => val.heartbeatAnswer
  | .dispatchSessionPacket pkt _ => (decodeDatagram pkt).toOption.bind Datagram.heartbeatAnswer
  | _ => none

/-- What the session learns of its heartbeats: that one was sent, that it was answered, that it
failed by a negative answer or past its deadline, or that the client saw it time out. -/
inductive HeartbeatNews where
  | nothing
  | sent
  | answered
  | failed
  | timedOut
  deriving DecidableEq

namespace TunnellingSession

variable (sess : TunnellingSession)

/-- An answer counts for the session when it names its channel. -/
def newsOf : Option ControlResponseFrame → HeartbeatNews
  | none => .nothing
  | some resp =>
    if resp.channelId.toUInt16 ≠ sess.channelId then .nothing
    else if resp.status = .noError then .answered
    else .failed

/-- A heartbeat fails by a negative answer, by a timeout that is reported, and by a check that finds
it outstanding past its deadline. -/
def news : SessionOperation → HeartbeatNews
  | .noteHeartbeatSent _ => .sent
  | .onConnectionstateTimeout => .timedOut
  | .checkHeartbeat nowMs =>
    if sess.heartbeatOutstanding = true ∧ reachedMs nowMs sess.heartbeatDeadlineMs = true then
      .failed
    else .nothing
  | op => sess.newsOf op.heartbeatAnswer

/-! ## What an operation notes of the traffic -/

/-- A datagram that was accepted is activity when it leaves the session connected. -/
def notedBy (nowMs : UInt32) (handled : TunnellingSession × Expected Unit) : Option UInt32 :=
  if handled.2.isOk ∧ handled.1.state = .connected then some nowMs else none

/-- The time of the activity an operation notes: of traffic that is reported to a connected session,
and of a datagram that is dispatched with its time. -/
def noted : SessionOperation → Option UInt32
  | .observeActivity nowMs => if sess.state = .connected then some nowMs else none
  | .dispatchSessionDatagram val nowMs => notedBy nowMs (sess.onDatagram val)
  | .dispatchSessionPacket pkt nowMs => notedBy nowMs (sess.onDatagramPacket pkt)
  | _ => none

/-! ## The changes -/

def EncodedRequest (chan seq : UInt16) (pkt : Octets) : Prop :=
  ∃ room cemiBytes, encodeTunnellingRequestPacket room chan.toUInt8 seq.toUInt8 cemiBytes = .ok pkt

/-- One change of a session short of a reset, the activity that was noted with it, and what the
session has learned of its heartbeats. -/
inductive Transition (before : TunnellingSession) :
    Option UInt32 → HeartbeatNews → TunnellingSession → Prop where
  | kept : Transition before none .nothing before
  | shutdown : Transition before none .nothing before.shutdown
  | ruled (stream : Bool) : Transition before none .nothing { before with stream := stream }
  | prepared (pkt : Octets) (idle : before.state = .idle) :
      Transition before none .nothing { before with connectPacket := pkt }
  | connecting (pkt : Octets) (endpoint : Hpai) (deadlineMs : UInt32)
      (idle : before.state = .idle) :
      Transition before none .nothing
        { before with
          connectPacket := pkt
          controlEndpoint := endpoint
          state := .connecting
          connectRetries := 0
          lastDeadlineMs := deadlineMs }
  | connectRetried (connecting : before.state = .connecting) (deadlineMs : UInt32) :
      Transition before none .nothing
        { before with connectRetries := before.connectRetries + 1, lastDeadlineMs := deadlineMs }
  | connectGivenUp (connecting : before.state = .connecting) :
      Transition before none .nothing
        { before with
          connectRetries := before.connectRetries + 1
          state := .closed
          connectPacket := [] }
  | abandoned (connecting : before.state = .connecting) :
      Transition before none .nothing
        { before with state := .idle, connectPacket := [], connectRetries := 0 }
  | established (chan : UInt8) (assignedAddress : IndividualAddress)
      (waiting : before.state = .idle ∨ before.state = .connecting) (named : chan ≠ 0) :
      Transition before none .nothing
        { before with
          channelId := chan.toUInt16
          assignedAddress := assignedAddress
          state := .connected
          pending := false
          retries := 0
          connectRetries := 0
          disconnectRetries := 0
          connectPacket := []
          heartbeatFailures := 0
          lastActivityMs := 0
          incomingSequenceValid := false }
  | numbered (chan seq : UInt16) (stream : before.stream = true) (ready : before.Ready)
      (valid : ValidNumbers chan seq) :
      Transition before none .nothing
        { before with
          channelId := chan
          expectedSequence := seq
          nextSequence := seq.toUInt8 + 1 }
  | requested (chan seq : UInt16) (pkt : Octets) (deadlineMs : UInt32)
      (datagrams : before.stream = false) (ready : before.Ready)
      (valid : ValidNumbers chan seq)
      (retained : pkt = before.requestPacket ∨ EncodedRequest chan seq pkt) :
      Transition before none .nothing
        { before with
          requestPacket := pkt
          channelId := chan
          expectedSequence := seq
          nextSequence := seq.toUInt8 + 1
          pending := true
          state := .waitingAck
          lastDeadlineMs := deadlineMs }
  | acknowledged (pending : before.pending = true) :
      Transition before none .nothing
        { before with pending := false, requestPacket := [], state := .connected, retries := 0 }
  | retried (pending : before.pending = true) (deadlineMs : UInt32)
      (within : (before.retries + 1).toNat ≤ before.config.maxRetries.toNat) :
      Transition before none .nothing
        { before with
          retries := before.retries + 1
          lastDeadlineMs := deadlineMs
          state := .waitingAck }
  | givenUp (pending : before.pending = true) :
      Transition before none .nothing
        { before with
          retries := before.retries + 1
          pending := false
          requestPacket := []
          state := .closed }
  | confirmed (connected : before.state = .connected) :
      Transition before none .answered
        { before with heartbeatOutstanding := false, heartbeatFailures := 0 }
  | failed (connected : before.state = .connected) :
      Transition before none .failed { before with heartbeatOutstanding := false }.failHeartbeat.1
  | timedOut (connected : before.state = .connected) :
      Transition before none .timedOut before.failHeartbeat.1
  | unheard (news : HeartbeatNews) (outstanding : Bool) (elsewhere : before.state ≠ .connected)
      (flag : outstanding = before.heartbeatOutstanding ∨ outstanding = false) :
      Transition before none news { before with heartbeatOutstanding := outstanding }
  | sentBefore (outstanding : before.heartbeatOutstanding = true) :
      Transition before none .sent before
  | sent (deadlineMs : UInt32) (clear : before.heartbeatOutstanding = false) :
      Transition before none .sent
        { before with heartbeatOutstanding := true, heartbeatDeadlineMs := deadlineMs }
  | indicated (seq : UInt8) (connected : before.state = .connected) :
      Transition before none .nothing
        { before with
          incomingSequenceValid := true
          lastIncomingSequence := seq
          nextIncomingSequence := seq + 1 }
  | closing (disconnectRetries : UInt16)
      (established : before.state = .connected ∨ before.state = .closing) :
      Transition before none .nothing
        { before with state := .closing, disconnectRetries := disconnectRetries }
  | disconnectGivenUp (closing : before.state = .closing) :
      Transition before none .nothing
        { before with
          disconnectRetries := before.disconnectRetries + 1
          state := .closed }
  | inactive (nowMs : UInt32) (silent : before.inactive nowMs = true) :
      Transition before none .nothing { before with state := .closed, pending := false }
  | active {news : HeartbeatNews} {after : TunnellingSession} (nowMs : UInt32)
      (change : Transition before none news after) :
      Transition before (some nowMs) news { after with lastActivityMs := nowMs }

variable {sess}

variable (room : Nat) (pkt : Octets) (chan : UInt8) (deadlineMs : UInt32)

theorem prepareConnectRequestPacket_transition (req : ConnectRequestFrame) :
    sess.Transition none .nothing (sess.prepareConnectRequestPacket room req).1 := by
  unfold prepareConnectRequestPacket
  by_cases idle : sess.state = .idle
  · rw [if_neg (not_not.mpr idle)]
    cases encodeConnectRequestPacket room req with
    | error why => exact .kept
    | ok pkt => exact .prepared pkt idle
  · rw [if_pos idle]
    exact .kept

theorem startConnect_transition (req : ConnectRequestFrame) (deadlineMs : UInt32) :
    sess.Transition none .nothing (sess.startConnect room req deadlineMs).1 := by
  unfold startConnect prepareConnectRequestPacket
  by_cases idle : sess.state = .idle
  · rw [if_neg (not_not.mpr idle)]
    cases encodeConnectRequestPacket room req with
    | error why => exact .kept
    | ok pkt => exact .connecting pkt req.controlEndpoint deadlineMs idle
  · rw [if_pos idle]
    exact .kept

theorem startConnectRaw_transition :
    sess.Transition none .nothing (sess.startConnectRaw pkt deadlineMs).1 := by
  unfold startConnectRaw
  split_ifs with started length
  · exact .kept
  · exact .kept
  · exact .connecting pkt Hpai.default deadlineMs (not_not.mp started)

theorem onConnectTimeout_transition :
    sess.Transition none .nothing sess.onConnectTimeout.1 := by
  unfold onConnectTimeout
  dsimp only
  split_ifs with elsewhere spent
  · exact .kept
  · exact .connectGivenUp (not_not.mp elsewhere)
  · exact .connectRetried (not_not.mp elsewhere) _

theorem abandonConnect_transition : sess.Transition none .nothing sess.abandonConnect := by
  unfold abandonConnect
  split_ifs with elsewhere
  · exact .kept
  · exact .abandoned (not_not.mp elsewhere)

theorem onConnectResponse_transition (status : ConnectStatus)
    (assignedAddress : IndividualAddress) :
    sess.Transition none .nothing (sess.onConnectResponse chan status assignedAddress).1 := by
  unfold onConnectResponse
  split_ifs with elsewhere refused unnamed
  · exact .kept
  · exact abandonConnect_transition
  · exact abandonConnect_transition
  · exact .established chan assignedAddress (by tauto) unnamed

/-! ### Requests -/

theorem begun_transition {chan seq : UInt16} {pkt : Octets} (ready : sess.Ready)
    (valid : ValidNumbers chan seq)
    (retained : pkt = sess.requestPacket ∨ EncodedRequest chan seq pkt) (deadlineMs : UInt32) :
    sess.Transition none .nothing (sess.begun chan seq pkt deadlineMs) := by
  unfold begun
  split_ifs with stream
  · exact .numbered chan seq stream ready valid
  · exact .requested chan seq pkt deadlineMs (by simpa using stream) ready valid retained

theorem beginRequest_transition (chan seq : UInt16) (deadlineMs : UInt32) :
    sess.Transition none .nothing (sess.beginRequest chan seq deadlineMs).1 := by
  obtain ⟨why, refused⟩ | ⟨ready, valid⟩ := sess.beginRequest_cases chan seq deadlineMs
  · rw [refused]
    exact .kept
  · rw [beginRequest_begun ready valid]
    exact begun_transition ready valid (.inl rfl) deadlineMs

theorem beginNextRequest_fst :
    (sess.beginNextRequest chan deadlineMs).1 =
      (sess.beginRequest chan.toUInt16 sess.nextSequence.toUInt16 deadlineMs).1 := by
  unfold beginNextRequest
  obtain ⟨after, result⟩ :=
    sess.beginRequest chan.toUInt16 sess.nextSequence.toUInt16 deadlineMs
  cases result <;> rfl

theorem prepareRequestPacket_transition (cemiBytes : Octets) (deadlineMs : UInt32) :
    sess.Transition none .nothing
      (sess.prepareRequestPacket room chan cemiBytes deadlineMs).1 := by
  obtain ⟨why, refused⟩ | ⟨pkt, ready, named, encoded, begins⟩ :=
    sess.prepareRequestPacket_begun room chan cemiBytes deadlineMs
  · rw [refused]
    exact .kept
  · rw [begins]
    exact begun_transition ready (.of_octets named _)
      (.inr ⟨room, cemiBytes, by simpa using encoded⟩) deadlineMs

theorem onAck_transition (chan seq : UInt16) :
    sess.Transition none .nothing (sess.onAck chan seq).1 := by
  unfold onAck
  split_ifs with free other
  · exact .kept
  · exact .kept
  obtain ⟨rfl, rfl⟩ : sess.channelId = chan ∧ sess.expectedSequence = seq := by
    simpa only [not_or, not_not] using other
  exact .acknowledged (by simpa using free)

theorem onAckFrame_transition (ack : TunnellingAckFrame) :
    sess.Transition none .nothing (sess.onAckFrame ack).1 := by
  unfold onAckFrame
  split_ifs with refused
  · exact .kept
  · exact onAck_transition _ _

theorem onTimeout_transition : sess.Transition none .nothing sess.onTimeout.1 := by
  rcases sess.onTimeout_cases with ⟨-, kept⟩ | ⟨pending, gaveUp | ⟨within, retried⟩⟩
  · rw [kept]
    exact .kept
  · rw [gaveUp]
    exact .givenUp pending
  · rw [retried]
    exact .retried pending _ within

/-! ### Heartbeats -/

theorem onConnectionstateResponse_transition (resp : ControlResponseFrame) :
    sess.Transition none (sess.newsOf (some resp))
      (sess.onConnectionstateResponse resp).1 := by
  unfold onConnectionstateResponse
  by_cases connected : sess.state = .connected
  · rw [if_neg (not_not.mpr connected)]
    dsimp only [newsOf]
    split
    · exact .kept
    · by_cases positive : resp.status = .noError
      · simp only [positive, if_true, ne_eq, not_true_eq_false, if_false]
        exact .confirmed connected
      · simp only [positive, if_false, ne_eq, not_false_eq_true, if_true]
        exact .failed connected
  · rw [if_pos connected]
    exact .unheard _ sess.heartbeatOutstanding connected (.inl rfl)

theorem onConnectionstateTimeout_transition :
    sess.Transition none .timedOut sess.onConnectionstateTimeout.1 := by
  unfold onConnectionstateTimeout
  split_ifs with elsewhere
  · exact .unheard _ sess.heartbeatOutstanding elsewhere (.inl rfl)
  · exact .timedOut (not_not.mp elsewhere)

variable (nowMs : UInt32) {val : Datagram}

theorem checkHeartbeat_transition : sess.Transition none (sess.news (.checkHeartbeat nowMs))
      (sess.checkHeartbeat nowMs).1 := by
  unfold checkHeartbeat
  dsimp only [news]
  by_cases early : sess.heartbeatOutstanding = false ∨
      reachedMs nowMs sess.heartbeatDeadlineMs = false
  · have undue : ¬ (sess.heartbeatOutstanding = true ∧
        reachedMs nowMs sess.heartbeatDeadlineMs = true) := by
      rintro ⟨outstanding, reached⟩
      simp [outstanding, reached] at early
    rw [if_pos early, if_neg undue]
    exact .kept
  · obtain ⟨outstanding, reached⟩ := by simpa only [not_or, Bool.not_eq_false] using early
    rw [if_neg early, if_pos ⟨outstanding, reached⟩]
    unfold onConnectionstateTimeout
    split_ifs with elsewhere
    · exact .unheard _ false elsewhere (.inr rfl)
    · exact .failed (not_not.mp elsewhere)

theorem noteHeartbeatSent_transition :
    sess.Transition none .sent (sess.noteHeartbeatSent deadlineMs) := by
  unfold noteHeartbeatSent
  split_ifs with outstanding
  · exact .sentBefore outstanding
  · exact .sent deadlineMs (by simpa using outstanding)

/-! ### Indications, activity and the end of a session -/

theorem onDisconnectResponse_transition (resp : ControlResponseFrame) :
    sess.Transition none .nothing (sess.onDisconnectResponse resp).1 := by
  unfold onDisconnectResponse
  split_ifs with closed elsewhere other refused
  · exact .kept
  · exact .kept
  · exact .kept
  · exact .kept
  · exact .shutdown

theorem prepareDisconnectRequestPacket_transition :
    sess.Transition none .nothing (sess.prepareDisconnectRequestPacket room).1 := by
  unfold prepareDisconnectRequestPacket
  split_ifs with closed elsewhere
  · exact .kept
  · exact .kept
  cases encodeDisconnectRequestPacket room
      ⟨sess.channelId.toUInt8, sess.controlEndpoint⟩ with
  | error why => exact .kept
  | ok pkt => exact .closing 0 (.inl (not_not.mp elsewhere))

theorem onDisconnectTimeout_transition :
    sess.Transition none .nothing sess.onDisconnectTimeout.1 := by
  unfold onDisconnectTimeout
  dsimp only
  split_ifs with elsewhere spent
  · exact .kept
  · exact .disconnectGivenUp (not_not.mp elsewhere)
  have closing := not_not.mp elsewhere
  have change : sess.Transition none .nothing _ :=
    .closing (sess.disconnectRetries + 1) (.inr closing)
  simpa only [closing] using change

theorem noteActivity_transition {news : HeartbeatNews} {after : TunnellingSession}
    (change : sess.Transition none news after) (nowMs : UInt32) :
    sess.Transition (if after.state = .connected then some nowMs else none) news
      (after.noteActivity nowMs) := by
  unfold noteActivity
  split_ifs with connected
  · exact .active nowMs change
  · exact change

theorem checkInactivity_transition :
    sess.Transition none .nothing (sess.checkInactivity nowMs).1 := by
  unfold checkInactivity
  split_ifs with silent
  · exact .inactive nowMs silent
  · exact .kept

/-! ### Datagrams -/

theorem underService_transition {service : UInt16}
    {act : TunnellingSession × Expected Unit} (change : sess.Transition none .nothing act.1) :
    sess.Transition none .nothing (sess.underService val service act).1 := by
  unfold underService
  split_ifs with other
  · exact .kept
  · exact change

theorem onDatagram_transition (sess : TunnellingSession) (val : Datagram) :
    sess.Transition none (sess.newsOf val.heartbeatAnswer) (sess.onDatagram val).1 := by
  obtain ⟨service, payload⟩ := val
  cases payload with
  | connectResponse resp | ipv6ConnectResponse resp =>
    exact underService_transition (onConnectResponse_transition _ _ _)
  | connectionstateResponse resp =>
    change sess.Transition none _ (underService _ _ connectionstateResponseService _).1
    unfold underService Datagram.heartbeatAnswer
    dsimp only
    by_cases carried : service = connectionstateResponseService
    · rw [if_pos carried, if_neg (not_not.mpr carried)]
      exact onConnectionstateResponse_transition resp
    · rw [if_neg carried, if_pos carried]
      exact .kept
  | tunnellingAck ack => exact underService_transition (onAckFrame_transition ack)
  | disconnectResponse resp =>
    exact underService_transition (onDisconnectResponse_transition resp)
  | tunnellingRequest req =>
    refine underService_transition ?_
    unfold onIndication
    split_ifs with elsewhere other empty repeated
    · exact .kept
    · exact .kept
    · exact .kept
    · exact .kept
    · exact .indicated req.sequenceNumber (not_not.mp elsewhere)
  | connectionstateRequest req =>
    refine underService_transition ?_
    rw [onConnectionstateRequest_unchanged]
    exact .kept
  | disconnectRequest req =>
    refine underService_transition ?_
    unfold onDisconnectRequest
    split_ifs with elsewhere other
    · exact .kept
    · exact .kept
    · exact .closing sess.disconnectRetries (by tauto)
  | _ => exact .kept

theorem dispatchSessionDatagram_transition (val : Datagram) (nowMs : UInt32) :
    sess.Transition (notedBy nowMs (sess.onDatagram val))
      (sess.newsOf val.heartbeatAnswer) (sess.dispatchSessionDatagram val nowMs).1 := by
  have change := sess.onDatagram_transition val
  unfold dispatchSessionDatagram notedBy
  cases handled : sess.onDatagram val with
  | mk after result =>
    rw [handled] at change
    cases result with
    | error why => simpa [Except.isOk, Except.toBool] using change
    | ok _ => simpa [Except.isOk, Except.toBool] using noteActivity_transition change nowMs

theorem prepareResponseDatagram_transition (req : Datagram) (status : UInt8) :
    sess.Transition none .nothing (sess.prepareResponseDatagram room req status).1 := by
  obtain ⟨why, refused⟩ | ⟨unanswering, pkt, acted⟩ :=
    sess.prepareResponseDatagram_cases room req status
  · rw [refused]
    exact .kept
  · rw [acted]
    have change := sess.onDatagram_transition req
    have request : req.heartbeatAnswer = none := by
      obtain ⟨service, payload⟩ := req
      cases payload with
      | connectionstateResponse resp => cases unanswering
      | _ => rfl
    rw [request] at change
    exact change

theorem onDecoded_transition {Frame Result : Type} {decoded : Expected Frame}
    {act : Frame → TunnellingSession × Expected Result}
    {answer : Frame → Option ControlResponseFrame}
    (change : ∀ frame, sess.Transition none (sess.newsOf (answer frame)) (act frame).1) :
    sess.Transition none (sess.newsOf (decoded.toOption.bind answer))
      (sess.onDecoded decoded act).1 := by
  cases decoded with
  | error why => exact .kept
  | ok frame => exact change frame

theorem onDecoded_quiet {Frame Result : Type} {decoded : Expected Frame}
    {act : Frame → TunnellingSession × Expected Result}
    (change : ∀ frame, sess.Transition none .nothing (act frame).1) :
    sess.Transition none .nothing (sess.onDecoded decoded act).1 := by
  cases decoded with
  | error why => exact .kept
  | ok frame => exact change frame

theorem onConnectionstateResponsePacket_transition :
    sess.Transition none (sess.newsOf (decodeConnectionstateResponsePacket pkt).toOption)
      (sess.onConnectionstateResponsePacket pkt).1 := by
  unfold onConnectionstateResponsePacket
  cases decodeConnectionstateResponsePacket pkt with
  | error why => exact .kept
  | ok resp => exact onConnectionstateResponse_transition resp

theorem onDisconnectResponsePacket_transition :
    sess.Transition none .nothing (sess.onDisconnectResponsePacket pkt).1 := by
  unfold onDisconnectResponsePacket
  split_ifs with closed elsewhere
  · exact .kept
  · exact .kept
  · exact onDecoded_quiet onDisconnectResponse_transition

theorem dispatchSessionPacket_transition :
    sess.Transition (notedBy nowMs (sess.onDatagramPacket pkt))
      (sess.newsOf ((decodeDatagram pkt).toOption.bind Datagram.heartbeatAnswer))
      (sess.dispatchSessionPacket pkt nowMs).1 := by
  unfold onDatagramPacket dispatchSessionPacket
  cases decodeDatagram pkt with
  | error why => exact .kept
  | ok val => exact dispatchSessionDatagram_transition val nowMs

/-- Everything an operation other than a reset can do. -/
theorem operate_transition {op : SessionOperation} (other : op ≠ .reset) :
    sess.Transition (sess.noted op) (sess.news op) (sess.operate op) := by
  cases op with
  | reset => exact absurd rfl other
  | shutdown => exact .shutdown
  | useStreamRules stream => exact .ruled stream
  | prepareConnectRequestPacket room req =>
    exact prepareConnectRequestPacket_transition room req
  | startConnect room req deadlineMs =>
    exact startConnect_transition room req deadlineMs
  | startConnectRaw pkt deadlineMs => exact startConnectRaw_transition pkt deadlineMs
  | onConnectTimeout => exact onConnectTimeout_transition
  | onConnectResponse chan status assignedAddress =>
    exact onConnectResponse_transition chan status assignedAddress
  | onConnectResponsePacket pkt =>
    exact onDecoded_quiet (fun _ => onConnectResponse_transition _ _ _)
  | beginRequest chan seq deadlineMs =>
    exact beginRequest_transition chan seq deadlineMs
  | beginNextRequest chan deadlineMs =>
    dsimp only [operate]
    rw [beginNextRequest_fst]
    exact beginRequest_transition _ _ deadlineMs
  | prepareRequestPacket room chan cemiBytes deadlineMs =>
    exact prepareRequestPacket_transition room chan cemiBytes deadlineMs
  | onAck chan seq => exact onAck_transition chan seq
  | onAckFrame ack => exact onAckFrame_transition ack
  | onAckPacket pkt => exact onDecoded_quiet onAckFrame_transition
  | onTimeout => exact onTimeout_transition
  | onConnectionstateResponse resp => exact onConnectionstateResponse_transition resp
  | onConnectionstateResponsePacket pkt =>
    exact onConnectionstateResponsePacket_transition pkt
  | onConnectionstateTimeout => exact onConnectionstateTimeout_transition
  | noteHeartbeatSent deadlineMs => exact noteHeartbeatSent_transition deadlineMs
  | checkHeartbeat nowMs => exact checkHeartbeat_transition nowMs
  | observeActivity nowMs => exact noteActivity_transition .kept nowMs
  | checkInactivity nowMs => exact checkInactivity_transition nowMs
  | prepareDisconnectRequestPacket room =>
    exact prepareDisconnectRequestPacket_transition room
  | onDisconnectTimeout => exact onDisconnectTimeout_transition
  | onDisconnectResponsePacket pkt => exact onDisconnectResponsePacket_transition pkt
  | prepareResponseDatagram room req status =>
    exact prepareResponseDatagram_transition room req status
  | prepareResponsePacket room requestPacket status =>
    exact onDecoded_quiet
      (fun req => prepareResponseDatagram_transition room req status)
  | onDatagram val => exact sess.onDatagram_transition val
  | onDatagramPacket pkt => exact onDecoded_transition sess.onDatagram_transition
  | dispatchSessionDatagram val nowMs => exact dispatchSessionDatagram_transition val nowMs
  | dispatchSessionPacket pkt nowMs => exact dispatchSessionPacket_transition pkt nowMs

end TunnellingSession

end KmxAio.Knx
