import KmxAio.Lib.WrappingClock
import KmxAio.Knx.TunnellingClient
import KmxAio.Knx.DataSecure.Context
import KmxAio.Knx.Secure.RoutingTimerState

/-!
# The routing client

A routing client puts cEMI messages on a multicast group and takes what arrives
there. It holds back while a router asked it to, drops its own datagrams when the
group reflects them, applies Data Secure when it has a context, and wraps
everything when it is secure. Clocks, entropy, the crypto backend and the
transport are outside: what they answer during a call is the call's input.
-/

namespace KmxAio.Knx.Routing

open Lib Lib.Wire Knx.Frame Cemi Secure
open KmxAio.Knx.DataSecure (Context SequenceSource)

def defaultGroup : OctetArray 4 := ⟨[224, 0, 23, 12], rfl⟩

structure MulticastConfiguration where
  group : OctetArray 4 := defaultGroup
  port : UInt16 := 3671
  deriving DecidableEq

def validate (val : MulticastConfiguration) : Expected Unit :=
  if val.port = 0 then refuse .invalidConfiguration
  else if val.group.head < 224 ∨ val.group.head > 239 then refuse .invalidConfiguration
  else .ok ()

structure SecureConfiguration where
  backboneKey : SecretKey
  latencyToleranceMs : UInt16 := 1000
  serialNumber : SerialNumber
  duplicateCacheEntries : UInt16 := 256

/-- What a secure client holds beyond a plain one. The last two fields are what readers without the
lock may see. -/
structure SecureState where
  configuration : SecureConfiguration
  timer : RoutingTimerState
  synchronisationDue : Bool := false
  nextDeadlineMs : UInt64 := neverMs
  synchronised : Bool := false

def SecureState.make (config : SecureConfiguration) : SecureState where
  configuration := config
  timer := RoutingTimerState.make config.latencyToleranceMs config.serialNumber
    config.duplicateCacheEntries

def SecureState.publishState (secure : SecureState) : SecureState :=
  { secure with
    nextDeadlineMs := if secure.synchronisationDue then 0 else secure.timer.nextDeadlineMs
    synchronised := secure.timer.synchronised }

structure Counters where
  busyMessages : Nat := 0
  lostMessages : Nat := 0
  reflectedMessages : Nat := 0
  busyBackoffMs : UInt32 := 0
  deriving DecidableEq

def reflectionHistorySize : Nat := 4

structure RoutingClient where
  configuration : MulticastConfiguration := {}
  started : Bool := false
  counters : Counters := {}
  busyUntilMs : UInt32 := 0
  recentSentPackets : RingBuffer Octets := RingBuffer.empty reflectionHistorySize (by decide)
  secure : Option SecureState := none
  dataSecure : Option Context := none

/-- What is outside the client during one call: the millisecond clock and the secure one, the crypto
backend, the sequence store, the tag and the delays drawn, and what the transport returned. -/
structure Surroundings where
  trueMs : Nat
  secureMs : UInt64
  backend : CryptoBackend
  sequences : SequenceSource := {}
  tag : Expected MessageTag := .ok (zeroArray 2)
  drawn : Drawn := {}
  sent : Expected Nat := .ok 0

/-- The clock a back-off is measured with counts in 32 bits. -/
def nowMs (trueMs : Nat) : UInt32 := WrappingClock.shown trueMs

inductive RoutingEvent where
  | indication (value : Indication)
  | lostMessage (value : LostMessage)
  | busy (value : Busy)
  deriving DecidableEq

def carriedService (service : UInt16) : Bool :=
  service == indicationService || service == busyService || service == lostMessageService

def validSourcePeer (peer : TransportPeer) : Bool :=
  if peer.length = 0 ∨ peer.length > socketStorageSize then false
  else if peer.family = afInet then decide (16 ≤ peer.length) && readU16 peer.address 2 != 0
  else if peer.family = afInet6 then decide (28 ≤ peer.length) && readU16 peer.address 2 != 0
  else false

namespace RoutingClient

/-! ## Starting and stopping -/

variable (client : RoutingClient)

def validateSecure : Expected Unit :=
  match client.secure with
  | none => .ok ()
  | some secure =>
    if validSerialNumber secure.configuration.serialNumber = false then
      refuse .invalidConfiguration
    else if secretEmpty secure.configuration.backboneKey then refuse .secureKeyMissing
    else .ok ()

/-- Each start of a secure client owes the group a synchronisation request. -/
def start (joined : Expected Unit) : RoutingClient × Expected Unit :=
  if client.started then (client, .ok ())
  else
    match validate client.configuration, client.validateSecure, joined with
    | .error why, _, _ => (client, .error why)
    | .ok (), .error why, _ => (client, .error why)
    | .ok (), .ok (), .error why => (client, .error why)
    | .ok (), .ok (), .ok () =>
      ({ client with
          started := true
          secure := client.secure.map fun secure =>
            { secure with synchronisationDue := true }.publishState }, .ok ())

def stop (left : Expected Unit) : RoutingClient × Expected Unit :=
  if ¬ client.started then (client, .ok ())
  else
    match left with
    | .error why => (client, .error why)
    | .ok () =>
      ({ client with
          started := false
          recentSentPackets := client.recentSentPackets.clear
          busyUntilMs := 0
          secure := client.secure.map fun secure =>
            { secure with timer := secure.timer.reset, synchronisationDue := false }.publishState },
        .ok ())

/-! ## Flow control -/

variable (secure : SecureState)

variable (trueMs : Nat) (backend : CryptoBackend) (world : Surroundings) (pkt : Octets)

def noteBusy (backoffMs : UInt32) : RoutingClient :=
  { client with
    counters := { client.counters with
      busyMessages := client.counters.busyMessages + 1
      busyBackoffMs := backoffMs }
    busyUntilMs := nowMs trueMs + backoffMs }

def noteLost (count : Nat) : RoutingClient :=
  { client with
    counters := { client.counters with lostMessages := client.counters.lostMessages + count } }

def noteReflected : RoutingClient :=
  { client with
    counters := { client.counters with
      reflectedMessages := client.counters.reflectedMessages + 1 } }

def holdsBack : Bool :=
  WrappingClock.ahead client.busyUntilMs (nowMs trueMs)

/-! ## Sending -/

def recordSentPacket : RoutingClient :=
  { client with recentSentPackets := client.recentSentPackets.push pkt }

def isOwnReflection : Bool :=
  client.recentSentPackets.slots.contains pkt

/-- Wraps a datagram under the timer and records it as sent before it leaves. -/
def sealOutgoing : RoutingClient × Expected Octets :=
  match world.tag with
  | .error why => (client, .error why)
  | .ok tag =>
    let (timer, timerValue) :=
      secure.timer.onOutgoingWrapper world.secureMs world.drawn
    let serialNumber := secure.configuration.serialNumber
    let fields : WrapperFields := ⟨0, encodeSequence timerValue.toNat, serialNumber, tag⟩
    match sealWrapper world.backend maxDatagramSize secure.configuration.backboneKey fields
        pkt with
    | .error why =>
      ({ client with secure := some { secure with timer := timer }.publishState }, .error why)
    | .ok wrapped =>
      let timer := timer.remember ⟨timerValue, serialNumber, tag⟩
      ({ client.recordSentPacket wrapped with
          secure := some { secure with timer := timer }.publishState }, .ok wrapped)

/-- What a call handed to the transport, and what it returned. -/
structure Sending where
  handed : Option Octets
  result : Expected Unit
  deriving DecidableEq

def transmitted (outgoing : Octets) (sent : Expected Nat) : Expected Unit :=
  match sent with
  | .error why => .error why
  | .ok count => if count ≠ outgoing.length then refuse .connectionFailed else .ok ()

def sendPacket (client : RoutingClient) (world : Surroundings) (pkt : Octets) :
    RoutingClient × Sending :=
  match client.secure with
  | none =>
    match transmitted pkt world.sent with
    | .error why => (client, ⟨some pkt, .error why⟩)
    | .ok () => (client.recordSentPacket pkt, ⟨some pkt, .ok ()⟩)
  | some secure =>
    match client.sealOutgoing secure world pkt with
    | (client, .error why) => (client, ⟨none, .error why⟩)
    | (client, .ok wrapped) =>
      (client, ⟨some wrapped, transmitted wrapped world.sent⟩)

def secureOutgoing (cemiBytes : Octets) : RoutingClient × Expected Octets :=
  match client.dataSecure with
  | none => (client, .ok cemiBytes)
  | some ctx =>
    let (ctx, secured) :=
      ctx.secureFrame world.backend world.sequences cemiBytes
    ({ client with dataSecure := some ctx }, secured)

def sendEncoded (encoded : Expected Octets) : RoutingClient × Sending :=
  match encoded with
  | .error why => (client, ⟨none, .error why⟩)
  | .ok pkt => client.sendPacket world pkt

def sendIndication (cemiBytes : Octets) : RoutingClient × Sending :=
  if ¬ client.started then (client, ⟨none, refuse .invalidConfiguration⟩)
  else if client.holdsBack world.trueMs then (client, ⟨none, refuse .timeout⟩)
  else
    match client.secureOutgoing world cemiBytes with
    | (client, .error why) => (client, ⟨none, .error why⟩)
    | (client, .ok outgoing) =>
      client.sendEncoded world (encodeIndicationPacket maxDatagramSize outgoing)

def sendBusy (val : Busy) : RoutingClient × Sending :=
  if ¬ client.started then (client, ⟨none, refuse .invalidConfiguration⟩)
  else
    client.sendEncoded world
      (encodeBusyPacket (communicationHeaderSize + busyBodySize) val)

def sendLostMessage (val : LostMessage) : RoutingClient × Sending :=
  if ¬ client.started then (client, ⟨none, refuse .invalidConfiguration⟩)
  else
    client.sendEncoded world
      (encodeLostMessagePacket (communicationHeaderSize + lostMessageBodySize) val)

/-- The request the timer wants sent: the synchronisation request that is owed, or the notification
that is due. -/
def takeRequest : SecureState × Option TimerNotifyRequest :=
  let (timer, req) :=
    if secure.synchronisationDue then
      let (timer, req) :=
        secure.timer.beginSynchronisation world.secureMs world.drawn
      (timer, some req)
    else secure.timer.takeDueNotify world.secureMs world.drawn
  ({ secure with timer := timer, synchronisationDue := false }.publishState, req)

def buildNotify (req : TimerNotifyRequest) : Expected Octets :=
  match makeTimerNotify world.backend secure.configuration.backboneKey
      (secure.timer.timerValue world.secureMs).toNat req.serialNumber req.messageTag with
  | .error why => .error why
  | .ok notify => encodeTimerNotifyPacket timerNotifySize notify

def prepareTimerNotify : RoutingClient × Expected (Option Octets) :=
  let (secure, req) := takeRequest secure world
  let client := { client with secure := some secure }
  match req with
  | none => (client, .ok none)
  | some req =>
    match buildNotify secure world req with
    | .error why => (client, .error why)
    | .ok pkt => (client.recordSentPacket pkt, .ok (some pkt))

def notifyTimer (client : RoutingClient) (world : Surroundings) : RoutingClient × Sending :=
  if ¬ client.started then (client, ⟨none, refuse .invalidConfiguration⟩)
  else
    match client.secure with
    | none => (client, ⟨none, refuse .invalidConfiguration⟩)
    | some secure =>
      match client.prepareTimerNotify secure world with
      | (client, .error why) => (client, ⟨none, .error why⟩)
      | (client, .ok none) => (client, ⟨none, .ok ()⟩)
      | (client, .ok (some pkt)) =>
        (client, ⟨some pkt, transmitted pkt world.sent⟩)

/-! ## Receiving -/

def toIndication : Expected RoutingEvent :=
  match decodeIndicationPacket pkt with
  | .error why => .error why
  | .ok val =>
    if val.cemiBytes.length > maxMessageSize then refuse .invalidLength
    else .ok (.indication val)

/-- The event of a plain routing datagram; a ROUTING_BUSY is acted on here. -/
def toEvent (service : UInt16) (pkt : Octets) : RoutingClient × Expected RoutingEvent :=
  if service = indicationService then (client, toIndication pkt)
  else if service = busyService then
    match decodeBusyPacket pkt with
    | .error why => (client, .error why)
    | .ok val => (client.noteBusy trueMs val.waitTimeMs.toUInt32, .ok (.busy val))
  else if service = lostMessageService then
    match decodeLostMessagePacket pkt with
    | .error why => (client, .error why)
    | .ok val => (client.noteLost val.count.toNat, .ok (.lostMessage val))
  else (client, refuse .unsupportedService)

def plainEvent : RoutingClient × Option (Expected RoutingEvent) :=
  if client.isOwnReflection pkt then (client.noteReflected, none)
  else
    match decodeCommunicationHeader pkt with
    | .error why => (client, some (.error why))
    | .ok header =>
      let (client, event) := client.toEvent trueMs header.serviceType pkt
      (client, some event)

def withTimer (timer : RoutingTimerState) :
    RoutingClient :=
  { client with secure := some { secure with timer := timer } }

def openRoutingWrapper : Expected (WrapperFrame × Octets) :=
  match decodeWrapperPacket pkt with
  | .error _ => refuse .secureAuthenticationFailed
  | .ok wrap =>
    if wrap.sessionId ≠ 0 then refuse .secureAuthenticationFailed
    else
      match openWrapper backend maxDatagramSize secure.configuration.backboneKey wrap with
      | .error why => .error why
      | .ok plain => .ok (wrap, plain)

/-- Verifies and unwraps a SECURE_WRAPPER; only then do the service check and the timer see it. -/
def unwrapEvent : RoutingClient × Option (Expected RoutingEvent) :=
  match openRoutingWrapper secure world.backend pkt with
  | .error _ => (client.withTimer secure (secure.timer.noteRefused .authentication), none)
  | .ok (wrap, plain) =>
    match (checkWrappedFrame plain).toOption.filter (carriedService ·.serviceType) with
    | none => (client.withTimer secure (secure.timer.noteRefused .service), none)
    | some inner =>
      let identity : RoutingFrameIdentity :=
        ⟨UInt64.ofNat (decodeSequence wrap.sequence), wrap.serialNumber, wrap.messageTag⟩
      let (timer, verdict) :=
        secure.timer.onWrapper world.secureMs identity world.drawn
      let client := client.withTimer secure timer
      if verdict ≠ .accepted then (client, none)
      else
        let (client, event) := client.toEvent world.trueMs inner.serviceType plain
        (client, some event)

def openTimerNotify : Option RoutingFrameIdentity :=
  match decodeTimerNotifyPacket pkt with
  | .error _ => none
  | .ok notify =>
    match verifyTimerNotify backend secure.configuration.backboneKey notify with
    | .error _ => none
    | .ok () =>
      some ⟨UInt64.ofNat (decodeSequence notify.timerValue), notify.serialNumber, notify.messageTag⟩

def applyTimerNotify : RoutingClient :=
  match openTimerNotify secure world.backend pkt with
  | none => client.withTimer secure (secure.timer.noteRefused .authentication)
  | some notify =>
    client.withTimer secure
      (secure.timer.onTimerNotify world.secureMs notify world.drawn)

/-- Routing traffic that is not wrapped is refused, not delivered. -/
def securedEvent (service : UInt16) (pkt : Octets) :
    RoutingClient × Option (Expected RoutingEvent) :=
  if service = wrapperService then client.unwrapEvent secure world pkt
  else if service = timerNotifyService then
    (client.applyTimerNotify secure world pkt, none)
  else if carriedService service then
    (client.withTimer secure (secure.timer.noteRefused .unencrypted), none)
  else
    let (client, event) := client.toEvent world.trueMs service pkt
    (client, some event)

/-- The client with what its secure state shows to readers without the lock brought up to date. -/
def published (client : RoutingClient) : RoutingClient :=
  { client with secure := client.secure.map SecureState.publishState }

def secureEvent : RoutingClient × Option (Expected RoutingEvent) :=
  let (client, outcome) :=
    if client.isOwnReflection pkt then (client.noteReflected, none)
    else
      match decodeCommunicationHeader pkt with
      | .error why => (client, some (.error why))
      | .ok header => client.securedEvent secure world header.serviceType pkt
  (client.published, outcome)

def datagramEvent (client : RoutingClient) (world : Surroundings) (pkt : Octets) :
    RoutingClient × Option (Expected RoutingEvent) :=
  match client.secure with
  | none => client.plainEvent world.trueMs pkt
  | some secure => client.secureEvent secure world pkt

/-- An indication after Data Secure; nothing when the context refuses it. -/
def openDataSecure (outcome : Expected RoutingEvent) :
    RoutingClient × Option (Expected RoutingEvent) :=
  match client.dataSecure, outcome with
  | some ctx, .ok (.indication received) =>
    let (ctx, opened) := ctx.openFrame backend received.cemiBytes
    let client := { client with dataSecure := some ctx }
    match opened with
    | .error _ => (client, none)
    | .ok cemiBytes =>
      if cemiBytes.length > maxMessageSize then (client, none)
      else
        match Cemi.decode cemiBytes with
        | .error _ => (client, none)
        | .ok cemi => (client, some (.ok (.indication ⟨cemiBytes, cemi⟩)))
  | _, _ => (client, some outcome)

/-- One reception of the receive loop: the event it ends with, or nothing when it is read past. -/
def receivePass (received : Expected (TransportPeer × Octets)) :
    RoutingClient × Option (Expected RoutingEvent) :=
  match received with
  | .error why => (client, some (.error why))
  | .ok (peer, pkt) =>
    if validSourcePeer peer = false then (client, some (refuse .connectionFailed))
    else if pkt.length = 0 ∨ pkt.length > maxDatagramSize then
      (client, some (refuse .invalidLength))
    else
      match client.datagramEvent world pkt with
      | (client, none) => (client, none)
      | (client, some outcome) => client.openDataSecure world.backend outcome

/-! ## Calls -/

/-- A call on a client, with what is outside it while it runs. -/
inductive Call where
  | start (joined : Expected Unit)
  | stop (left : Expected Unit)
  | noteBusy (trueMs : Nat) (backoffMs : UInt32)
  | noteLost
  | noteReflected
  | useDataSecure (context : Option Context)
  | sendIndication (world : Surroundings) (cemiBytes : Octets)
  | sendBusy (world : Surroundings) (value : Busy)
  | sendLostMessage (world : Surroundings) (value : LostMessage)
  | notifyTimer (world : Surroundings)
  | receive (world : Surroundings) (received : Expected (TransportPeer × Octets))

/-- What a call shows: what it handed to the transport, and the event it reported. -/
structure Observed where
  handed : Option Octets := none
  event : Option (Expected RoutingEvent) := none
  deriving DecidableEq

def perform : Call → RoutingClient × Observed
  | .start joined => ((client.start joined).1, {})
  | .stop left => ((client.stop left).1, {})
  | .noteBusy trueMs backoffMs => (client.noteBusy trueMs backoffMs, {})
  | .noteLost => (client.noteLost 1, {})
  | .noteReflected => (client.noteReflected, {})
  | .useDataSecure ctx => ({ client with dataSecure := ctx }, {})
  | .sendIndication world cemiBytes =>
    let (client, sending) := client.sendIndication world cemiBytes
    (client, { handed := sending.handed })
  | .sendBusy world val =>
    let (client, sending) := client.sendBusy world val
    (client, { handed := sending.handed })
  | .sendLostMessage world val =>
    let (client, sending) := client.sendLostMessage world val
    (client, { handed := sending.handed })
  | .notifyTimer world =>
    let (client, sending) := client.notifyTimer world
    (client, { handed := sending.handed })
  | .receive world received =>
    let (client, event) := client.receivePass world received
    (client, { event := event })

def make (config : MulticastConfiguration) (secure : Option SecureConfiguration) :
    RoutingClient where
  configuration := config
  secure := secure.map SecureState.make

end RoutingClient

end KmxAio.Knx.Routing
