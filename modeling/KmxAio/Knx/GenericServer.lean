import KmxAio.Knx.Datagram
import KmxAio.Knx.Secure.ServerSessionTable

/-!
# The tunnelling server

A server holds a table of channels. A channel belongs to the peer that opened it
and to the transport it was opened over: the server's socket, a client's
connection, or the link of one secure session on a connection. What a handler
reads from outside, the clocks and what a transport makes of a send, comes with
the conditions it runs under.
-/

namespace KmxAio.Knx

open Lib.Wire Knx.Frame Connection
open KmxAio.Knx.Secure (CryptoBackend ServerSessionTable X25519KeyPair)

inductive ServerTransport where
  | socket
  | connection (id : TransportId)
  | link (connection : TransportId) (position : Nat)
  deriving DecidableEq

/-- Connections are streams, and so is the link of a session on one. -/
def ServerTransport.streamOriented : ServerTransport → Bool
  | .socket => false
  | .connection _ => true
  | .link _ _ => true

structure Origin where
  transport : ServerTransport
  peer : TransportPeer
  sessionId : UInt16 := 0
  deriving DecidableEq

structure Channel where
  active : Bool := false
  transport : Option ServerTransport := none
  peer : TransportPeer := ⟨[], 0⟩
  dataPeer : TransportPeer := ⟨[], 0⟩
  dataEndpoint : Hpai := Hpai.default
  assignedAddress : IndividualAddress := 0
  sequence : UInt8 := 0
  incomingSequenceValid : Bool := false
  lastIncomingSequence : UInt8 := 0
  nextIncomingSequence : UInt8 := 0
  lastActivityMs : UInt32 := 0
  sessionId : UInt16 := 0
  deriving DecidableEq

/-- The failures that concern one frame only, after which a server goes on serving. -/
def recoverable (failure : ErrorCode) : Bool :=
  failure == .knx .timeout || failure == .knx .sendQueueFull ||
    failure == .knx .unsupportedConnectionType || failure == .knx .unsupportedService ||
    failure == .knx .sequenceError || failure == .knx .malformedFrame ||
    failure == .knx .invalidConfiguration || failure == .knx .unsupportedHpai ||
    failure == .knx .invalidLength || failure == .knx .secureFrameRequired ||
    failure == .knx .secureSessionClosed

structure ServerConfig where
  maxChannels : UInt8 := 16
  firstAssignedAddress : IndividualAddress := 0x1101
  inactivityTimeoutMs : UInt32 := 120000
  /-- What the description of the server makes of a discovery request: an answer and where it goes,
  silence, or the reason it cannot answer. -/
  discovery : DatagramPayload → Origin → Expected (Option (Octets × TransportPeer)) :=
    fun _ _ => .ok none

/-- One connection of a secure server: the session of each link on it, in the order they opened. -/
structure SecureConnection where
  connection : TransportId
  links : List UInt16 := []
  lastSessionMs : UInt64
  deriving DecidableEq

structure GenericServer where
  config : ServerConfig := {}
  hasSocket : Bool := true
  channels : UInt8 → Channel := fun _ => {}
  stopped : Bool := false
  sessions : Option ServerSessionTable := none
  connections : List SecureConnection := []

/-- A frame tunnelled in on a channel; no octets for a request that was only answered. -/
structure ServerEvent where
  channelId : UInt8
  cemiBytes : Octets
  deriving DecidableEq

/-- What a handler has left to do when its answer is sent. -/
inductive Remaining where
  | report (result : Expected ServerEvent)
  | note (event : ServerEvent)
  | release (channelId : UInt8)

/-- Where a handler stands: at its end, or at the send of its answer. -/
inductive HandlerStage where
  | ended (result : Expected ServerEvent)
  | sending (packet : Octets) (remaining : Remaining)

def HandlerStage.awaiting (encoded : Expected Octets) (remaining : Remaining) : HandlerStage :=
  match encoded with
  | .error why => .ended (.error why)
  | .ok pkt => .sending pkt remaining

structure Conditions where
  nowMs : UInt32 := 0
  secureNowMs : UInt64 := 0
  backend : CryptoBackend
  generated : Expected X25519KeyPair := refuse .cryptoFailure
  /-- What the transport reports of a send of these octets. -/
  sent : Octets → Expected Nat := fun packet => .ok packet.length

structure ConnectionOffer where
  channelId : UInt8 := 0
  status : ConnectStatus := .noMoreConnections
  assigned : IndividualAddress := 0
  accepted : Bool := false
  deriving DecidableEq

inductive IndicationVerdict where
  | fresh
  | repeated
  | refused
  deriving DecidableEq

/-- The block a server names over TCP: the connection itself, with no address and no port. -/
def tcpHpai : Hpai := ⟨⟨zeroArray 4, 0⟩, tcpProtocol⟩

/-! ## Endpoints and peers -/

def validateConnectRequest (control data : Hpai) (stream : Bool) : Expected Unit :=
  let protocol := if stream then tcpProtocol else udpProtocol
  if control.protocol ≠ protocol ∨ data.protocol ≠ protocol then refuse .unsupportedHpai
  else if stream then .ok ()
  else if control.endpoint.port = 0 ∧ ¬ routeBack control then refuse .invalidConfiguration
  else if data.endpoint.port = 0 ∧ ¬ routeBack data then refuse .invalidConfiguration
  else .ok ()

def validateIpv6ConnectRequest (control data : Ipv6Hpai) (stream : Bool) : Expected Unit :=
  if stream ∨ control.protocol ≠ udpProtocol ∨ data.protocol ≠ udpProtocol then
    refuse .unsupportedHpai
  else if control.endpoint.port = 0 ∧ ¬ ipv6RouteBack control then refuse .invalidConfiguration
  else if data.endpoint.port = 0 ∧ ¬ ipv6RouteBack data then refuse .invalidConfiguration
  else .ok ()

def makeDataPeer (controlPeer : TransportPeer) (endpoint : Hpai) : TransportPeer :=
  if routeBack endpoint ∨ controlPeer.family ≠ afInet then controlPeer
  else
    ⟨controlPeer.address.take 2 ++ u16Octets endpoint.endpoint.port ++
      endpoint.endpoint.address.toList ++ controlPeer.address.drop 8, 16⟩

def makeIpv6DataPeer (controlPeer : TransportPeer) (endpoint : Ipv6Hpai) : TransportPeer :=
  if ipv6RouteBack endpoint ∨ controlPeer.family ≠ afInet6 then controlPeer
  else
    ⟨controlPeer.address.take 2 ++ u16Octets endpoint.endpoint.port ++
      subspan controlPeer.address 4 4 ++ endpoint.endpoint.address.toList ++
      controlPeer.address.drop 24, 28⟩

/-- A channel is held over the transport it was opened on, by its own peer. -/
def peerMatches (val : Channel) (origin : Origin) (dataEndpoint : Bool) : Bool :=
  let expected := if dataEndpoint then val.dataPeer else val.peer
  let peer := origin.peer
  if val.active = false ∨ val.transport ≠ some origin.transport ∨ expected.length = 0 ∨
      expected.length ≠ peer.length ∨ expected.family ≠ peer.family then false
  else if peer.family = afInet ∧ 16 ≤ peer.length then
    readArray 2 2 expected.address == readArray 2 2 peer.address &&
      readArray 4 4 expected.address == readArray 4 4 peer.address
  else if peer.family = afInet6 ∧ 28 ≤ peer.length then
    readArray 2 2 expected.address == readArray 2 2 peer.address &&
      readArray 4 24 expected.address == readArray 4 24 peer.address &&
      readArray 16 8 expected.address == readArray 16 8 peer.address
  else expected.address.take peer.length == peer.address.take peer.length

namespace GenericServer

/-! ## The table of channels -/

def create (config : ServerConfig) (hasSocket : Bool) (secure : Option Secure.ServerConfiguration) :
    GenericServer :=
  { config := { config with maxChannels := if config.maxChannels = 0 then 1 else config.maxChannels }
    hasSocket := hasSocket
    sessions := secure.map (fun configuration => { configuration := configuration }) }

variable (srv : GenericServer) (world : Conditions)

def secured : Bool := srv.sessions.isSome

def channelIds (limit : Nat) : List UInt8 :=
  (List.range limit).map (fun index => UInt8.ofNat (index + 1))

variable (pkt : Octets) (transport : ServerTransport) (conn : TransportId)
  (chan : UInt8) (origin : Origin) (requested : Option IndividualAddress)

def setChannel (val : Channel) : GenericServer :=
  { srv with channels := Function.update srv.channels chan val }

def channelOpen : Bool :=
  chan != 0 && (srv.channels chan).active

def noteActivity : GenericServer :=
  if srv.channelOpen chan then
    srv.setChannel chan
      { srv.channels chan with lastActivityMs := world.nowMs }
  else srv

/-- A channel and the address it is given are one slot, so an address asked for picks both. -/
def allocateChannel : Except ConnectStatus UInt8 :=
  let limit := min srv.config.maxChannels.toNat 255
  match requested with
  | some address =>
    let slot := (address.toNat : Int) - srv.config.firstAssignedAddress.toNat + 1
    if slot < 1 ∨ slot > limit then .error .noTunnellingAddress
    else if (srv.channels (UInt8.ofNat slot.toNat)).active then .error .connectionInUse
    else .ok (UInt8.ofNat slot.toNat)
  | none =>
    match (channelIds limit).find? (fun id => !(srv.channels id).active) with
    | some id => .ok id
    | none => .error .noMoreConnections

def withinLimit (id : UInt8) : Prop :=
  id ≠ 0 ∧ id.toNat ≤ min srv.config.maxChannels.toNat 255

theorem channelIds_bounds {limit : Nat} {id : UInt8} (small : limit ≤ 255)
    (listed : id ∈ channelIds limit) : id ≠ 0 ∧ id.toNat ≤ limit := by
  obtain ⟨index, below, rfl⟩ := List.mem_map.mp listed
  have bound := List.mem_range.mp below
  have num : (UInt8.ofNat (index + 1)).toNat = index + 1 := by
    rw [UInt8.toNat_ofNat']
    omega
  refine ⟨fun zero => ?_, by omega⟩
  rw [zero] at num
  cases num

theorem allocateChannel_free {srv : GenericServer} {requested : Option IndividualAddress}
    {id : UInt8} (allocated : srv.allocateChannel requested = .ok id) :
    srv.withinLimit id ∧ (srv.channels id).active = false := by
  unfold allocateChannel at allocated
  cases requested with
  | none =>
    dsimp only at allocated
    split at allocated
    · next found =>
        cases allocated
        exact ⟨channelIds_bounds (Nat.min_le_right _ _) (List.mem_of_find?_eq_some found),
          by simpa using List.find?_some found⟩
    · cases allocated
  | some address =>
    dsimp only at allocated
    split_ifs at allocated with outside used
    · cases allocated
      refine ⟨?_, by simpa using used⟩
      have num : (UInt8.ofNat ((address.toNat : Int) -
          srv.config.firstAssignedAddress.toNat + 1).toNat).toNat =
          ((address.toNat : Int) - srv.config.firstAssignedAddress.toNat + 1).toNat := by
        rw [UInt8.toNat_ofNat']
        omega
      refine ⟨fun zero => ?_, by omega⟩
      rw [zero] at num
      simp only [UInt8.toNat_zero] at num
      omega

def assignedAddress : IndividualAddress :=
  srv.config.firstAssignedAddress + chan.toUInt16 - 1

def releaseChannel : GenericServer :=
  if chan = 0 then srv else srv.setChannel chan {}

/-- The loops that release every channel of the table that meets a condition. -/
def releaseWhere (condition : Channel → Bool) : GenericServer :=
  { srv with
    channels := fun id =>
      if id ≠ 0 ∧ condition (srv.channels id) then {} else srv.channels id }

def releaseChannelsOf : GenericServer :=
  srv.releaseWhere (fun val => val.transport == some transport)

def releaseAllChannels : GenericServer :=
  srv.releaseWhere (fun _ => true)

def holdsChannel (dataEndpoint : Bool) : Bool :=
  srv.channelOpen chan && peerMatches (srv.channels chan) origin dataEndpoint

/-! ## Sending -/

def findConnection : Option SecureConnection :=
  srv.connections.find? (fun state => state.connection == conn)

def linkSession (spot : Nat) : Option UInt16 :=
  (srv.findConnection conn).bind (fun state => state.links[spot]?)

/-- A frame sent over a link is sealed in its session first. -/
def sendOverLink (spot : Nat) : GenericServer × Expected Nat :=
  match srv.sessions, srv.linkSession conn spot with
  | some table, some sid =>
    match table.sealTunnel world.backend conn sid pkt maxDatagramSize with
    | (after, .error why) => ({ srv with sessions := some after }, .error why)
    | (after, .ok produced) =>
      ({ srv with sessions := some after },
        match world.sent produced.packet with
        | .error why => .error why
        | .ok count =>
          if count ≠ produced.packet.length then refuse .connectionFailed
          else .ok pkt.length)
  | _, _ => (srv, refuse .invalidConfiguration)

def transportSend : ServerTransport → GenericServer × Expected Nat
  | .socket => (srv, world.sent pkt)
  | .connection _ => (srv, world.sent pkt)
  | .link conn spot => srv.sendOverLink world pkt conn spot

def sendDatagram : GenericServer × Expected Unit :=
  match srv.transportSend world pkt transport with
  | (after, .error why) => (after, .error why)
  | (after, .ok count) =>
    (after, if count ≠ pkt.length then refuse .connectionFailed else .ok ())

/-! ## Opening channels -/

/-- A secure server takes nothing outside a session but discovery. -/
def refusesInClear : Bool :=
  srv.secured && origin.sessionId == 0

def noteUnencrypted (srv : GenericServer) : GenericServer :=
  { srv with sessions := srv.sessions.map ServerSessionTable.noteUnencrypted }

def offerChannel (dataPeer : TransportPeer) (dataEndpoint : Hpai) :
    GenericServer × ConnectionOffer :=
  match srv.allocateChannel requested with
  | .error status => (srv, { status := status })
  | .ok chan =>
    (srv.setChannel chan
      { active := true
        transport := some origin.transport
        peer := origin.peer
        dataPeer := dataPeer
        dataEndpoint := dataEndpoint
        assignedAddress := srv.assignedAddress chan
        lastActivityMs := world.nowMs },
      ⟨chan, .noError, srv.assignedAddress chan, true⟩)

def addressInUse (address : IndividualAddress) : Bool :=
  (List.range 256).any (fun index =>
    (srv.channels (UInt8.ofNat index)).active &&
      (srv.channels (UInt8.ofNat index)).assignedAddress == address)

/-- An address asked for has to be one of the user's own, and free. -/
def permittedAddress (permitted : List IndividualAddress) (requested : Option IndividualAddress) :
    Except ConnectStatus IndividualAddress :=
  match requested with
  | some address =>
    if address ∉ permitted then .error .authorisationError
    else if srv.addressInUse address then .error .connectionInUse
    else .ok address
  | none =>
    match permitted.find? (fun address => !srv.addressInUse address) with
    | some address => .ok address
    | none =>
      .error (if permitted = [] then .authorisationError else .noMoreUniqueConnections)

def offerSecureChannel (dataPeer : TransportPeer) (dataEndpoint : Hpai) :
    GenericServer × ConnectionOffer :=
  let permitted := (srv.sessions.map (·.tunnelAddresses origin.sessionId)).getD []
  match srv.permittedAddress permitted requested with
  | .error status => (srv, { status := status })
  | .ok address =>
    match srv.allocateChannel none with
    | .error status => (srv, { status := status })
    | .ok chan =>
      (srv.setChannel chan
        { active := true
          transport := some origin.transport
          peer := origin.peer
          dataPeer := dataPeer
          dataEndpoint := dataEndpoint
          assignedAddress := address
          lastActivityMs := world.nowMs
          sessionId := origin.sessionId },
        ⟨chan, .noError, address, true⟩)

/-- The refusal is reported only after the response that names its reason has been sent. -/
def refuseIpv6Connect (dataEndpoint : Ipv6Hpai) (status : ConnectStatus) (why : ErrorCode) :
    HandlerStage :=
  .awaiting
    (encodeIpv6ConnectResponsePacket (communicationHeaderSize + 26)
      ⟨0, status, { dataEndpoint with protocol := udpProtocol }, 0⟩)
    (.report (.error why))

def openIpv6Channel (req : Ipv6ConnectRequestFrame) (serviceType : UInt16) (origin : Origin) :
    GenericServer × HandlerStage :=
  if serviceType ≠ connectRequestService then (srv, .ended (refuse .invalidConfiguration))
  else if srv.refusesInClear origin then
    (srv.noteUnencrypted,
      refuseIpv6Connect req.dataEndpoint .connectionType (.knx .secureFrameRequired))
  else
    match validateIpv6ConnectRequest req.controlEndpoint req.dataEndpoint
        origin.transport.streamOriented with
    | .error why => (srv, refuseIpv6Connect req.dataEndpoint .hostProtocolType why)
    | .ok _ =>
      let (offered, offer) := srv.offerChannel world origin none
        (makeIpv6DataPeer origin.peer req.dataEndpoint) Hpai.default
      (offered, .awaiting
        (encodeIpv6ConnectResponsePacket (communicationHeaderSize + 26)
          ⟨offer.channelId, offer.status, req.dataEndpoint, offer.assigned⟩)
        (.report (if offer.accepted then .ok ⟨offer.channelId, []⟩ else refuse .sendQueueFull)))

def refuseConnect (dataEndpoint : Hpai) (status : ConnectStatus) (why : ErrorCode)
    (origin : Origin) : HandlerStage :=
  .awaiting
    (encodeConnectResponsePacket (communicationHeaderSize + 14)
      ⟨0, status,
        if origin.transport.streamOriented then tcpHpai
        else { dataEndpoint with protocol := udpProtocol }, 0⟩)
    (.report (.error why))

def answerConnect (offer : ConnectionOffer) (dataEndpoint : Hpai) : HandlerStage :=
  .awaiting
    (encodeConnectResponsePacket (communicationHeaderSize + 14)
      ⟨offer.channelId, offer.status, dataEndpoint, offer.assigned⟩)
    (.report
      (if offer.status = .noMoreConnections then refuse .sendQueueFull
      else if offer.accepted = false then refuse .invalidConfiguration
      else .ok ⟨offer.channelId, []⟩))

/-- Over a stream the data channel is the connection the request arrived on. -/
def offerTo (req : ConnectRequestFrame) (origin : Origin) : GenericServer × ConnectionOffer :=
  let stream := origin.transport.streamOriented
  let dataEndpoint := if stream then tcpHpai else req.dataEndpoint
  let dataPeer := if stream then origin.peer else makeDataPeer origin.peer req.dataEndpoint
  if origin.sessionId ≠ 0 then
    srv.offerSecureChannel world origin req.requestedAddress dataPeer dataEndpoint
  else srv.offerChannel world origin req.requestedAddress dataPeer dataEndpoint

/-- Only the link layer is served: no bus monitor and no raw tunnel. -/
def openChannel (req : ConnectRequestFrame) (serviceType : UInt16) (origin : Origin) :
    GenericServer × HandlerStage :=
  if serviceType ≠ connectRequestService then (srv, .ended (refuse .invalidConfiguration))
  else if srv.refusesInClear origin then
    (srv.noteUnencrypted,
      refuseConnect req.dataEndpoint .connectionType (.knx .secureFrameRequired) origin)
  else
    let stream := origin.transport.streamOriented
    match validateConnectRequest req.controlEndpoint req.dataEndpoint stream with
    | .error why => (srv, refuseConnect req.dataEndpoint .hostProtocolType why origin)
    | .ok _ =>
      if req.knxLayer ≠ tunnelLinkLayer then
        (srv, refuseConnect req.dataEndpoint .tunnellingLayer
          (.knx .unsupportedConnectionType) origin)
      else
        let (offered, offer) := srv.offerTo world req origin
        (offered, answerConnect offer (if stream then tcpHpai else req.dataEndpoint))

/-! ## Requests on a channel -/

/-- A client that names a channel it does not hold is told so; the table is not touched. -/
def refuseUnknownChannel (responseService : UInt16) (chan : UInt8) : HandlerStage :=
  .awaiting
    (if responseService = connectionstateResponseService then
      encodeConnectionstateResponsePacket (communicationHeaderSize + 2) ⟨chan, .connectionId⟩
    else encodeDisconnectResponsePacket (communicationHeaderSize + 2) ⟨chan, .connectionId⟩)
    (.report (refuse .sequenceError))

def answerConnectionstate (req : ControlRequestFrame) (origin : Origin) : HandlerStage :=
  if srv.holdsChannel req.channelId origin false = false then
    refuseUnknownChannel connectionstateResponseService req.channelId
  else
    .awaiting
      (encodeConnectionstateResponsePacket (communicationHeaderSize + 2)
        ⟨req.channelId, .noError⟩) (.note ⟨req.channelId, []⟩)

def answerDisconnect (req : ControlRequestFrame) (origin : Origin) : HandlerStage :=
  if srv.holdsChannel req.channelId origin false = false then
    refuseUnknownChannel disconnectResponseService req.channelId
  else
    .awaiting
      (encodeDisconnectResponsePacket (communicationHeaderSize + 2) ⟨req.channelId, .noError⟩)
      (.release req.channelId)

/-- Takes in the sequence number of a request, unless it repeats the last one or is out of turn. -/
def classifyIndication (req : TunnellingRequestFrame) (origin : Origin) :
    GenericServer × IndicationVerdict :=
  if srv.holdsChannel req.channelId origin true = false then (srv, .refused)
  else if origin.transport.streamOriented then (srv, .fresh)
  else
    let channel := srv.channels req.channelId
    if channel.incomingSequenceValid ∧ req.sequenceNumber = channel.lastIncomingSequence then
      (srv, .repeated)
    else if channel.incomingSequenceValid ∧
        req.sequenceNumber ≠ channel.nextIncomingSequence then (srv, .refused)
    else
      (srv.setChannel req.channelId
        { channel with
          incomingSequenceValid := true
          lastIncomingSequence := req.sequenceNumber
          nextIncomingSequence := req.sequenceNumber + 1 }, .fresh)

/-- A repeat is acknowledged again and dropped. The sequence number is taken in before the
acknowledgement is sent; over a stream there is none and the handler does not stop. -/
def acceptTunnelled (req : TunnellingRequestFrame) (origin : Origin) :
    GenericServer × HandlerStage :=
  match srv.classifyIndication req origin with
  | (classified, .refused) => (classified, .ended (refuse .sequenceError))
  | (classified, verdict) =>
    let event : ServerEvent := ⟨req.channelId, if verdict = .repeated then [] else req.cemiBytes⟩
    if origin.transport.streamOriented then
      (classified.noteActivity world req.channelId, .ended (.ok event))
    else
      (classified, .awaiting
        (encodeTunnellingAckPacket (communicationHeaderSize + tunnellingAckSize) req.channelId
          req.sequenceNumber 0) (.note event))

/-! ## Dispatch -/

/-- A discovery request never becomes an event: it is answered, and reported as a timeout. -/
def answerDiscovery (payload : DatagramPayload) (origin : Origin) : HandlerStage :=
  match srv.config.discovery payload origin with
  | .error why => .ended (.error why)
  | .ok none => .ended (refuse .timeout)
  | .ok (some (pkt, _)) => .sending pkt (.report (refuse .timeout))

/-- The requests a secure server takes only inside a session. -/
def dispatchOnChannel (val : Datagram) (origin : Origin) : GenericServer × HandlerStage :=
  if srv.refusesInClear origin then
    (srv.noteUnencrypted, .ended (refuse .secureFrameRequired))
  else
    match val.payload with
    | .connectionstateRequest req => (srv, srv.answerConnectionstate req origin)
    | .disconnectRequest req => (srv, srv.answerDisconnect req origin)
    | .tunnellingRequest req => srv.acceptTunnelled world req origin
    | _ => (srv, .ended (refuse .unsupportedService))

/-- The handler of a datagram, to the point where it sends its answer. -/
def beginHandling (val : Datagram) (origin : Origin) : GenericServer × HandlerStage :=
  match val.payload with
  | .searchRequest _ => (srv, srv.answerDiscovery val.payload origin)
  | .extendedSearchRequest _ => (srv, srv.answerDiscovery val.payload origin)
  | .descriptionRequest _ => (srv, srv.answerDiscovery val.payload origin)
  | .ipv6ConnectRequest req => srv.openIpv6Channel world req val.serviceType origin
  | .connectRequest req => srv.openChannel world req val.serviceType origin
  | _ => srv.dispatchOnChannel world val origin

/-- The rest of a handler, once its answer is sent. A channel is released only if the client still
holds it; its activity is noted whoever holds it. -/
def finishHandling (remaining : Remaining) (origin : Origin) :
    GenericServer × Expected ServerEvent :=
  match remaining with
  | .report result => (srv, result)
  | .note event => (srv.noteActivity world event.channelId, .ok event)
  | .release chan =>
    (if srv.holdsChannel chan origin false then srv.releaseChannel chan
    else srv, .ok ⟨chan, []⟩)

/-- A handler nothing interrupts sends its answer and goes on in the server it left. -/
def proceed (stage : HandlerStage) (origin : Origin) : GenericServer × Expected ServerEvent :=
  match stage with
  | .ended result => (srv, result)
  | .sending pkt remaining =>
    match srv.sendDatagram world pkt origin.transport with
    | (after, .error why) => (after, .error why)
    | (after, .ok _) => after.finishHandling world remaining origin

def dispatch (val : Datagram) (origin : Origin) : GenericServer × Expected ServerEvent :=
  (srv.beginHandling world val origin).1.proceed world
    (srv.beginHandling world val origin).2 origin

def handleReceived : GenericServer × Expected ServerEvent :=
  match decodeDatagram pkt with
  | .error why => (srv, .error why)
  | .ok val => srv.dispatch world val origin

/-! ## The server's own calls -/

def orphaned (table : ServerSessionTable) (val : Channel) : Bool :=
  val.active && val.sessionId != 0 && !table.alive val.sessionId

/-- Ends the sessions that timed out, and the channels that were opened in them. -/
def reapSessions : GenericServer :=
  match srv.sessions with
  | none => srv
  | some table =>
    match table.reap world.secureNowMs with
    | (after, ended) =>
      let reaped := { srv with sessions := some after }
      if ended > 0 then reaped.releaseWhere (orphaned after) else reaped

def inactiveFor (timeoutMs nowMs : UInt32) (val : Channel) : Bool :=
  val.active && (nowMs - val.lastActivityMs).toInt32 ≥ timeoutMs.toInt32

def poll : GenericServer × Expected Unit :=
  if srv.stopped then (srv, refuse .shutdown)
  else
    let reaped := srv.reapSessions world
    (if srv.config.inactivityTimeoutMs = 0 then reaped
      else
        reaped.releaseWhere (inactiveFor srv.config.inactivityTimeoutMs world.nowMs),
      .ok ())

def serveOnce (received : Expected (Octets × TransportPeer)) :
    GenericServer × Expected ServerEvent :=
  if srv.stopped then (srv, refuse .shutdown)
  else if srv.hasSocket = false then (srv, refuse .invalidConfiguration)
  else
    let polled := (srv.poll world).1
    match received with
    | .error why => (polled, .error why)
    | .ok (pkt, peer) =>
      if pkt.length = 0 ∨ pkt.length > maxDatagramSize then (polled, refuse .invalidLength)
      else polled.handleReceived world pkt ⟨.socket, peer, 0⟩

def checkSend (cemiBytes : Octets) : Expected Unit :=
  if srv.channelOpen chan = false then refuse .invalidConfiguration
  else if cemiBytes = [] then refuse .malformedFrame
  else if cemiBytes.length > Cemi.maxMessageSize then refuse .invalidLength
  else .ok ()

def claimSequence : GenericServer × Option (Option ServerTransport × UInt8) :=
  if srv.channelOpen chan = false then (srv, none)
  else
    let channel := srv.channels chan
    (srv.setChannel chan { channel with sequence := channel.sequence + 1 },
      some (channel.transport, channel.sequence))

def sendClaimed (cemiBytes : Octets) (transport : Option ServerTransport) (seq : UInt8) :
    GenericServer × Expected Unit :=
  match encodeTunnellingRequestPacket maxDatagramSize chan seq cemiBytes, transport with
  | .error why, _ => (srv, .error why)
  | .ok _, none => (srv, refuse .invalidConfiguration)
  | .ok pkt, some transport =>
    match srv.sendDatagram world pkt transport with
    | (unsent, .error why) => (unsent, .error why)
    | (sent, .ok _) => (sent.noteActivity world chan, .ok ())

/-- Nothing else happens between the stages of a send that is not interrupted. -/
def send (cemiBytes : Octets) : GenericServer × Expected Unit :=
  match srv.checkSend chan cemiBytes with
  | .error why => (srv, .error why)
  | .ok _ =>
    match srv.claimSequence chan with
    | (unclaimed, none) => (unclaimed, refuse .invalidConfiguration)
    | (claimed, some (transport, seq)) => claimed.sendClaimed world chan cemiBytes transport seq

def disconnect : GenericServer × Expected Unit :=
  if srv.channelOpen chan = false then (srv, refuse .invalidConfiguration)
  else (srv.releaseChannel chan, .ok ())

def shutdown : GenericServer :=
  { srv with stopped := true }.releaseAllChannels

def reset : GenericServer :=
  { srv.releaseAllChannels with stopped := false }

end GenericServer

end KmxAio.Knx
