import KmxAio.Lib.Retry
import KmxAio.Knx.Transport
import KmxAio.Knx.TunnellingSession

/-!
# The tunnelling client

A tunnelling session with a transport: who its control and data peers are, what
it takes from which of them, and the loop that sends a request until it is
answered. What the transport and the clock do in a pass of a loop is the pass's
input, so a call is a function of the client and the passes it is given.
-/

namespace KmxAio.Knx

open Lib.Wire Lib.Retry Knx.Frame Connection

inductive EndpointKind where
  | control
  | data
  deriving DecidableEq

structure TunnellingClient where
  peer : TransportPeer
  configuredPeerValid : Bool
  dataPeer : TransportPeer := ⟨[], 0⟩
  dataPeerValid : Bool := false
  streamOriented : Bool := false
  operationActive : Bool := false
  session : TunnellingSession
  deriving DecidableEq

def socketStorageSize : Nat := 128

def sameIpv4 (expected peer : TransportPeer) : Bool :=
  decide (16 ≤ expected.length ∧ 16 ≤ peer.length) &&
    readArray 2 2 expected.address == readArray 2 2 peer.address &&
    readArray 4 4 expected.address == readArray 4 4 peer.address

def sameIpv6 (expected peer : TransportPeer) : Bool :=
  decide (28 ≤ expected.length ∧ 28 ≤ peer.length) &&
    readArray 2 2 expected.address == readArray 2 2 peer.address &&
    readArray 4 4 expected.address == readArray 4 4 peer.address &&
    readArray 4 24 expected.address == readArray 4 24 peer.address &&
    readArray 16 8 expected.address == readArray 16 8 peer.address

def afUnspec : UInt16 := 0

namespace TunnellingClient

variable (client : TunnellingClient)

def expectedPeer : EndpointKind → TransportPeer
  | .control => client.peer
  | .data => client.dataPeer

def peerMatches (peer : TransportPeer) (kind : EndpointKind) : Bool :=
  let expected := client.expectedPeer kind
  if kind = .data ∧ client.dataPeerValid = false then false
  else if expected.length = 0 ∨ expected.length > socketStorageSize ∨ peer.length = 0 ∨
      peer.length > socketStorageSize ∨
      (expected.family ≠ afUnspec ∧ peer.family ≠ expected.family) then false
  else if kind = .control ∧ expected.family = afUnspec then
    peer.family == afUnspec || (peer.family == afInet && decide (16 ≤ peer.length))
  else if expected.family = afInet then sameIpv4 expected peer
  else if expected.family = afInet6 then sameIpv6 expected peer
  else
    peer.length == expected.length &&
      readArray expected.length 0 peer.address == readArray expected.length 0 expected.address

variable (stopRequested : Bool) (pkt : Octets) (kind : EndpointKind)

def sendPacket (sent : Expected Nat) : Expected Unit :=
  let destination := client.expectedPeer kind
  if client.configuredPeerValid = false ∨ destination.length = 0 ∨
      destination.length > socketStorageSize ∨ (kind = .data ∧ client.dataPeerValid = false) then
    refuse .invalidConfiguration
  else
    match sent with
    | .error why => .error why
    | .ok count => if count ≠ pkt.length then refuse .connectionFailed else .ok ()

/-! ## Learning the data endpoint -/

def adoptDataPeer (endpoint : Ipv4Endpoint) : TunnellingClient :=
  { client with
    dataPeer :=
      ⟨[2, 0] ++ (u16Octets endpoint.port ++ (endpoint.address.toList ++ List.replicate 8 0)), 16⟩
    dataPeerValid := true }

def adoptIpv6DataPeer (endpoint : Ipv6Endpoint) : TunnellingClient :=
  { client with
    dataPeer :=
      ⟨[10, 0] ++ (u16Octets endpoint.port ++
        (List.replicate 4 0 ++ (endpoint.address.toList ++ List.replicate 4 0))), 28⟩
    dataPeerValid := true }

/-- Over a stream the connection is the data channel; over UDP a server may name no endpoint. -/
def adoptIpv4DataEndpoint (endpoint : Hpai) :
    TunnellingClient × Expected Unit :=
  if endpoint.protocol ≠ (if client.streamOriented then tcpProtocol else udpProtocol) then
    (client, refuse .unsupportedHpai)
  else if client.streamOriented ∨ routeBack endpoint then
    ({ client with dataPeer := client.peer, dataPeerValid := client.configuredPeerValid }, .ok ())
  else if endpoint.endpoint.port = 0 then (client, refuse .unsupportedHpai)
  else (client.adoptDataPeer endpoint.endpoint, .ok ())

def adoptDataEndpoint (val : Datagram) :
    TunnellingClient × Expected Unit :=
  match val.payload with
  | .connectResponse resp =>
    if resp.status = .noError then client.adoptIpv4DataEndpoint resp.dataEndpoint
    else (client, .ok ())
  | .ipv6ConnectResponse resp =>
    if resp.dataEndpoint.protocol ≠ udpProtocol ∨ resp.dataEndpoint.endpoint.port = 0 then
      (client, refuse .unsupportedHpai)
    else (client.adoptIpv6DataPeer resp.dataEndpoint.endpoint, .ok ())
  | _ => (client, .ok ())

/-! ## Receiving -/

abbrev Reception := Expected (TransportPeer × Octets)

/-- Gives one datagram to the session: from the right peer, of a size the buffer holds, readable. -/
def receiveIntoSession (received : Reception) (nowMs : UInt32) : TunnellingClient × Expected Unit :=
  match received with
  | .error why => (client, .error why)
  | .ok (peer, octets) =>
    if client.peerMatches peer kind = false then (client, refuse .connectionFailed)
    else if octets.length > maxDatagramSize then (client, refuse .invalidLength)
    else
      match decodeDatagram octets with
      | .error why => (client, .error why)
      | .ok val =>
        match client.adoptDataEndpoint val with
        | (adopted, .error why) => (adopted, .error why)
        | (adopted, .ok _) =>
          let (sess, result) := adopted.session.dispatchSessionDatagram val nowMs
          ({ adopted with session := sess }, result)

/-! ## Sending -/

/-- One pass of a sending loop: whether a stop was requested, what became of the packet, what was
received, and the clock when it was. -/
structure Attempt where
  stopRequested : Bool
  sent : Expected Nat
  received : Reception
  nowMs : UInt32
  deriving DecidableEq

/-- One pass of the loop that sends a request. An acknowledgement of something else sends the request
again, a timeout may. -/
def requestPass (pkt : Octets) (client : TunnellingClient) (attempt : Attempt) :
    Pass TunnellingClient (Expected Unit) :=
  if attempt.stopRequested then .done client (refuse .shutdown)
  else
    match client.sendPacket pkt .data attempt.sent with
    | .error why => .done client (.error why)
    | .ok _ =>
      match client.receiveIntoSession .data attempt.received attempt.nowMs with
      | (received, .ok _) => .done received (.ok ())
      | (received, .error why) =>
        if why = .knx .sequenceError then .again received
        else if why ≠ .knx .timeout then .done received (.error why)
        else
          match received.session.onTimeout with
          | (sess, .error why) => .done { received with session := sess } (.error why)
          | (sess, .ok _) => .again { received with session := sess }

/-- Sends a request until a pass ends the loop; the passes it did not need are left over. -/
def retryRequest (pkt : Octets) (attempts : List Attempt) :
    Option (TunnellingClient × Expected Unit × List Attempt) :=
  loop (requestPass pkt) client attempts

/-- What a send checks and prepares before anything is sent: the client with the request
outstanding, and the request. -/
def prepareSend (cemiBytes : Octets) (stopRequested : Bool) (nowMs : UInt32) :
    TunnellingClient × Expected Octets :=
  if stopRequested then (client, refuse .shutdown)
  else if client.operationActive then (client, refuse .sendQueueFull)
  else if cemiBytes.length > Cemi.maxMessageSize then (client, refuse .payloadTooLarge)
  else
    let (sess, prepared) :=
      client.session.prepareRequestPacket maxDatagramSize client.session.channelId.toUInt8
        cemiBytes (nowMs + client.session.config.ackTimeoutMs)
    ({ client with session := sess }, prepared)

def send (cemiBytes : Octets) (stopRequested : Bool) (nowMs : UInt32) (attempts : List Attempt) :
    Option (TunnellingClient × Expected Unit × List Attempt) :=
  match client.prepareSend cemiBytes stopRequested nowMs with
  | (refused, .error why) => some (refused, .error why, attempts)
  | (waiting, .ok pkt) => waiting.retryRequest pkt attempts

/-! ## Heartbeats -/

def heartbeatSize : Nat := communicationHeaderSize + 10

/-- One pass of the heartbeat loop. Whatever the session accepts ends it; what the session answers
with a sequence error sends the request again, and so does a timeout until the session gives up. -/
def heartbeatPass (client : TunnellingClient) (attempt : Attempt) :
    Pass TunnellingClient (Expected Unit) :=
  if attempt.stopRequested then .done client (refuse .shutdown)
  else
    match client.sendPacket pkt .control attempt.sent with
    | .error why => .done client (.error why)
    | .ok _ =>
      match client.receiveIntoSession .control attempt.received attempt.nowMs with
      | (received, .ok _) => .done received (.ok ())
      | (received, .error why) =>
        if why = .knx .sequenceError then .again received
        else if why ≠ .knx .timeout then .done received (.error why)
        else
          match received.session.onConnectionstateTimeout with
          | (sess, .ok _) => .again { received with session := sess }
          | (sess, .error why) =>
            if why ≠ .knx .connectionFailed then
              .done { received with session := sess } (.error why)
            else .again { received with session := sess }

variable (attempts : List Attempt)

def retryHeartbeat : Option (TunnellingClient × Expected Unit × List Attempt) :=
  loop (heartbeatPass pkt) client attempts

def prepareHeartbeat : Expected Octets :=
  if stopRequested then refuse .shutdown
  else if client.operationActive then refuse .sendQueueFull
  else client.session.prepareConnectionstateRequestPacket heartbeatSize

def heartbeat : Option (TunnellingClient × Expected Unit × List Attempt) :=
  match client.prepareHeartbeat stopRequested with
  | .error why => some (client, .error why, attempts)
  | .ok pkt => client.retryHeartbeat pkt attempts

end TunnellingClient

end KmxAio.Knx
