import KmxAio.Knx.Frame

/-!
# KNXnet/IP connection management

The host protocol address information block (HPAI) and the codecs of CONNECT,
CONNECTIONSTATE and DISCONNECT. The tunnelling, IPv6 and device management forms
of CONNECT share a service type and are told apart by their length and their
connection information block.
-/

namespace KmxAio.Knx.Connection

open Lib.Wire Knx.Frame

inductive ConnectStatus where
  | noError
  | hostProtocolType
  | versionNotSupported
  | sequenceNumber
  | connectionId
  | connectionType
  | connectionOption
  | noMoreConnections
  | noMoreUniqueConnections
  | dataConnection
  | knxConnection
  | authorisationError
  | tunnellingLayer
  | noTunnellingAddress
  | connectionInUse
  deriving DecidableEq

def ConnectStatus.toOctet : ConnectStatus → UInt8
  | .noError => 0x00
  | .hostProtocolType => 0x01
  | .versionNotSupported => 0x02
  | .sequenceNumber => 0x04
  | .connectionId => 0x21
  | .connectionType => 0x22
  | .connectionOption => 0x23
  | .noMoreConnections => 0x24
  | .noMoreUniqueConnections => 0x25
  | .dataConnection => 0x26
  | .knxConnection => 0x27
  | .authorisationError => 0x28
  | .tunnellingLayer => 0x29
  | .noTunnellingAddress => 0x2D
  | .connectionInUse => 0x2E

def ConnectStatus.known : List ConnectStatus :=
  [.noError, .hostProtocolType, .versionNotSupported, .sequenceNumber, .connectionId,
    .connectionType, .connectionOption, .noMoreConnections, .noMoreUniqueConnections,
    .dataConnection, .knxConnection, .authorisationError, .tunnellingLayer, .noTunnellingAddress,
    .connectionInUse]

variable (val : UInt8) (source : Octets) (room : Nat) (pkt : Octets) (service : UInt16)

def validStatus : Option ConnectStatus :=
  ConnectStatus.known.find? (fun status => status.toOctet == val)

structure Ipv4Endpoint where
  address : OctetArray 4
  port : UInt16
  deriving DecidableEq

structure Ipv6Endpoint where
  address : OctetArray 16
  port : UInt16
  deriving DecidableEq

structure Hpai where
  endpoint : Ipv4Endpoint
  protocol : UInt8
  deriving DecidableEq

structure Ipv6Hpai where
  endpoint : Ipv6Endpoint
  protocol : UInt8
  deriving DecidableEq

def Hpai.default : Hpai := ⟨⟨zeroArray 4, 0⟩, 0x01⟩

/-- Whether a block asks for answers to go back to where its request came from. -/
def routeBack (val : Hpai) : Bool :=
  val.endpoint.port == 0 && val.endpoint.address.toList.all (· == 0)

def ipv6RouteBack (val : Ipv6Hpai) : Bool :=
  val.endpoint.port == 0 && val.endpoint.address.toList.all (· == 0)

abbrev IndividualAddress := UInt16

structure ConnectRequestFrame where
  controlEndpoint : Hpai
  dataEndpoint : Hpai
  knxLayer : UInt8
  requestedAddress : Option IndividualAddress
  deriving DecidableEq

structure Ipv6ConnectRequestFrame where
  controlEndpoint : Ipv6Hpai
  dataEndpoint : Ipv6Hpai
  deriving DecidableEq

structure ConnectResponseFrame where
  channelId : UInt8
  status : ConnectStatus
  dataEndpoint : Hpai
  assignedAddress : IndividualAddress
  deriving DecidableEq

structure Ipv6ConnectResponseFrame where
  channelId : UInt8
  status : ConnectStatus
  dataEndpoint : Ipv6Hpai
  assignedAddress : IndividualAddress
  deriving DecidableEq

structure ManagementConnectRequestFrame where
  controlEndpoint : Hpai
  dataEndpoint : Hpai
  deriving DecidableEq

structure ManagementConnectResponseFrame where
  channelId : UInt8
  status : ConnectStatus
  dataEndpoint : Hpai
  deriving DecidableEq

structure ControlRequestFrame where
  channelId : UInt8
  controlEndpoint : Hpai
  deriving DecidableEq

structure ControlResponseFrame where
  channelId : UInt8
  status : ConnectStatus
  deriving DecidableEq

def connectRequestService : UInt16 := 0x0205
def connectResponseService : UInt16 := 0x0206
def connectionstateRequestService : UInt16 := 0x0207
def connectionstateResponseService : UInt16 := 0x0208
def disconnectRequestService : UInt16 := 0x0209
def disconnectResponseService : UInt16 := 0x020A

def hpaiSize : Nat := 8
def ipv6HpaiSize : Nat := 20
def udpProtocol : UInt8 := 0x01
def tcpProtocol : UInt8 := 0x02
def tunnelType : UInt8 := 0x04
def managementType : UInt8 := 0x03
def tunnelLinkLayer : UInt8 := 0x02
def tunnelRawLayer : UInt8 := 0x04
def tunnelBusmonitorLayer : UInt8 := 0x80
def tunnelInformationSize : UInt8 := 0x04
def extendedTunnelInformationSize : UInt8 := 0x06
def managementInformationSize : UInt8 := 0x02

def validTunnelLayer : Bool :=
  val == tunnelLinkLayer || val == tunnelRawLayer || val == tunnelBusmonitorLayer

def knownProtocol : Bool := val == udpProtocol || val == tcpProtocol

/-! ## Address blocks -/

def encodeHpai (val : Hpai) : Octets :=
  [8, val.protocol] ++ (val.endpoint.address.toList ++ u16Octets val.endpoint.port)

def encodeIpv6Hpai (val : Ipv6Hpai) : Octets :=
  [20, val.protocol] ++ (val.endpoint.address.toList ++ u16Octets val.endpoint.port)

def decodeIpv6Hpai : Expected Ipv6Hpai :=
  if source.length < ipv6HpaiSize ∨ octetAt source 0 ≠ 20 then refuse .malformedFrame
  else if ¬ knownProtocol (octetAt source 1) then refuse .unsupportedHpai
  else .ok ⟨⟨readArray 16 2 source, readU16 source 18⟩, octetAt source 1⟩

def decodeHpai : Expected Hpai :=
  if source ≠ [] ∧ octetAt source 0 = 20 then refuse .unsupportedHpai
  else if source.length < hpaiSize ∨ octetAt source 0 ≠ 8 then refuse .malformedFrame
  else if ¬ knownProtocol (octetAt source 1) then refuse .unsupportedHpai
  else .ok ⟨⟨readArray 4 2 source, readU16 source 6⟩, octetAt source 1⟩

def subspan (offset count : Nat) : Octets := (source.drop offset).take count

def validHeader (header : CommunicationHeader) (size : Nat) (service : UInt16) : Bool :=
  header.protocolVersion == 0x10 && header.serviceType == service && header.totalLength.toNat == size

def framed (body : Octets) : Octets :=
  headerOctets service (UInt16.ofNat (communicationHeaderSize + body.length)) ++ body

/-! ## Requests and responses of one channel -/

def encodeControlPacket (resp : ControlResponseFrame) : Expected Octets :=
  if room < communicationHeaderSize + 2 then refuse .invalidLength
  else .ok (framed service [resp.channelId, resp.status.toOctet])

def decodeControlPacket : Expected ControlResponseFrame := do
  let header ← decodeCommunicationHeader pkt
  if ¬ validHeader header pkt.length service then refuse .unsupportedService
  else if pkt.length ≠ communicationHeaderSize + 2 then refuse .malformedFrame
  else
    match validStatus (octetAt pkt 7) with
    | none => refuse .malformedFrame
    | some status => .ok ⟨octetAt pkt 6, status⟩

def encodeControlRequestPacket (req : ControlRequestFrame) : Expected Octets :=
  if room < communicationHeaderSize + 10 then refuse .invalidLength
  else if ¬ knownProtocol req.controlEndpoint.protocol then refuse .unsupportedHpai
  else .ok (framed service ([req.channelId, 0x00] ++ encodeHpai req.controlEndpoint))

def decodeControlRequestPacket : Expected ControlRequestFrame := do
  let header ← decodeCommunicationHeader pkt
  if ¬ validHeader header pkt.length service then refuse .unsupportedService
  else if pkt.length ≠ communicationHeaderSize + 10 ∨ octetAt pkt 7 ≠ 0x00 then
    refuse .malformedFrame
  else do
    let control ← decodeHpai (subspan pkt 8 hpaiSize)
    .ok ⟨octetAt pkt 6, control⟩

def encodeConnectionstateRequestPacket := encodeControlRequestPacket room connectionstateRequestService
def decodeConnectionstateRequestPacket := decodeControlRequestPacket pkt connectionstateRequestService
def encodeConnectionstateResponsePacket := encodeControlPacket room connectionstateResponseService
def decodeConnectionstateResponsePacket := decodeControlPacket pkt connectionstateResponseService
def encodeDisconnectRequestPacket := encodeControlRequestPacket room disconnectRequestService
def decodeDisconnectRequestPacket := decodeControlRequestPacket pkt disconnectRequestService
def encodeDisconnectResponsePacket := encodeControlPacket room disconnectResponseService
def decodeDisconnectResponsePacket := decodeControlPacket pkt disconnectResponseService

/-! ## CONNECT -/

def encodeConnectRequestPacket (req : ConnectRequestFrame) : Expected Octets :=
  let extension : Octets :=
    match req.requestedAddress with
    | none => []
    | some address => u16Octets address
  let informationSize :=
    if req.requestedAddress.isSome then extendedTunnelInformationSize else tunnelInformationSize
  if room < communicationHeaderSize + 20 + extension.length then refuse .invalidLength
  else if ¬ knownProtocol req.controlEndpoint.protocol ∨
      req.dataEndpoint.protocol ≠ req.controlEndpoint.protocol then refuse .unsupportedHpai
  else if ¬ validTunnelLayer req.knxLayer then refuse .invalidConfiguration
  else .ok (framed connectRequestService (encodeHpai req.controlEndpoint ++
    (encodeHpai req.dataEndpoint ++
      ([informationSize, tunnelType, req.knxLayer, 0x00] ++ extension))))

def decodeConnectRequestPacket : Expected ConnectRequestFrame := do
  let header ← decodeCommunicationHeader pkt
  let extended : Bool := pkt.length == communicationHeaderSize + 22
  if ¬ validHeader header pkt.length connectRequestService then refuse .unsupportedService
  else if ¬ extended ∧ pkt.length ≠ communicationHeaderSize + 20 then refuse .malformedFrame
  else do
    let control ← decodeHpai (subspan pkt 6 hpaiSize)
    let data ← decodeHpai (subspan pkt 14 hpaiSize)
    let informationSize := if extended then extendedTunnelInformationSize else tunnelInformationSize
    if octetAt pkt 22 ≠ informationSize ∨ octetAt pkt 23 ≠ tunnelType ∨
        ¬ validTunnelLayer (octetAt pkt 24) ∨ octetAt pkt 25 ≠ 0x00 then
      refuse .unsupportedConnectionType
    else .ok ⟨control, data, octetAt pkt 24, if extended then some (readU16 pkt 26) else none⟩

def decodeIpv6ConnectRequestPacket : Expected Ipv6ConnectRequestFrame := do
  let header ← decodeCommunicationHeader pkt
  if ¬ validHeader header pkt.length connectRequestService then refuse .unsupportedService
  else if pkt.length ≠ communicationHeaderSize + 44 then refuse .malformedFrame
  else do
    let control ← decodeIpv6Hpai (subspan pkt 6 ipv6HpaiSize)
    let data ← decodeIpv6Hpai (subspan pkt 26 ipv6HpaiSize)
    if octetAt pkt 46 ≠ tunnelInformationSize ∨ octetAt pkt 47 ≠ tunnelType ∨
        octetAt pkt 48 ≠ tunnelLinkLayer ∨ octetAt pkt 49 ≠ 0x00 then
      refuse .unsupportedConnectionType
    else .ok ⟨control, data⟩

def encodeConnectResponsePacket (resp : ConnectResponseFrame) : Expected Octets :=
  if room < communicationHeaderSize + 14 then refuse .invalidLength
  else if ¬ knownProtocol resp.dataEndpoint.protocol then refuse .unsupportedHpai
  else .ok (framed connectResponseService ([resp.channelId, resp.status.toOctet] ++
    (encodeHpai resp.dataEndpoint ++
      ([tunnelInformationSize, tunnelType] ++ u16Octets resp.assignedAddress))))

/-- The eight-octet form a server refuses a connection with: a channel and an error status. -/
def decodeShortConnectResponse : Expected ControlResponseFrame :=
  match validStatus (octetAt pkt 7) with
  | none => refuse .malformedFrame
  | some .noError => refuse .malformedFrame
  | some status => .ok ⟨octetAt pkt 6, status⟩

def decodeConnectResponsePacket : Expected ConnectResponseFrame := do
  let header ← decodeCommunicationHeader pkt
  if ¬ validHeader header pkt.length connectResponseService then refuse .unsupportedService
  else if pkt.length = communicationHeaderSize + 2 then do
    let refusal ← decodeShortConnectResponse pkt
    .ok ⟨refusal.channelId, refusal.status, Hpai.default, 0⟩
  else if pkt.length ≠ communicationHeaderSize + 14 then refuse .malformedFrame
  else do
    let data ← decodeHpai (subspan pkt 8 hpaiSize)
    if octetAt pkt 16 ≠ tunnelInformationSize ∨ octetAt pkt 17 ≠ tunnelType then
      refuse .unsupportedConnectionType
    else
      match validStatus (octetAt pkt 7) with
      | none => refuse .malformedFrame
      | some status => .ok ⟨octetAt pkt 6, status, data, readU16 pkt 18⟩

def encodeIpv6ConnectResponsePacket (resp : Ipv6ConnectResponseFrame) : Expected Octets :=
  if room < communicationHeaderSize + 26 then refuse .invalidLength
  else if resp.dataEndpoint.protocol ≠ udpProtocol then refuse .unsupportedHpai
  else .ok (framed connectResponseService ([resp.channelId, resp.status.toOctet] ++
    (encodeIpv6Hpai resp.dataEndpoint ++
      ([tunnelInformationSize, tunnelType] ++ u16Octets resp.assignedAddress))))

def decodeIpv6ConnectResponsePacket : Expected Ipv6ConnectResponseFrame := do
  let header ← decodeCommunicationHeader pkt
  if ¬ validHeader header pkt.length connectResponseService then refuse .unsupportedService
  else if pkt.length ≠ communicationHeaderSize + 26 then refuse .malformedFrame
  else do
    let data ← decodeIpv6Hpai (subspan pkt 8 ipv6HpaiSize)
    if octetAt pkt 28 ≠ tunnelInformationSize ∨ octetAt pkt 29 ≠ tunnelType then
      refuse .unsupportedConnectionType
    else
      match validStatus (octetAt pkt 7) with
      | none => refuse .malformedFrame
      | some status => .ok ⟨octetAt pkt 6, status, data, readU16 pkt 30⟩

def decodeManagementConnectRequestPacket : Expected ManagementConnectRequestFrame := do
  let header ← decodeCommunicationHeader pkt
  if ¬ validHeader header pkt.length connectRequestService then refuse .unsupportedService
  else if pkt.length ≠ communicationHeaderSize + 18 then refuse .malformedFrame
  else do
    let control ← decodeHpai (subspan pkt 6 hpaiSize)
    let data ← decodeHpai (subspan pkt 14 hpaiSize)
    if octetAt pkt 22 ≠ managementInformationSize ∨ octetAt pkt 23 ≠ managementType then
      refuse .unsupportedConnectionType
    else .ok ⟨control, data⟩

def decodeManagementConnectResponsePacket : Expected ManagementConnectResponseFrame := do
  let header ← decodeCommunicationHeader pkt
  if ¬ validHeader header pkt.length connectResponseService then refuse .unsupportedService
  else if pkt.length = communicationHeaderSize + 2 then do
    let refusal ← decodeShortConnectResponse pkt
    .ok ⟨refusal.channelId, refusal.status, Hpai.default⟩
  else if pkt.length ≠ communicationHeaderSize + 12 then refuse .malformedFrame
  else
    match validStatus (octetAt pkt 7) with
    | none => refuse .malformedFrame
    | some status => do
        let data ← decodeHpai (subspan pkt 8 hpaiSize)
        if octetAt pkt 16 ≠ managementInformationSize ∨ octetAt pkt 17 ≠ managementType then
          refuse .unsupportedConnectionType
        else .ok ⟨octetAt pkt 6, status, data⟩

end KmxAio.Knx.Connection
