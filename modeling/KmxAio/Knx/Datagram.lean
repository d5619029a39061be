import KmxAio.Knx.Discovery
import KmxAio.Knx.Routing
import KmxAio.Knx.Secure.Session
import KmxAio.Knx.Secure.TimerNotify

/-!
# KNXnet/IP datagrams

Decoding by service type: the header of a datagram names its service, and the
service selects the decoder of its body. Forms that share a service type are told
apart by the length of the datagram.
-/

namespace KmxAio.Knx

open Lib.Wire Knx.Frame Connection Secure Discovery

/-- One alternative for each frame type a datagram may carry. -/
inductive DatagramPayload where
  | searchRequest (frame : SearchRequestFrame)
  | ipv6SearchRequest (frame : Ipv6SearchRequestFrame)
  | searchResponse (frame : SearchResponseFrame)
  | ipv6SearchResponse (frame : Ipv6SearchResponseFrame)
  | descriptionRequest (frame : DescriptionRequestFrame)
  | descriptionResponse (frame : DescriptionResponseFrame)
  | extendedSearchRequest (frame : ExtendedSearchRequestFrame)
  | extendedSearchResponse (frame : SearchResponseFrame)
  | connectRequest (frame : ConnectRequestFrame)
  | ipv6ConnectRequest (frame : Ipv6ConnectRequestFrame)
  | managementConnectRequest (frame : ManagementConnectRequestFrame)
  | connectResponse (frame : ConnectResponseFrame)
  | ipv6ConnectResponse (frame : Ipv6ConnectResponseFrame)
  | managementConnectResponse (frame : ManagementConnectResponseFrame)
  | connectionstateRequest (frame : ControlRequestFrame)
  | connectionstateResponse (frame : ControlResponseFrame)
  | disconnectRequest (frame : ControlRequestFrame)
  | disconnectResponse (frame : ControlResponseFrame)
  | routingIndication (frame : Routing.Indication)
  | routingLostMessage (frame : Routing.LostMessage)
  | routingBusy (frame : Routing.Busy)
  | tunnellingRequest (frame : TunnellingRequestFrame)
  | tunnellingAck (frame : TunnellingAckFrame)
  | deviceConfiguration (frame : DeviceConfigurationFrame)
  | tunnellingFeature (frame : TunnellingFeatureFrame)
  | secureWrapper (frame : WrapperFrame)
  | sessionRequest (frame : SessionRequestFrame)
  | sessionResponse (frame : SessionResponseFrame)
  | sessionAuthenticate (frame : SessionAuthenticateFrame)
  | sessionStatus (status : SessionStatus)
  | timerNotify (frame : TimerNotifyFrame)
  deriving DecidableEq

structure Datagram where
  serviceType : UInt16
  payload : DatagramPayload
  deriving DecidableEq

def asDatagram {α : Type} (service : UInt16) (payload : α → DatagramPayload)
    (decoded : Expected α) : Expected Datagram :=
  decoded.map (fun frame => ⟨service, payload frame⟩)

def decodedOr (attempt fallback : Expected Datagram) : Expected Datagram :=
  match attempt with
  | .ok val => .ok val
  | .error _ => fallback

variable (service : UInt16) (pkt : Octets) (totalLength : Nat)

def decodeConnectRequest : Expected Datagram :=
  let tunnelling := asDatagram service .connectRequest (decodeConnectRequestPacket pkt)
  if totalLength = communicationHeaderSize + 44 then
    asDatagram service .ipv6ConnectRequest (decodeIpv6ConnectRequestPacket pkt)
  else if totalLength = communicationHeaderSize + 18 then
    decodedOr
      (asDatagram service .managementConnectRequest (decodeManagementConnectRequestPacket pkt))
      tunnelling
  else tunnelling

def decodeConnectResponse : Expected Datagram :=
  let tunnelling := asDatagram service .connectResponse (decodeConnectResponsePacket pkt)
  if totalLength = communicationHeaderSize + 26 then
    asDatagram service .ipv6ConnectResponse (decodeIpv6ConnectResponsePacket pkt)
  else if totalLength = communicationHeaderSize + 12 then
    decodedOr
      (asDatagram service .managementConnectResponse (decodeManagementConnectResponsePacket pkt))
      tunnelling
  else tunnelling

def decodeSearchRequest : Expected Datagram :=
  if totalLength = communicationHeaderSize + ipv6HpaiSize then
    asDatagram service .ipv6SearchRequest (decodeIpv6SearchRequestPacket pkt)
  else asDatagram service .searchRequest (decodeSearchRequestPacket pkt)

def decodeSearchResponse : Expected Datagram :=
  let ipv4 := asDatagram service .searchResponse (decodeSearchResponsePacket pkt)
  if totalLength ≥ communicationHeaderSize + ipv6HpaiSize + 2 then
    decodedOr
      (asDatagram service .ipv6SearchResponse (decodeIpv6SearchResponsePacket pkt)) ipv4
  else ipv4

def decodeService : Option (Expected Datagram) :=
  match service with
  | 0x0201 => some (decodeSearchRequest service pkt totalLength)
  | 0x0202 => some (decodeSearchResponse service pkt totalLength)
  | 0x020B =>
    some (asDatagram service .extendedSearchRequest (decodeExtendedSearchRequestPacket pkt))
  | 0x020C =>
    some (asDatagram service .extendedSearchResponse (decodeExtendedSearchResponsePacket pkt))
  | 0x0203 =>
    some (asDatagram service .descriptionRequest (decodeDescriptionRequestPacket pkt))
  | 0x0204 =>
    some (asDatagram service .descriptionResponse (decodeDescriptionResponsePacket pkt))
  | 0x0205 => some (decodeConnectRequest service pkt totalLength)
  | 0x0206 => some (decodeConnectResponse service pkt totalLength)
  | 0x0207 =>
    some (asDatagram service .connectionstateRequest (decodeConnectionstateRequestPacket pkt))
  | 0x0208 =>
    some (asDatagram service .connectionstateResponse (decodeConnectionstateResponsePacket pkt))
  | 0x0209 => some (asDatagram service .disconnectRequest (decodeDisconnectRequestPacket pkt))
  | 0x020A => some (asDatagram service .disconnectResponse (decodeDisconnectResponsePacket pkt))
  | 0x0420 => some (asDatagram service .tunnellingRequest (decodeTunnellingRequestPacket pkt))
  | 0x0421 => some (asDatagram service .tunnellingAck (decodeTunnellingAckPacket pkt))
  | 0x0310 =>
    some (asDatagram service .deviceConfiguration (decodeDeviceConfigurationRequestPacket pkt))
  | 0x0311 => some (asDatagram service .tunnellingAck (decodeDeviceConfigurationAckPacket pkt))
  | 0x0422 => some (asDatagram service .tunnellingFeature (decodeTunnellingFeaturePacket pkt))
  | 0x0423 => some (asDatagram service .tunnellingFeature (decodeTunnellingFeaturePacket pkt))
  | 0x0424 => some (asDatagram service .tunnellingFeature (decodeTunnellingFeaturePacket pkt))
  | 0x0425 => some (asDatagram service .tunnellingFeature (decodeTunnellingFeaturePacket pkt))
  | 0x0530 => some (asDatagram service .routingIndication (Routing.decodeIndicationPacket pkt))
  | 0x0531 => some (asDatagram service .routingLostMessage (Routing.decodeLostMessagePacket pkt))
  | 0x0532 => some (asDatagram service .routingBusy (Routing.decodeBusyPacket pkt))
  | 0x0950 => some (asDatagram service .secureWrapper (decodeWrapperPacket pkt))
  | 0x0951 => some (asDatagram service .sessionRequest (decodeSessionRequestPacket pkt))
  | 0x0952 => some (asDatagram service .sessionResponse (decodeSessionResponsePacket pkt))
  | 0x0953 =>
    some (asDatagram service .sessionAuthenticate (decodeSessionAuthenticatePacket pkt))
  | 0x0954 => some (asDatagram service .sessionStatus (decodeSessionStatusPacket pkt))
  | 0x0955 => some (asDatagram service .timerNotify (decodeTimerNotifyPacket pkt))
  | _ => none

def decodeDatagram : Expected Datagram :=
  match decodeCommunicationHeader pkt with
  | .error why => .error why
  | .ok header =>
    if header.protocolVersion ≠ 0x10 then refuse .unsupportedService
    else if header.totalLength.toNat ≠ pkt.length then refuse .malformedFrame
    else
      (decodeService header.serviceType pkt header.totalLength.toNat).getD
        (refuse .unsupportedService)

/-- The answer a request of a channel gets, with a status that need not be one the codec knows. -/
def encodeResponseDatagram (room : Nat) (req : Datagram) (status : UInt8) :
    Expected Octets :=
  match req.payload with
  | .tunnellingRequest tunnel =>
    if req.serviceType ≠ tunnellingRequestService then refuse .invalidConfiguration
    else encodeTunnellingAckPacket room tunnel.channelId tunnel.sequenceNumber status
  | .connectionstateRequest heartbeat =>
    if req.serviceType ≠ connectionstateRequestService then refuse .invalidConfiguration
    else
      match validStatus status with
      | none => refuse .invalidConfiguration
      | some known =>
        encodeConnectionstateResponsePacket room ⟨heartbeat.channelId, known⟩
  | .disconnectRequest disconnect =>
    if req.serviceType ≠ disconnectRequestService then refuse .invalidConfiguration
    else
      match validStatus status with
      | none => refuse .invalidConfiguration
      | some known => encodeDisconnectResponsePacket room ⟨disconnect.channelId, known⟩
  | _ => refuse .unsupportedService

theorem decodeDatagram_encodedRequest {room : Nat} {chan sequenceNumber : UInt8}
    {cemiBytes pkt : Octets}
    (encoded : encodeTunnellingRequestPacket room chan sequenceNumber cemiBytes = .ok pkt) :
    decodeDatagram pkt =
      asDatagram tunnellingRequestService .tunnellingRequest
        (decodeTunnellingRequestPacket pkt) := by
  obtain ⟨totalLength, whole, large, octets⟩ := encodeTunnellingRequestPacket_octets encoded
  have header := decodeCommunicationHeader_headerOctets tunnellingRequestService totalLength
    (connectionHeader chan sequenceNumber 0x00 ++ cemiBytes) large
  rw [← octets] at header
  simp [decodeDatagram, header, whole, decodeService, tunnellingRequestService]

theorem decodeDatagram_encodedAck {room : Nat} {chan sequenceNumber status : UInt8} {pkt : Octets}
    (encoded : encodeTunnellingAckPacket room chan sequenceNumber status = .ok pkt) :
    decodeDatagram pkt =
      .ok ⟨tunnellingAckService, .tunnellingAck ⟨chan, sequenceNumber, status⟩⟩ := by
  obtain ⟨named, octets⟩ := encodeTunnellingAckPacket_octets encoded
  have header := decodeCommunicationHeader_headerOctets tunnellingAckService 10
    (connectionHeader chan sequenceNumber status) (by decide)
  rw [← octets] at header
  have whole : pkt.length = 10 := by simp [octets, connectionHeader]
  simp [decodeDatagram, header, whole, decodeService, tunnellingAckService, asDatagram,
    decodeTunnellingAckPacket_encoded encoded, Except.map]

end KmxAio.Knx
