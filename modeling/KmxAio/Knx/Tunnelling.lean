import KmxAio.Knx.Cemi
import KmxAio.Knx.Connection

/-!
# KNXnet/IP tunnelling frames

TUNNELLING_REQUEST and TUNNELLING_ACK, the device configuration services, and the
tunnelling feature services. Each starts with a connection header of four octets:
its size, the channel, the sequence number, and a status or a reserved zero.
-/

namespace KmxAio.Knx.Frame

open Lib.Wire Cemi Connection

structure TunnellingRequestFrame where
  channelId : UInt8
  sequenceNumber : UInt8
  messageLength : UInt16
  cemi : CemiFrame
  cemiBytes : Octets
  deriving DecidableEq

structure DeviceConfigurationFrame where
  channelId : UInt8
  sequenceNumber : UInt8
  messageLength : UInt16
  cemiBytes : Octets
  deriving DecidableEq

inductive TunnellingFeature where
  | supportedEmiType
  | hostDeviceDescriptor
  | busConnectionStatus
  | manufacturerCode
  | activeEmiType
  | individualAddress
  | maxApduLength
  | infoServiceEnable
  deriving DecidableEq

def TunnellingFeature.toOctet : TunnellingFeature → UInt8
  | .supportedEmiType => 0x01
  | .hostDeviceDescriptor => 0x02
  | .busConnectionStatus => 0x03
  | .manufacturerCode => 0x04
  | .activeEmiType => 0x05
  | .individualAddress => 0x06
  | .maxApduLength => 0x07
  | .infoServiceEnable => 0x08

def validFeature (val : UInt8) : Option TunnellingFeature :=
  [.supportedEmiType, .hostDeviceDescriptor, .busConnectionStatus, .manufacturerCode,
    .activeEmiType, .individualAddress, .maxApduLength, .infoServiceEnable].find?
    (fun feature => feature.toOctet == val)

structure TunnellingFeatureFrame where
  serviceType : UInt16
  channelId : UInt8
  sequenceNumber : UInt8
  feature : TunnellingFeature
  returnCode : UInt8
  value : Octets
  deriving DecidableEq

structure TunnellingAckFrame where
  channelId : UInt8
  sequenceNumber : UInt8
  status : UInt8
  deriving DecidableEq

def tunnellingRequestService : UInt16 := 0x0420
def tunnellingAckService : UInt16 := 0x0421
def deviceConfigurationRequestService : UInt16 := 0x0310
def deviceConfigurationAckService : UInt16 := 0x0311
def tunnellingFeatureGetService : UInt16 := 0x0422
def tunnellingFeatureResponseService : UInt16 := 0x0423
def tunnellingFeatureSetService : UInt16 := 0x0424
def tunnellingFeatureInfoService : UInt16 := 0x0425
def cemiMinSize : Nat := minLDataSize
def cemiMaxSize : Nat := maxMessageSize
def tunnellingRequestHeaderSize : Nat := 4
def tunnellingAckSize : Nat := 4
def tunnellingFeatureHeaderSize : Nat := 2
def tunnellingFeatureValueCapacity : Nat := 16

def connectionHeader (chan sequenceNumber trailing : UInt8) : Octets :=
  [0x04, chan, sequenceNumber, trailing]

/-! ## TUNNELLING_REQUEST and TUNNELLING_ACK -/

def encodeTunnellingRequestPacket (room : Nat) (chan sequenceNumber : UInt8)
    (cemiBytes : Octets) : Expected Octets :=
  let totalLength :=
    communicationHeaderSize + (tunnellingRequestHeaderSize + cemiBytes.length)
  if totalLength > maxTotalLength ∨ room < totalLength then refuse .invalidLength
  else if chan = 0 then refuse .invalidConfiguration
  else if cemiBytes.length < cemiMinSize then refuse .malformedFrame
  else
    .ok (headerOctets tunnellingRequestService (UInt16.ofNat totalLength) ++
      (connectionHeader chan sequenceNumber 0x00 ++ cemiBytes))

def encodeTunnellingAckPacket (room : Nat) (chan sequenceNumber status : UInt8) :
    Expected Octets :=
  if chan = 0 then refuse .invalidConfiguration
  else if room < communicationHeaderSize + tunnellingAckSize then refuse .invalidLength
  else
    .ok (headerOctets tunnellingAckService 10 ++ connectionHeader chan sequenceNumber status)

variable (buf : Octets)

def tunnellingCemiSpan : Expected Octets :=
  let messageLength := buf.length - tunnellingRequestHeaderSize
  if messageLength < cemiMinSize then refuse .malformedFrame
  else if messageLength > cemiMaxSize then refuse .invalidLength
  else .ok (buf.drop tunnellingRequestHeaderSize)

def decodeTunnellingRequest : Expected TunnellingRequestFrame := do
  if buf.length < tunnellingRequestHeaderSize then refuse .malformedFrame
  else if octetAt buf 0 ≠ 0x04 then refuse .malformedFrame
  else if octetAt buf 1 = 0 then refuse .malformedFrame
  else if octetAt buf 3 ≠ 0 then refuse .malformedFrame
  else
    let cemiSpan ← tunnellingCemiSpan buf
    let cemi ← Cemi.decode cemiSpan
    return ⟨octetAt buf 1, octetAt buf 2, UInt16.ofNat cemiSpan.length, cemi, cemiSpan⟩

def decodeTunnellingAck : Expected TunnellingAckFrame :=
  if buf.length ≠ tunnellingAckSize then refuse .malformedFrame
  else if octetAt buf 0 ≠ 0x04 then refuse .malformedFrame
  else if octetAt buf 1 = 0 then refuse .malformedFrame
  else .ok ⟨octetAt buf 1, octetAt buf 2, octetAt buf 3⟩

def decodeTunnellingRequestPacket : Expected TunnellingRequestFrame := do
  let header ← decodeCommunicationHeader buf
  if header.protocolVersion ≠ 0x10 then refuse .unsupportedService
  else if header.serviceType ≠ tunnellingRequestService then refuse .unsupportedService
  else if header.totalLength.toNat ≠ buf.length then refuse .malformedFrame
  else decodeTunnellingRequest (buf.drop communicationHeaderSize)

def decodeTunnellingAckPacket : Expected TunnellingAckFrame := do
  let header ← decodeCommunicationHeader buf
  if header.protocolVersion ≠ 0x10 then refuse .unsupportedService
  else if header.serviceType ≠ tunnellingAckService then refuse .unsupportedService
  else if header.totalLength.toNat ≠ buf.length ∨
      buf.length ≠ communicationHeaderSize + tunnellingAckSize then refuse .malformedFrame
  else decodeTunnellingAck (subspan buf communicationHeaderSize tunnellingAckSize)

variable {room : Nat} {chan sequenceNumber : UInt8} {cemiBytes pkt : Octets}

section

variable
  (encoded : encodeTunnellingRequestPacket room chan sequenceNumber cemiBytes = .ok pkt)

include encoded

theorem encodeTunnellingRequestPacket_octets :
    ∃ totalLength : UInt16, totalLength.toNat = pkt.length ∧
      communicationHeaderSize ≤ totalLength.toNat ∧
      pkt = headerOctets tunnellingRequestService totalLength ++
        (connectionHeader chan sequenceNumber 0x00 ++ cemiBytes) := by
  unfold encodeTunnellingRequestPacket at encoded
  dsimp only at encoded
  split at encoded
  · cases encoded
  rename_i fits
  split at encoded
  · cases encoded
  split at encoded
  · cases encoded
  · cases encoded
    simp only [communicationHeaderSize, tunnellingRequestHeaderSize, maxTotalLength,
      not_or, not_lt] at fits
    refine ⟨_, ?_, ?_, rfl⟩ <;>
      simp [communicationHeaderSize, tunnellingRequestHeaderSize, connectionHeader] <;> omega

theorem encodeTunnellingRequestPacket_carries : cemiBytes ≠ [] := by
  rintro rfl
  unfold encodeTunnellingRequestPacket at encoded
  dsimp only at encoded
  split at encoded
  · cases encoded
  split at encoded <;> cases encoded

theorem encodeTunnellingRequestPacket_named : chan ≠ 0 := by
  unfold encodeTunnellingRequestPacket at encoded
  dsimp only at encoded
  split at encoded
  · cases encoded
  split at encoded
  · cases encoded
  · rename_i named
    exact named

end

theorem encodeTunnellingAckPacket_octets {status : UInt8}
    (encoded : encodeTunnellingAckPacket room chan sequenceNumber status = .ok pkt) :
    chan ≠ 0 ∧
      pkt = headerOctets tunnellingAckService 10 ++
        connectionHeader chan sequenceNumber status := by
  unfold encodeTunnellingAckPacket at encoded
  split at encoded
  · cases encoded
  rename_i named
  split at encoded
  · cases encoded
  · exact ⟨named, by cases encoded; rfl⟩

theorem decodeTunnellingRequestPacket_encoded {frame : TunnellingRequestFrame}
    (encoded : encodeTunnellingRequestPacket room chan sequenceNumber cemiBytes =
      .ok pkt) (decoded : decodeTunnellingRequestPacket pkt = .ok frame) :
    frame.channelId = chan ∧ frame.sequenceNumber = sequenceNumber ∧
      frame.cemiBytes = cemiBytes := by
  obtain ⟨totalLength, -, large, rfl⟩ := encodeTunnellingRequestPacket_octets encoded
  obtain ⟨header, -, decoded⟩ := bind_ok decoded
  split at decoded
  · cases decoded
  split at decoded
  · cases decoded
  split at decoded
  · cases decoded
  unfold decodeTunnellingRequest at decoded
  split at decoded
  · cases decoded
  split at decoded
  · cases decoded
  split at decoded
  · cases decoded
  split at decoded
  · cases decoded
  obtain ⟨cemiSpan, spanned, decoded⟩ := bind_ok decoded
  obtain ⟨cemi, -, decoded⟩ := bind_ok decoded
  cases decoded
  refine ⟨rfl, rfl, ?_⟩
  unfold tunnellingCemiSpan at spanned
  dsimp only at spanned
  split at spanned
  · cases spanned
  split at spanned
  · cases spanned
  · cases spanned
    rfl

theorem decodeTunnellingAckPacket_encoded {status : UInt8}
    (encoded : encodeTunnellingAckPacket room chan sequenceNumber status = .ok pkt) :
    decodeTunnellingAckPacket pkt = .ok ⟨chan, sequenceNumber, status⟩ := by
  obtain ⟨named, rfl⟩ := encodeTunnellingAckPacket_octets encoded
  have header := decodeCommunicationHeader_headerOctets tunnellingAckService 10
    (connectionHeader chan sequenceNumber status) (by decide)
  have body : subspan (headerOctets tunnellingAckService 10 ++
      connectionHeader chan sequenceNumber status) communicationHeaderSize tunnellingAckSize =
        connectionHeader chan sequenceNumber status := by
    rfl
  simp only [decodeTunnellingAckPacket, header, body]
  simp [decodeTunnellingAck, connectionHeader, octetAt, named, tunnellingAckSize,
    communicationHeaderSize, bind, Except.bind]

/-! ## Device configuration -/

def decodeConnectionHeader (expectReservedZero : Bool) : Expected TunnellingAckFrame :=
  if buf.length < tunnellingRequestHeaderSize then refuse .malformedFrame
  else if octetAt buf 0 ≠ 0x04 then refuse .malformedFrame
  else if octetAt buf 1 = 0 then refuse .malformedFrame
  else if expectReservedZero ∧ octetAt buf 3 ≠ 0 then refuse .malformedFrame
  else .ok ⟨octetAt buf 1, octetAt buf 2, octetAt buf 3⟩

def decodeDeviceConfigurationRequestPacket : Expected DeviceConfigurationFrame := do
  let header ← decodeCommunicationHeader buf
  if header.serviceType ≠ deviceConfigurationRequestService then refuse .unsupportedService
  else if header.totalLength.toNat ≠ buf.length then refuse .malformedFrame
  else
    let body := buf.drop communicationHeaderSize
    let conn ← decodeConnectionHeader body true
    let messageLength := body.length - tunnellingRequestHeaderSize
    if messageLength = 0 ∨ messageLength > cemiMaxSize then refuse .invalidLength
    else
      return ⟨conn.channelId, conn.sequenceNumber, UInt16.ofNat messageLength,
        body.drop tunnellingRequestHeaderSize⟩

def decodeDeviceConfigurationAckPacket : Expected TunnellingAckFrame := do
  let header ← decodeCommunicationHeader buf
  if header.serviceType ≠ deviceConfigurationAckService then refuse .unsupportedService
  else if header.totalLength.toNat ≠ buf.length ∨
      buf.length ≠ communicationHeaderSize + tunnellingAckSize then refuse .malformedFrame
  else decodeConnectionHeader (buf.drop communicationHeaderSize) false

/-! ## Tunnelling features -/

def isTunnellingFeatureService (val : UInt16) : Bool :=
  val == tunnellingFeatureGetService || val == tunnellingFeatureResponseService ||
    val == tunnellingFeatureSetService || val == tunnellingFeatureInfoService

/-- A get carries no value, a set and an info carry one, a response only when it succeeded. -/
def featureServiceCarriesValue (service : UInt16) (returnCode : UInt8) : Bool :=
  if service = tunnellingFeatureSetService ∨ service = tunnellingFeatureInfoService then true
  else if service = tunnellingFeatureResponseService then returnCode == 0
  else false

def decodeFeaturePrologue (header : CommunicationHeader) : Expected TunnellingFeatureFrame := do
  let conn ← decodeConnectionHeader (buf.drop communicationHeaderSize) true
  let body := communicationHeaderSize + tunnellingRequestHeaderSize
  match validFeature (octetAt buf body) with
  | none => refuse .unsupportedService
  | some feature =>
    let isResponse := header.serviceType == tunnellingFeatureResponseService
    if isResponse = false ∧ octetAt buf (body + 1) ≠ 0 then refuse .malformedFrame
    else
      return ⟨header.serviceType, conn.channelId, conn.sequenceNumber, feature,
        if isResponse then octetAt buf (body + 1) else 0, []⟩

def decodeFeatureValue (minimum : Nat) (decoded : TunnellingFeatureFrame) :
    Expected TunnellingFeatureFrame :=
  let valueSize := buf.length - minimum
  if valueSize > tunnellingFeatureValueCapacity then refuse .invalidLength
  else if featureServiceCarriesValue decoded.serviceType decoded.returnCode ≠ (valueSize != 0) then
    refuse .malformedFrame
  else .ok { decoded with value := buf.drop minimum }

def decodeTunnellingFeaturePacket : Expected TunnellingFeatureFrame := do
  let header ← decodeCommunicationHeader buf
  if isTunnellingFeatureService header.serviceType = false then refuse .unsupportedService
  else if header.totalLength.toNat ≠ buf.length then refuse .malformedFrame
  else
    let minimum :=
      communicationHeaderSize + tunnellingRequestHeaderSize + tunnellingFeatureHeaderSize
    if buf.length < minimum then refuse .malformedFrame
    else
      let decoded ← decodeFeaturePrologue buf header
      decodeFeatureValue buf minimum decoded

end KmxAio.Knx.Frame
