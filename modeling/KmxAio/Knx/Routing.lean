import KmxAio.Knx.Tunnelling

/-!
# KNXnet/IP routing frames

ROUTING_INDICATION carries a cEMI message right after the header; ROUTING_BUSY and
ROUTING_LOST_MESSAGE carry one information block whose first octet is its size.
-/

namespace KmxAio.Knx.Routing

open Lib.Wire Knx.Frame Cemi

def indicationService : UInt16 := 0x0530
def lostMessageService : UInt16 := 0x0531
def busyService : UInt16 := 0x0532
def lostMessageBodySize : Nat := 4
def busyBodySize : Nat := 6

structure Indication where
  cemiBytes : Octets
  cemi : CemiFrame
  deriving DecidableEq

structure LostMessage where
  deviceState : UInt8
  count : UInt16
  deriving DecidableEq

structure Busy where
  deviceState : UInt8
  waitTimeMs : UInt16
  controlField : UInt16
  deriving DecidableEq

variable (room : Nat) (pkt : Octets)

def validateControlPacket (service : UInt16) (bodySize : Nat) : Expected Unit := do
  let header ← decodeCommunicationHeader pkt
  if header.serviceType ≠ service then refuse .unsupportedService
  else if header.totalLength.toNat ≠ pkt.length ∨
      pkt.length ≠ communicationHeaderSize + bodySize then refuse .malformedFrame
  else if (octetAt pkt communicationHeaderSize).toNat ≠ bodySize then refuse .malformedFrame
  else return ()

/-- Only the octets of an indication are written; its decoded view is not. -/
def encodeIndicationPacket (cemiBytes : Octets) : Expected Octets :=
  if cemiBytes.isEmpty then refuse .invalidConfiguration
  else
    let totalLength := communicationHeaderSize + cemiBytes.length
    if totalLength > maxTotalLength ∨ room < totalLength then refuse .invalidLength
    else .ok (headerOctets indicationService (UInt16.ofNat totalLength) ++ cemiBytes)

def decodeIndicationPacket : Expected Indication := do
  let header ← decodeCommunicationHeader pkt
  if header.serviceType ≠ indicationService ∨ header.totalLength.toNat ≠ pkt.length then
    refuse .unsupportedService
  else if pkt.length < communicationHeaderSize + cemiMinSize then refuse .malformedFrame
  else
    let cemiBytes := pkt.drop communicationHeaderSize
    let cemi ← Cemi.decode cemiBytes
    return ⟨cemiBytes, cemi⟩

def encodeLostMessagePacket (val : LostMessage) : Expected Octets :=
  if room < communicationHeaderSize + lostMessageBodySize then refuse .invalidLength
  else
    .ok (headerOctets lostMessageService 10 ++ ([0x04, val.deviceState] ++ u16Octets val.count))

def decodeLostMessagePacket : Expected LostMessage := do
  validateControlPacket pkt lostMessageService lostMessageBodySize
  return ⟨octetAt pkt 7, readU16 pkt 8⟩

def encodeBusyPacket (val : Busy) : Expected Octets :=
  if room < communicationHeaderSize + busyBodySize then refuse .invalidLength
  else
    .ok (headerOctets busyService 12 ++
      ([0x06, val.deviceState] ++ (u16Octets val.waitTimeMs ++ u16Octets val.controlField)))

def decodeBusyPacket : Expected Busy := do
  validateControlPacket pkt busyService busyBodySize
  return ⟨octetAt pkt 7, readU16 pkt 8, readU16 pkt 10⟩

end KmxAio.Knx.Routing
