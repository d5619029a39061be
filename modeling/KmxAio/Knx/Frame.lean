import KmxAio.Knx.Error
import KmxAio.Lib.Wire

/-!
# The KNXnet/IP communication header

Every KNXnet/IP frame starts with six octets: the header's own size, the
protocol version, the service type and the frame's total length.
-/

namespace KmxAio.Knx.Frame

open Lib.Wire

def communicationHeaderSize : Nat := 6
def maxTotalLength : Nat := 0xFFFF
def maxDatagramSize : Nat := 1472

structure CommunicationHeader where
  protocolVersion : UInt8
  serviceType : UInt16
  totalLength : UInt16
  deriving DecidableEq

def decodeCommunicationHeader (buf : Octets) : Expected CommunicationHeader :=
  if buf.length < communicationHeaderSize then refuse .malformedFrame
  else if octetAt buf 0 ≠ 6 then refuse .malformedFrame
  else if octetAt buf 1 ≠ 0x10 then refuse .unsupportedService
  else
    let header : CommunicationHeader :=
      { protocolVersion := octetAt buf 1
        serviceType := readU16 buf 2
        totalLength := readU16 buf 4 }
    if header.totalLength.toNat < communicationHeaderSize then refuse .malformedFrame
    else .ok header

def headerOctets (serviceType totalLength : UInt16) : Octets :=
  [6, 0x10] ++ (u16Octets serviceType ++ u16Octets totalLength)

variable (serviceType totalLength : UInt16)

@[simp] theorem headerOctets_length : (headerOctets serviceType totalLength).length = 6 := by
  simp [headerOctets]

theorem decodeCommunicationHeader_headerOctets (body : Octets)
    (large : communicationHeaderSize ≤ totalLength.toNat) :
    decodeCommunicationHeader (headerOctets serviceType totalLength ++ body) =
      .ok ⟨0x10, serviceType, totalLength⟩ := by
  have size : ¬ (headerOctets serviceType totalLength ++ body).length < communicationHeaderSize := by
    simp [communicationHeaderSize]
  have service : readU16 (headerOctets serviceType totalLength ++ body) 2 = serviceType := by
    rw [headerOctets, List.append_assoc, List.append_assoc, readU16_append_right _ _ (by simp)]
    exact readU16_append_left serviceType _
  have length : readU16 (headerOctets serviceType totalLength ++ body) 4 = totalLength := by
    rw [headerOctets, ← List.append_assoc, List.append_assoc,
      readU16_append_right _ _ (by simp), List.length_append, u16Octets_length]
    exact readU16_append_left totalLength _
  have first : octetAt (headerOctets serviceType totalLength ++ body) 0 = 6 := rfl
  have version : octetAt (headerOctets serviceType totalLength ++ body) 1 = 0x10 := rfl
  have known : ¬ totalLength.toNat < communicationHeaderSize := Nat.not_lt.mpr large
  simp only [decodeCommunicationHeader, size, first, version, service, length, known, if_false,
    ne_eq, not_true_eq_false]

theorem headerOctets_of_decoded {packet : Octets} {header : CommunicationHeader}
    (decoded : decodeCommunicationHeader packet = .ok header) :
    communicationHeaderSize ≤ packet.length ∧
      headerOctets header.serviceType header.totalLength ++ packet.drop communicationHeaderSize =
        packet := by
  unfold decodeCommunicationHeader at decoded
  split at decoded
  · cases decoded
  split at decoded
  · cases decoded
  split at decoded
  · cases decoded
  dsimp only at decoded
  split at decoded
  · cases decoded
  rename_i large first version _
  cases decoded
  simp only [ne_eq, Decidable.not_not] at first version
  simp only [communicationHeaderSize, Nat.not_lt] at large ⊢
  refine ⟨large, ?_⟩
  have start : packet = 6 :: 0x10 :: packet.drop 2 := by
    rw [← first, ← version, ← drop_eq_octetAt_cons (by omega), ← drop_eq_octetAt_cons (by omega)]
    rfl
  rw [headerOctets, u16Octets_readU16 (by omega), u16Octets_readU16 (by omega), List.append_assoc,
    List.append_assoc, take_append_drop_add packet 4 2, take_append_drop_add packet 2 2]
  exact start.symm

end KmxAio.Knx.Frame
