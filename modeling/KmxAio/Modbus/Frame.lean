import KmxAio.Lib.Wire

/-!
# The frame of a Modbus TCP message

A message is a header of seven octets and a PDU. The header has the transaction, a
protocol that is always zero, the length of what follows the length field (the unit and
the PDU) and the unit.
-/

namespace KmxAio.Modbus

open Lib.Wire

inductive Error where
  | disconnected
  | malformedFrame
  | unexpectedTransactionId
  | invalidUnitId
  deriving DecidableEq

structure MbapHeader where
  transactionId : UInt16
  protocolId : UInt16
  length : UInt16
  unitId : UInt8
  deriving DecidableEq

def mbapSize : Nat := 7

def maxPduSize : Nat := 253

def mbapLengthOffset : Nat := 4

def mbapUnitIdOffset : Nat := 6

variable (tid pduLength : UInt16)

def encodeMbap (unitId : UInt8) : Octets :=
  u16Octets tid ++ (u16Octets 0 ++ (u16Octets (1 + pduLength) ++ [unitId]))

def decodeMbap (src : Octets) : Except Error MbapHeader :=
  if src.length < mbapSize then .error .malformedFrame
  else if readU16 src 2 ≠ 0 then .error .malformedFrame
  else
    .ok { transactionId := readU16 src 0
          protocolId := readU16 src 2
          length := readU16 src mbapLengthOffset
          unitId := octetAt src mbapUnitIdOffset }

/-- A header and its PDU: what the client sends and, with the header of the request, the server. -/
def buildAdu (tid : UInt16) (unitId : UInt8) (pdu : Octets) : Octets :=
  encodeMbap tid (UInt16.ofNat pdu.length) unitId ++ pdu

@[simp] theorem encodeMbap_length (unitId : UInt8) :
    (encodeMbap tid pduLength unitId).length = mbapSize := by
  simp [encodeMbap, mbapSize]

theorem decodeMbap_encodeMbap (unitId : UInt8) :
    decodeMbap (encodeMbap tid pduLength unitId) =
      .ok { transactionId := tid, protocolId := 0, length := 1 + pduLength, unitId := unitId } := by
  have first : readU16 (encodeMbap tid pduLength unitId) 0 = tid := readU16_append_left tid _
  have second : readU16 (encodeMbap tid pduLength unitId) 2 = 0 := by
    rw [encodeMbap, readU16_append_add (u16Octets_length tid) 0, readU16_append_left]
  have third : readU16 (encodeMbap tid pduLength unitId) mbapLengthOffset = 1 + pduLength := by
    rw [encodeMbap, mbapLengthOffset, readU16_append_add (u16Octets_length tid) 2,
      readU16_append_add (u16Octets_length 0) 0, readU16_append_left]
  have unit : octetAt (encodeMbap tid pduLength unitId) mbapUnitIdOffset = unitId := by
    rfl
  rw [decodeMbap, encodeMbap_length, if_neg (Nat.lt_irrefl _), first, second, third, unit,
    if_neg (by decide)]

/-- What a PDU may be: it has a function code, and it fits a message. -/
def IsPdu (pdu : Octets) : Prop := 0 < pdu.length ∧ pdu.length ≤ maxPduSize

instance (pdu : Octets) : Decidable (IsPdu pdu) := inferInstanceAs (Decidable (_ ∧ _))

theorem IsPdu.length_field {pdu : Octets} (isPdu : IsPdu pdu) :
    (1 + UInt16.ofNat pdu.length).toNat = pdu.length + 1 := by
  have small := isPdu.2
  rw [maxPduSize] at small
  simp
  omega

end KmxAio.Modbus
