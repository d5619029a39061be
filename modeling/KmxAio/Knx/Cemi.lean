import KmxAio.Knx.Frame

/-!
# cEMI L_Data messages

The medium-independent message a tunnelling request or a routing indication
carries. Only the L_Data messages are decoded; the octets of a message stay with
their owner, and a decoded frame names its payload by offset and size.
-/

namespace KmxAio.Knx.Cemi

open Lib.Wire

inductive CemiMessageCode where
  | lBusmonInd
  | lRawReq
  | lRawInd
  | lRawCon
  | lDataReq
  | lDataCon
  | lDataInd
  | lPollDataReq
  | lPollDataCon
  | mPropReadReq
  | mPropReadCon
  | mPropWriteReq
  | mPropWriteCon
  | mPropInfoInd
  | mResetReq
  | mResetInd
  deriving DecidableEq

def CemiMessageCode.toOctet : CemiMessageCode → UInt8
  | .lBusmonInd => 0x2B
  | .lRawReq => 0x10
  | .lRawInd => 0x2D
  | .lRawCon => 0x2F
  | .lDataReq => 0x11
  | .lDataCon => 0x2E
  | .lDataInd => 0x29
  | .lPollDataReq => 0x13
  | .lPollDataCon => 0x25
  | .mPropReadReq => 0xFC
  | .mPropReadCon => 0xFB
  | .mPropWriteReq => 0xF6
  | .mPropWriteCon => 0xF5
  | .mPropInfoInd => 0xF7
  | .mResetReq => 0xF1
  | .mResetInd => 0xF0

def isLData (code : CemiMessageCode) : Bool :=
  code == .lDataReq || code == .lDataCon || code == .lDataInd

def lDataCode (octet : UInt8) : Option CemiMessageCode :=
  [.lDataReq, .lDataCon, .lDataInd].find? (fun code => code.toOctet == octet)

/-- An application service, as the ten bits of the TPCI and APCI octets that name it. -/
abbrev Apci := UInt16

def secureServiceApci : Apci := 0x3F1

structure CemiFrame where
  messageCode : CemiMessageCode
  additionalInfoLength : UInt8
  controlField1 : UInt8
  controlField2 : UInt8
  source : UInt16
  destination : UInt16
  dataLength : UInt8
  transportControl : UInt8
  applicationService : Apci
  compactValue : UInt8
  payloadOffset : UInt16
  payloadSize : UInt16
  deriving DecidableEq

def prologueSize : Nat := 2
def linkHeaderSize : Nat := 7
def apciSize : Nat := 2
def minLDataSize : Nat := prologueSize + linkHeaderSize + apciSize
def maxOctets : Nat := 254
def maxLDataSize : Nat := minLDataSize + maxOctets
def maxAdditionalInfoSize : Nat := 0xFF
def maxMessageSize : Nat := maxLDataSize + maxAdditionalInfoSize
def tpciMask : UInt8 := 0xFC
def apciCodeMask : UInt16 := 0x03C0
def apciEscapeUser : UInt16 := 0x02C0
def apciEscapeManagement : UInt16 := 0x03C0
def compactMask : UInt16 := 0x3F

def maxStandardDataLength : UInt8 := 0x0F
def tpciUnnumberedData : UInt8 := 0x00

/-! ## Payloads -/

theorem compact_and_lt (val : UInt8) : (val &&& 0x3F).toNat < 64 := by
  exact Nat.and_lt_two_pow val.toNat (by decide : (0x3F : UInt8).toNat < 2 ^ 6)

/-- An application payload: six bits inside the service octets, or whole octets behind them. -/
inductive ApduPayload where
  | compact (value : UInt8) (small : value.toNat < 64)
  | extended (octets : Octets) (nonempty : octets ≠ []) (fits : octets.length ≤ maxOctets)

namespace ApduPayload

def ofCompact (val : UInt8) : ApduPayload := .compact (val &&& 0x3F) (compact_and_lt val)

def compacted : ApduPayload → Bool
  | .compact .. => true
  | .extended .. => false

def compactValue : ApduPayload → UInt8
  | .compact val _ => val
  | .extended .. => 0

def octets : ApduPayload → Octets
  | .compact .. => []
  | .extended octets _ _ => octets

def dataLength (payload : ApduPayload) : UInt8 :=
  if payload.compacted then 1 else UInt8.ofNat (payload.octets.length + 1)

end ApduPayload

/-! ## The link layer fields of a frame -/

inductive Priority where
  | system
  | normal
  | urgent
  | low
  deriving DecidableEq

def Priority.toOctet : Priority → UInt8
  | .system => 0
  | .normal => 1
  | .urgent => 2
  | .low => 3

def Priority.ofBits (bits : UInt8) : Priority :=
  if bits = 0 then .system else if bits = 1 then .normal else if bits = 2 then .urgent else .low

inductive AddressType where
  | individual
  | group
  deriving DecidableEq

def standardFrameMask : UInt8 := 0x80
def repeatMask : UInt8 := 0x20
def broadcastMask : UInt8 := 0x10
def priorityMask : UInt8 := 0x0C
def acknowledgeMask : UInt8 := 0x02
def addressTypeMask : UInt8 := 0x80
def hopCountMask : UInt8 := 0x70

variable (frame : CemiFrame)

def CemiFrame.standardFrame : Bool :=
  frame.controlField1 &&& standardFrameMask ≠ 0

def CemiFrame.repeatFlag : Bool := frame.controlField1 &&& repeatMask ≠ 0

def CemiFrame.broadcast : Bool := frame.controlField1 &&& broadcastMask ≠ 0

def CemiFrame.telegramPriority : Priority :=
  Priority.ofBits ((frame.controlField1 &&& priorityMask) >>> 2)

def CemiFrame.acknowledgeRequested : Bool :=
  frame.controlField1 &&& acknowledgeMask ≠ 0

def CemiFrame.addressType : AddressType :=
  if frame.controlField2 &&& addressTypeMask ≠ 0 then .group else .individual

def CemiFrame.hopCount : UInt8 := (frame.controlField2 &&& hopCountMask) >>> 4

def CemiFrame.compact : Bool := frame.payloadSize == 0

def CemiFrame.groupAddressed : Bool := frame.controlField2 &&& 0x80 ≠ 0

/-- The octets of a payload that follows the service octets; none when the value is compact. -/
def CemiFrame.payload (octets : Octets) : Octets :=
  if frame.payloadSize = 0 ∨ frame.payloadOffset.toNat + frame.payloadSize.toNat > octets.length then
    []
  else (octets.drop frame.payloadOffset.toNat).take frame.payloadSize.toNat

/-- The size of a message: its two octets, the additional information, and the data behind it. -/
def encodedSize (additionalInfoSize : Nat) (dataLength : UInt8) : Nat :=
  prologueSize + additionalInfoSize + linkHeaderSize + 1 + dataLength.toNat

/-- Four bits name a service, except under the two escape codes, where all ten do. -/
def serviceOf (raw : UInt16) : Apci :=
  let code := raw &&& apciCodeMask
  if code = apciEscapeUser ∨ code = apciEscapeManagement then raw else code

def decode (octets : Octets) : Expected CemiFrame :=
  if octets.length < prologueSize then refuse .malformedFrame
  else
    match lDataCode (octetAt octets 0) with
    | none => refuse .unsupportedMessageCode
    | some code =>
      let additionalInfoLength := octetAt octets 1
      let linkOffset := prologueSize + additionalInfoLength.toNat
      if linkOffset + linkHeaderSize + apciSize > octets.length then refuse .malformedFrame
      else
        let dataLength := octetAt octets (linkOffset + 6)
        -- a zero length is a transport layer control message, which carries no service
        if dataLength = 0 then refuse .unsupportedService
        else if encodedSize additionalInfoLength.toNat dataLength ≠ octets.length then
          refuse .invalidLength
        else
          let rawService := readU16 octets (linkOffset + 7) &&& 0x03FF
          let compact := dataLength = 1
          .ok
            { messageCode := code
              additionalInfoLength := additionalInfoLength
              controlField1 := octetAt octets linkOffset
              controlField2 := octetAt octets (linkOffset + 1)
              source := readU16 octets (linkOffset + 2)
              destination := readU16 octets (linkOffset + 4)
              dataLength := dataLength
              transportControl := octetAt octets (linkOffset + 7) &&& tpciMask
              applicationService := serviceOf rawService
              compactValue := if compact then (rawService &&& compactMask).toUInt8 else 0
              payloadOffset :=
                if compact then 0 else UInt16.ofNat (linkOffset + linkHeaderSize + apciSize)
              payloadSize := if compact then 0 else UInt16.ofNat (dataLength.toNat - 1) }

/-! ## Encoding -/

structure LDataOptions where
  telegramPriority : Priority := .low
  hopCount : UInt8 := 6
  acknowledgeRequest : Bool := false
  mayRepeat : Bool := true
  broadcast : Bool := true
  deriving DecidableEq

structure LDataMessage where
  code : CemiMessageCode := .lDataReq
  source : UInt16 := 0
  destination : UInt16 := 0
  destinationType : AddressType := .group
  service : Apci := 0
  payload : ApduPayload := .ofCompact 0
  options : LDataOptions := {}

/-- Control field 1. The frame type follows the length: a long message is marked extended. -/
def makeControlField1 (options : LDataOptions) (dataLength : UInt8) : UInt8 :=
  (if dataLength ≤ maxStandardDataLength then standardFrameMask else 0) |||
    ((if options.mayRepeat then repeatMask else 0) |||
      ((if options.broadcast then broadcastMask else 0) |||
        (((options.telegramPriority.toOctet <<< 2) &&& priorityMask) |||
          (if options.acknowledgeRequest then acknowledgeMask else 0))))

def makeControlField2 (destinationType : AddressType) (hopCount : UInt8) : UInt8 :=
  (if destinationType = .group then addressTypeMask else 0) |||
    ((hopCount <<< 4) &&& hopCountMask)

/-- The octets of a message. A compact value rides in the low six bits of the service octet. -/
def writeLData (msg : LDataMessage) (dataLength : UInt8) : Octets :=
  let serviceHigh := tpciUnnumberedData ||| ((msg.service >>> 8) &&& 0x03).toUInt8
  let serviceLow := (msg.service &&& 0xFF).toUInt8
  [msg.code.toOctet, 0, makeControlField1 msg.options dataLength,
      makeControlField2 msg.destinationType msg.options.hopCount] ++
    (u16Octets msg.source ++ (u16Octets msg.destination ++
      ([dataLength, serviceHigh,
          if msg.payload.compacted then serviceLow ||| msg.payload.compactValue
          else serviceLow] ++
        msg.payload.octets)))

def encode (room : Nat) (msg : LDataMessage) : Expected Octets :=
  if ¬ isLData msg.code then refuse .unsupportedMessageCode
  else if msg.payload.octets.length > maxOctets then refuse .payloadTooLarge
  else if msg.options.hopCount > 0x07 then refuse .invalidConfiguration
  else
    let dataLength := msg.payload.dataLength
    if room < encodedSize 0 dataLength then refuse .invalidLength
    else .ok (writeLData msg dataLength)

end KmxAio.Knx.Cemi
