import KmxAio.Knx.Cemi
import KmxAio.Knx.Secure.Ccm

/-!
# KNX Data Secure telegrams

The codec of the secured APDU: `control ‖ sequence ‖ APDU ‖ MAC`. A telegram is
either encrypted and authenticated or authenticated only. The MAC binds the
control octet, the sequence number, both addresses, two fields of the link header
and the APDU; nothing else of the frame enters it.
-/

namespace KmxAio.Knx.DataSecure

open Lib.Wire Cemi Secure

def macSize : Nat := 4
def sequenceSize : Nat := 6
def securedApduOverhead : Nat := 1 + sequenceSize + macSize
def maxPlainApdu : Nat := 0xFF

def serviceApciLow : UInt8 := 0xF1

def serviceApciHigh : UInt8 := 0x03

/-- The bits of control field 2 that enter `B0`: the address type and the extended frame format. -/
def bindingControlMask : UInt8 := 0x8F

inductive Algorithm where
  | authenticationOnly
  | authenticatedEncryption
  deriving DecidableEq

def Algorithm.toOctet : Algorithm → UInt8
  | .authenticationOnly => 0
  | .authenticatedEncryption => 1

inductive SecurityService where
  | data
  | syncRequest
  | syncResponse
  deriving DecidableEq

def SecurityService.toOctet : SecurityService → UInt8
  | .data => 0
  | .syncRequest => 2
  | .syncResponse => 3

structure SecurityControl where
  toolAccess : Bool := false
  algorithm : Algorithm := .authenticatedEncryption
  systemBroadcast : Bool := false
  service : SecurityService := .data
  deriving DecidableEq

def encodeSecurityControl (val : SecurityControl) : UInt8 :=
  (if val.toolAccess then (0x80 : UInt8) else 0x00) ||| (val.algorithm.toOctet <<< 4) |||
    (if val.systemBroadcast then (0x08 : UInt8) else 0x00) ||| val.service.toOctet

def decodeSecurityControl (octet : UInt8) : Expected SecurityControl :=
  let algorithmBits := (octet >>> 4) &&& 0x07
  let serviceBits := octet &&& 0x07
  match [Algorithm.authenticationOnly, .authenticatedEncryption].find?
      (fun algorithm => algorithm.toOctet == algorithmBits) with
  | none => refuse .secureUnsupported
  | some algorithm =>
    match [SecurityService.data, .syncRequest, .syncResponse].find?
        (fun service => service.toOctet == serviceBits) with
    | none => refuse .secureUnsupported
    | some service =>
      .ok
        { toolAccess := octet &&& 0x80 ≠ 0
          algorithm := algorithm
          systemBroadcast := octet &&& 0x08 ≠ 0
          service := service }

structure FrameBinding where
  source : UInt16
  destination : UInt16
  controlField2 : UInt8
  transportControl : UInt8
  deriving DecidableEq

structure ApduFields where
  control : SecurityControl
  sequence : Nat
  binding : FrameBinding

def sequenceOf (secured : Octets) : Nat := arrayNumber (readArray sequenceSize 1 secured)

variable (seq : SequenceInformation) (binding : FrameBinding)

/-- `sequence ‖ source ‖ destination`, which `B0` and `Ctr0` share. -/
def telegramPrelude : Octets :=
  seq.toList ++ (u16Octets binding.source ++ u16Octets binding.destination)

/-- The prelude, then `00 ‖ (address type | frame format) ‖ (TPCI | 03) ‖ F1 ‖ 00 ‖ length`. -/
def telegramBlock0 (payloadLength : UInt8) : Block :=
  ⟨telegramPrelude seq binding ++
    [0x00, binding.controlField2 &&& bindingControlMask,
      (binding.transportControl &&& tpciMask) ||| serviceApciHigh, serviceApciLow, 0x00,
      payloadLength], by simp [telegramPrelude]⟩

def telegramCounter0 : Block :=
  ⟨telegramPrelude seq binding ++ [0x00, 0x00, 0x00, 0x00, 0x01, 0x00],
    by simp [telegramPrelude]⟩

variable (backend : CryptoBackend)

/-- The full MAC of a telegram, of which the first four octets are used. Without encryption the
APDU is associated data and `B0` announces an empty payload. -/
def telegramMac (key : SecretKey) (controlOctet : UInt8) (seq : SequenceInformation)
    (binding : FrameBinding) (protection : Algorithm) (plain : Octets) : Expected Block :=
  match protection with
  | .authenticatedEncryption =>
    cbcMac backend key (telegramBlock0 seq binding (UInt8.ofNat plain.length))
      [controlOctet] plain
  | .authenticationOnly =>
    cbcMac backend key (telegramBlock0 seq binding 0) (controlOctet :: plain) []

def sealApdu (room : Nat) (key : SecretKey) (fields : ApduFields) (plainApdu : Octets) :
    Expected Octets :=
  if plainApdu.length > maxPlainApdu ∨ room < plainApdu.length + securedApduOverhead then
    refuse .invalidLength
  else if fields.sequence > maxSequence then refuse .invalidConfiguration
  else
    let controlOctet := encodeSecurityControl fields.control
    let seq := encodeSequence fields.sequence
    match telegramMac backend key controlOctet seq fields.binding fields.control.algorithm
        plainApdu with
    | .error why => .error why
    | .ok mac =>
      let macOctets := mac.toList.take macSize
      match fields.control.algorithm with
      | .authenticationOnly => .ok (controlOctet :: (seq.toList ++ (plainApdu ++ macOctets)))
      | .authenticatedEncryption =>
        -- one keystream: the four MAC octets first, then the APDU
        match ctr backend key (telegramCounter0 seq fields.binding) macOctets plainApdu with
        | .error why => .error why
        | .ok (encryptedMac, encrypted) =>
          .ok (controlOctet :: (seq.toList ++ (encrypted ++ encryptedMac)))

def decryptApdu (key : SecretKey) (binding : FrameBinding) (algorithm : Algorithm)
    (secured : Octets) : Expected (Octets × Octets) :=
  let size := secured.length - securedApduOverhead
  let receivedMac := secured.drop (secured.length - macSize)
  let apdu := (secured.drop (1 + sequenceSize)).take size
  match algorithm with
  | .authenticationOnly => .ok (receivedMac, apdu)
  | .authenticatedEncryption =>
    ctr backend key (telegramCounter0 (readArray sequenceSize 1 secured) binding) receivedMac apdu

/-- The plain APDU of an authentic secured one, in a destination of the given capacity. -/
def openApdu (room : Nat) (key : SecretKey) (binding : FrameBinding) (secured : Octets) :
    Expected Octets :=
  if secured.length < securedApduOverhead then refuse .malformedFrame
  else
    match decodeSecurityControl (octetAt secured 0) with
    | .error why => .error why
    | .ok control =>
      let size := secured.length - securedApduOverhead
      if size > maxPlainApdu ∨ room < size then refuse .invalidLength
      else
        match decryptApdu backend key binding control.algorithm secured with
        | .error why => .error why
        | .ok (receivedMac, plain) =>
          match telegramMac backend key (octetAt secured 0) (readArray sequenceSize 1 secured)
              binding control.algorithm plain with
          | .error why => .error why
          | .ok expectedMac =>
            if expectedMac.toList.take macSize = receivedMac then .ok plain
            else refuse .secureAuthenticationFailed

end KmxAio.Knx.DataSecure
