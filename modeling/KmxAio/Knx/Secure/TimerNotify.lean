import KmxAio.Knx.Secure.Ccm

/-!
# TIMER_NOTIFY

The frame secure routers keep their timers together with: a timer value, the
sender's serial number, a message tag, and a MAC over them and the frame header.
-/

namespace KmxAio.Knx.Secure

open Lib.Wire Knx.Frame

def timerNotifyService : UInt16 := 0x0955
def timerNotifySize : Nat := 36

structure TimerNotifyFrame where
  timerValue : SequenceInformation
  serialNumber : SerialNumber
  messageTag : MessageTag
  mac : Mac
  deriving DecidableEq

def timerNotifyHeader : Octets := headerOctets timerNotifyService 36

def decodeTimerNotifyPacket (pkt : Octets) : Expected TimerNotifyFrame := do
  let header ← decodeCommunicationHeader pkt
  if header.serviceType ≠ timerNotifyService then refuse .unsupportedService
  else if header.totalLength.toNat ≠ pkt.length ∨ pkt.length ≠ timerNotifySize then
    refuse .malformedFrame
  else
    let body := pkt.drop communicationHeaderSize
    return ⟨readArray 6 0 body, readArray 6 6 body, readArray 2 12 body, readArray 16 14 body⟩

def encodeTimerNotifyPacket (room : Nat) (val : TimerNotifyFrame) : Expected Octets :=
  if room < timerNotifySize then refuse .invalidLength
  else
    .ok (timerNotifyHeader ++ (val.timerValue.toList ++ (val.serialNumber.toList ++
      (val.messageTag.toList ++ val.mac.toList))))

/-- What the MAC of a notification covers; there is no payload to encrypt. -/
def timerNotifyMessage (timerValue : SequenceInformation) (serialNumber : SerialNumber)
    (messageTag : MessageTag) : Message where
  block0 := wrapperBlock0 timerValue serialNumber messageTag 0
  counter0 := wrapperCounter0 timerValue serialNumber messageTag
  associatedData := timerNotifyHeader
  payload := []

def makeTimerNotify (backend : CryptoBackend) (backboneKey : SecretKey) (timerValue : Nat)
    (serialNumber : SerialNumber) (messageTag : MessageTag) : Expected TimerNotifyFrame :=
  if timerValue > maxSequence then refuse .invalidConfiguration
  else
    let encoded := encodeSequence timerValue
    match sealMessage backend backboneKey (timerNotifyMessage encoded serialNumber messageTag) with
    | .error why => .error why
    | .ok (mac, _) => .ok ⟨encoded, serialNumber, messageTag, mac⟩

def verifyTimerNotify (backend : CryptoBackend) (backboneKey : SecretKey)
    (val : TimerNotifyFrame) : Expected Unit :=
  match openMessage backend backboneKey
      (timerNotifyMessage val.timerValue val.serialNumber val.messageTag) val.mac with
  | .error why => .error why
  | .ok _ => .ok ()

end KmxAio.Knx.Secure
