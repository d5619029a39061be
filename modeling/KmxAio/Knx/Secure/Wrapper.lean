import KmxAio.Knx.Secure.Ccm

/-!
# SECURE_WRAPPER

A wrapper carries one encrypted KNXnet/IP datagram behind a security header:
the session id, the sequence information, the sender's serial number and the
message tag. Sealing and opening build the same blocks from those fields, so a
wrapper that was sealed under a key opens to the datagram it was sealed from.
-/

namespace KmxAio.Knx.Secure

open Lib.Fallible Lib.Wire Knx.Frame

def wrapperService : UInt16 := 0x0950
def wrapperSecurityHeaderSize : Nat := 16
def wrapperOverhead : Nat := 38
def minWrappedFrameSize : Nat := 6
def maxWrappedFrameSize : Nat := maxDatagramSize - wrapperOverhead

def servicesRefusedInsideWrapper : List UInt16 := [wrapperService, 0x0740, 0x0741, 0x0742, 0x0743]

structure WrapperFields where
  sessionId : UInt16
  sequence : SequenceInformation
  serialNumber : SerialNumber
  messageTag : MessageTag
  deriving DecidableEq

structure WrapperFrame extends WrapperFields where
  encryptedFrame : Octets
  mac : Mac
  deriving DecidableEq

/-- The fields of a wrapper behind its communication header. -/
def readWrapperBody (body : Octets) : WrapperFrame where
  sessionId := readU16 body 0
  sequence := readArray 6 2 body
  serialNumber := readArray 6 8 body
  messageTag := readArray 2 14 body
  encryptedFrame := (body.drop wrapperSecurityHeaderSize).take
    (body.length - wrapperSecurityHeaderSize - 16)
  mac := readArray 16 (body.length - 16) body

def decodeWrapperPacket (pkt : Octets) : Expected WrapperFrame :=
  match decodeCommunicationHeader pkt with
  | .error why => .error why
  | .ok header =>
    if header.serviceType ≠ wrapperService then refuse .unsupportedService
    else if header.totalLength.toNat ≠ pkt.length ∨
        pkt.length < wrapperOverhead + minWrappedFrameSize then refuse .malformedFrame
    else .ok (readWrapperBody (pkt.drop communicationHeaderSize))

/-- Header and security header of a wrapper of `totalLength` octets. -/
def wrapperPrefix (fields : WrapperFields) (totalLength : Nat) : Octets :=
  headerOctets wrapperService (UInt16.ofNat totalLength) ++
    (u16Octets fields.sessionId ++
      (fields.sequence.toList ++ (fields.serialNumber.toList ++ fields.messageTag.toList)))

def encodeWrapperPacket (room : Nat) (val : WrapperFrame) : Expected Octets :=
  let totalLength := wrapperOverhead + val.encryptedFrame.length
  if val.encryptedFrame.length < minWrappedFrameSize then refuse .malformedFrame
  else if totalLength > maxTotalLength ∨ room < totalLength then refuse .invalidLength
  else .ok (wrapperPrefix val.toWrapperFields totalLength ++ (val.encryptedFrame ++ val.mac.toList))

def checkWrappedFrame (plainFrame : Octets) : Expected CommunicationHeader :=
  match decodeCommunicationHeader plainFrame with
  | .error why => .error why
  | .ok header =>
    if header.protocolVersion ≠ 0x10 ∨ header.totalLength.toNat ≠ plainFrame.length then
      refuse .malformedFrame
    else if header.serviceType ∈ servicesRefusedInsideWrapper then refuse .unsupportedService
    else .ok header

def wrapperMessage (fields : WrapperFields) (payload : Octets) : Message :=
  { block0 := wrapperBlock0 fields.sequence fields.serialNumber fields.messageTag
      (UInt16.ofNat payload.length)
    counter0 := wrapperCounter0 fields.sequence fields.serialNumber fields.messageTag
    associatedData := (wrapperPrefix fields (wrapperOverhead + payload.length)).take
      (communicationHeaderSize + 2)
    payload := payload }

/-- Encrypts a datagram into a complete wrapper, in a destination of `room` octets. -/
def sealWrapper (backend : CryptoBackend) (room : Nat) (key : SecretKey) (fields : WrapperFields)
    (plainFrame : Octets) : Expected Octets :=
  match checkWrappedFrame plainFrame with
  | .error why => .error why
  | .ok _ =>
    let totalLength := wrapperOverhead + plainFrame.length
    if plainFrame.length > maxWrappedFrameSize ∨ room < totalLength then refuse .invalidLength
    else
      match sealMessage backend key (wrapperMessage fields plainFrame) with
      | .error why => .error why
      | .ok (mac, encrypted) =>
        .ok (wrapperPrefix fields totalLength ++ (encrypted ++ mac.toList))

def openWrapper (backend : CryptoBackend) (room : Nat) (key : SecretKey) (val : WrapperFrame) :
    Expected Octets :=
  let size := val.encryptedFrame.length
  if room < size ∨ wrapperOverhead + size > maxTotalLength then refuse .invalidLength
  else openMessage backend key (wrapperMessage val.toWrapperFields val.encryptedFrame) val.mac

/-! ## What sealing produces -/

variable {plainFrame pkt : Octets} {backend : CryptoBackend} {key : SecretKey}
  {fields : WrapperFields}

/-- What a successful seal did: the frame may be wrapped, and the wrapper is the counter mode's
output behind the fields. -/
structure Sealed (backend : CryptoBackend) (key : SecretKey) (fields : WrapperFields)
    (plainFrame packet : Octets) where
  plainMac : Block
  encrypted : Octets
  mac : Mac
  allowed : minWrappedFrameSize ≤ plainFrame.length ∧ plainFrame.length ≤ maxWrappedFrameSize
  encrypts : backend.ctr key (wrapperCounter0 fields.sequence fields.serialNumber fields.messageTag)
    plainMac.toList plainFrame = some (mac.toList, encrypted)
  packet_eq : packet =
    wrapperPrefix fields (wrapperOverhead + plainFrame.length) ++ (encrypted ++ mac.toList)

theorem Sealed.encrypted_length (wrap : Sealed backend key fields plainFrame pkt) :
    wrap.encrypted.length = plainFrame.length :=
  (backend.ctr_length _ _ _ _ _ wrap.encrypts).2

def Sealed.frame {backend : CryptoBackend} {key : SecretKey} {fields : WrapperFields}
    {plainFrame pkt : Octets} (wrap : Sealed backend key fields plainFrame pkt) :
    WrapperFrame :=
  { toWrapperFields := fields, encryptedFrame := wrap.encrypted, mac := wrap.mac }

theorem sealWrapper_ok {room : Nat}
    (succeeded : sealWrapper backend room key fields plainFrame = .ok pkt) :
    ∃ wrap : Sealed backend key fields plainFrame pkt,
      sealMessage backend key (wrapperMessage fields plainFrame) = .ok (wrap.mac, wrap.encrypted) := by
  unfold sealWrapper at succeeded
  cases checked : checkWrappedFrame plainFrame with
  | error why => simp [checked] at succeeded
  | ok header =>
    simp only [checked] at succeeded
    split at succeeded
    · cases succeeded
    rename_i fits
    split at succeeded
    · cases succeeded
    rename_i mac encrypted covered
    cases succeeded
    obtain ⟨plainMac, -, encrypts⟩ := sealMessage_ok covered
    have size : minWrappedFrameSize ≤ plainFrame.length := by
      by_contra short
      have few : plainFrame.length < communicationHeaderSize := Nat.not_le.mp short
      rw [checkWrappedFrame, decodeCommunicationHeader, if_pos few] at checked
      cases checked
    exact ⟨⟨plainMac, encrypted, mac, ⟨size, by omega⟩, encrypts, rfl⟩, covered⟩

def wrapperBody (val : WrapperFrame) : Octets :=
  u16Octets val.sessionId ++ (val.sequence.toList ++ (val.serialNumber.toList ++
    (val.messageTag.toList ++ (val.encryptedFrame ++ val.mac.toList))))

variable (val : WrapperFrame)

theorem wrapperBody_length : (wrapperBody val).length = 32 + val.encryptedFrame.length := by
  simp only [wrapperBody, List.length_append, u16Octets_length, array_length]
  omega

theorem wrapperBody_payload :
    ((wrapperBody val).drop 16).take (32 + val.encryptedFrame.length - 16 - 16) =
        val.encryptedFrame ∧
      readArray 16 (32 + val.encryptedFrame.length - 16) (wrapperBody val) = val.mac := by
  have split : wrapperBody val = (u16Octets val.sessionId ++ (val.sequence.toList ++
      (val.serialNumber.toList ++ val.messageTag.toList))) ++
      (val.encryptedFrame ++ val.mac.toList) := by
    simp [wrapperBody]
  have size : (u16Octets val.sessionId ++ (val.sequence.toList ++
      (val.serialNumber.toList ++ val.messageTag.toList))).length = 16 := by
    simp
  constructor
  · rw [split, List.drop_left' size]
    exact List.take_left' (by omega)
  · have rest : 32 + val.encryptedFrame.length - 16 - 16 - val.encryptedFrame.length = 0 := by
      omega
    rw [split, readArray_append_right _ _ (by omega), size,
      readArray_append_right _ _ (by omega), rest]
    exact readArray_self _

theorem readWrapperBody_wrapperBody : readWrapperBody (wrapperBody val) = val := by
  obtain ⟨sid, seq, serialNumber, messageTag⟩ : readU16 (wrapperBody val) 0 = val.sessionId ∧
      readArray 6 2 (wrapperBody val) = val.sequence ∧ readArray 6 8 (wrapperBody val) =
      val.serialNumber ∧ readArray 2 14 (wrapperBody val) = val.messageTag := by
    refine ⟨readU16_append_left _ _, ?_, ?_, ?_⟩
    · exact readArray_append_left _ _
    · rw [wrapperBody, readArray_append_right _ _ (by simp), readArray_append_right _ _ (by simp)]
      simpa using readArray_append_left val.serialNumber _
    · rw [wrapperBody, readArray_append_right _ _ (by simp), readArray_append_right _ _ (by simp),
        readArray_append_right _ _ (by simp)]
      simpa using readArray_append_left val.messageTag _
  obtain ⟨encrypted, mac⟩ := wrapperBody_payload val
  simp only [readWrapperBody, wrapperSecurityHeaderSize, wrapperBody_length, sid, seq, serialNumber,
    messageTag, encrypted, mac]

theorem decodeWrapperPacket_layout (large : minWrappedFrameSize ≤ val.encryptedFrame.length)
    (small : wrapperOverhead + val.encryptedFrame.length ≤ maxTotalLength) :
    decodeWrapperPacket
        (wrapperPrefix val.toWrapperFields (wrapperOverhead + val.encryptedFrame.length) ++
          (val.encryptedFrame ++ val.mac.toList)) = .ok val := by
  simp only [minWrappedFrameSize, wrapperOverhead, maxTotalLength] at large small
  have total : (UInt16.ofNat (38 + val.encryptedFrame.length)).toNat =
      38 + val.encryptedFrame.length :=
    UInt16.toNat_ofNat_of_lt' (by simp only [UInt16.size]; omega)
  have layout : wrapperPrefix val.toWrapperFields (38 + val.encryptedFrame.length) ++
      (val.encryptedFrame ++ val.mac.toList) =
      headerOctets wrapperService (UInt16.ofNat (38 + val.encryptedFrame.length)) ++
        wrapperBody val := by
    simp [wrapperPrefix, wrapperBody]
  have header := decodeCommunicationHeader_headerOctets wrapperService
    (UInt16.ofNat (38 + val.encryptedFrame.length)) (wrapperBody val)
    (by rw [total]; simp only [communicationHeaderSize]; omega)
  have dropped : (headerOctets wrapperService (UInt16.ofNat (38 + val.encryptedFrame.length)) ++
      wrapperBody val).drop communicationHeaderSize = wrapperBody val :=
    List.drop_left' (headerOctets_length _ _)
  have size : (headerOctets wrapperService (UInt16.ofNat (38 + val.encryptedFrame.length)) ++
      wrapperBody val).length = 38 + val.encryptedFrame.length := by
    rw [List.length_append, headerOctets_length, wrapperBody_length]
    omega
  have framed : ¬ (38 + val.encryptedFrame.length ≠ 38 + val.encryptedFrame.length ∨
      38 + val.encryptedFrame.length < 38 + 6) := by
    omega
  simp only [wrapperOverhead, minWrappedFrameSize, layout, decodeWrapperPacket, header, dropped,
    size, total, if_neg framed, readWrapperBody_wrapperBody]
  rfl

theorem decodeWrapperPacket_sealed (wrap : Sealed backend key fields plainFrame pkt) :
    decodeWrapperPacket pkt = .ok wrap.frame := by
  have allowed := wrap.allowed
  have size := wrap.encrypted_length
  have decoded := decodeWrapperPacket_layout wrap.frame
  simp only [Sealed.frame, size, maxWrappedFrameSize, maxDatagramSize, wrapperOverhead,
    maxTotalLength] at decoded allowed
  exact (congrArg decodeWrapperPacket wrap.packet_eq).trans (decoded allowed.1 (by omega))

theorem openWrapper_sealed {opener reference : CryptoBackend} {room : Nat} {opened : Octets}
    (sealComputes : backend.Computes reference) (openComputes : opener.Computes reference)
    (inverse : reference.CtrInverse) (wrap : Sealed backend key fields plainFrame pkt)
    (succeeded : openWrapper opener room key wrap.frame = .ok opened) : opened = plainFrame := by
  simp only [openWrapper] at succeeded
  split at succeeded
  · cases succeeded
  obtain ⟨_, -, decrypted⟩ := openMessage_ok succeeded
  have forward := inverse (sealComputes.ctr wrap.encrypts)
  have backward := openComputes.ctr decrypted
  have same := forward.symm.trans backward
  simp only [Option.some.injEq, Prod.mk.injEq] at same
  exact same.2.symm

theorem openWrapper_fails (backend : CryptoBackend) (room : Nat) (key : SecretKey)
    (val : WrapperFrame) :
    FailsOnlyWith (fun why => CompositionFailure why ∨
      why = .knx .secureAuthenticationFailed) (openWrapper backend room key val) := by
  unfold openWrapper
  dsimp only
  split
  · exact (failsOnlyWith_error _ _).mpr (.inl (.inl rfl))
  unfold openMessage
  split
  · rename_i why failed
    exact (failsOnlyWith_error _ _).mpr (.inl (ctr_fails _ _ _ _ _ why failed))
  split
  · rename_i why failed
    exact (failsOnlyWith_error _ _).mpr (.inl (cbcMac_fails _ _ _ _ _ why failed))
  split
  · exact failsOnlyWith_ok _ _
  · exact (failsOnlyWith_error _ _).mpr (.inr rfl)

end KmxAio.Knx.Secure
