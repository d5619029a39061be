import KmxAio.Knx.Secure.Wrapper
import KmxAio.Knx.Secure.Recorded

/-!
# Wrappers there and back

Sealing, decoding and opening under one key give back the datagram and the fields
it was sealed with. Decoding and encoding give back the packet.
-/

namespace KmxAio.Knx.Secure

open Lib.Wire Knx.Frame

theorem wrapperBody_of_read {body : Octets} (large : 32 ≤ body.length) :
    wrapperBody (readWrapperBody body) = body := by
  simp only [wrapperBody, readWrapperBody, wrapperSecurityHeaderSize]
  have last : List.take 16 (body.drop (body.length - 16)) = body.drop (body.length - 16) :=
    List.take_of_length_le (by rw [List.length_drop]; omega)
  have behind : 16 + (body.length - 16 - 16) = body.length - 16 := by omega
  have payload := take_append_drop_add body 16 (body.length - 16 - 16)
  rw [behind] at payload
  rw [u16Octets_readU16 (by omega), readArray_toList (by omega), readArray_toList (by omega),
    readArray_toList (by omega), readArray_toList (by omega), last, payload,
    take_append_drop_add body 14 2, take_append_drop_add body 8 6, take_append_drop_add body 2 6,
    take_append_drop_add body 0 2, List.drop_zero]

theorem encodeWrapperPacket_decoded {pkt : Octets} {val : WrapperFrame} {capacity : Nat}
    (decoded : decodeWrapperPacket pkt = .ok val) (fits : pkt.length ≤ capacity) :
    encodeWrapperPacket capacity val = .ok pkt := by
  unfold decodeWrapperPacket at decoded
  cases read : decodeCommunicationHeader pkt with
  | error why => simp [read] at decoded
  | ok header =>
    obtain ⟨-, framed⟩ := headerOctets_of_decoded read
    simp only [read] at decoded
    split at decoded
    · cases decoded
    rename_i service
    split at decoded
    · cases decoded
    rename_i sized
    simp only [ne_eq, Decidable.not_not] at service
    simp only [wrapperOverhead, minWrappedFrameSize, ne_eq, not_or, Decidable.not_not,
      Nat.not_lt] at sized
    obtain ⟨total, large⟩ := sized
    have bodyLength : (pkt.drop communicationHeaderSize).length = pkt.length - 6 := by
      rw [List.length_drop, communicationHeaderSize]
    have body := @wrapperBody_of_read (pkt.drop communicationHeaderSize)
      (by rw [bodyLength]; omega)
    simp only [Except.ok.injEq] at decoded
    rw [decoded] at body
    have length : wrapperOverhead + val.encryptedFrame.length = pkt.length := by
      have size := wrapperBody_length val
      rw [body, bodyLength] at size
      simp only [wrapperOverhead]
      omega
    have most : pkt.length ≤ maxTotalLength := by
      rw [← total, maxTotalLength]
      have bound := header.totalLength.toNat_lt
      omega
    have announced : UInt16.ofNat pkt.length = header.totalLength := by
      rw [← total, UInt16.ofNat_toNat]
    have payload : ¬ val.encryptedFrame.length < minWrappedFrameSize := by
      simp only [wrapperOverhead, minWrappedFrameSize] at length ⊢
      omega
    have room : ¬ (pkt.length > maxTotalLength ∨ capacity < pkt.length) := by
      omega
    have layout : wrapperPrefix val.toWrapperFields pkt.length ++
        (val.encryptedFrame ++ val.mac.toList) =
        headerOctets wrapperService (UInt16.ofNat pkt.length) ++ wrapperBody val := by
      simp [wrapperPrefix, wrapperBody]
    simp only [encodeWrapperPacket, if_neg payload, length, if_neg room, layout, announced, body]
    rw [← service, framed]

/-- Sealing, decoding and opening under one key lose nothing, and a packet that decodes is
reproduced by encoding it: with a counter mode that undoes itself, whichever key, fields and datagram
are sealed. -/
theorem wrapper_roundTrip (backend : CryptoBackend) (inverse : backend.CtrInverse) :
    (∀ (capacity room : Nat) (key : SecretKey) (fields : WrapperFields)
      (plainFrame pkt : Octets),
      sealWrapper backend capacity key fields plainFrame = .ok pkt →
      plainFrame.length ≤ room →
        ∃ val, decodeWrapperPacket pkt = .ok val ∧
          val.sessionId = fields.sessionId ∧ val.sequence = fields.sequence ∧
          val.serialNumber = fields.serialNumber ∧ val.messageTag = fields.messageTag ∧
          openWrapper backend room key val = .ok plainFrame) ∧
    (∀ (pkt : Octets) (val : WrapperFrame) (capacity : Nat),
      decodeWrapperPacket pkt = .ok val → pkt.length ≤ capacity →
        encodeWrapperPacket capacity val = .ok pkt) := by
  refine ⟨?_, fun pkt val capacity => encodeWrapperPacket_decoded⟩
  intro capacity room key fields plainFrame pkt succeeded fits
  obtain ⟨wrap, covered⟩ := sealWrapper_ok succeeded
  have length := wrap.encrypted_length
  have allowed := wrap.allowed.2
  have within : ¬ (room < wrap.encrypted.length ∨
      wrapperOverhead + wrap.encrypted.length > maxTotalLength) := by
    simp only [maxWrappedFrameSize, maxDatagramSize, wrapperOverhead, maxTotalLength] at allowed ⊢
    omega
  have message : wrapperMessage fields wrap.encrypted =
      { wrapperMessage fields plainFrame with payload := wrap.encrypted } := by
    simp only [wrapperMessage, length]
  refine ⟨wrap.frame, decodeWrapperPacket_sealed wrap, rfl, rfl, rfl, rfl, ?_⟩
  -- counter mode gives back the MAC and the payload, and the MAC is computed over the same blocks
  obtain ⟨plainMac, computed, encrypts⟩ := sealMessage_ok covered
  have decrypted := inverse encrypts
  simp only [openWrapper, Sealed.frame, if_neg within, message]
  simp only [openMessage, ctr, decrypted, computed, if_true]
  rfl

/-! ## A recorded wrapper

A tunnelling acknowledgement in session 1. The values are what AES-128 computes. -/

def acknowledgementKey : SecretKey :=
  readArray 16 0 [15, 30, 45, 60, 75, 90, 105, 120, 135, 150, 165, 180, 195, 210, 225, 240]

def acknowledgementFields : WrapperFields :=
  { sessionId := 1
    sequence := encodeSequence 7
    serialNumber := readArray 6 0 [0x00, 0xFA, 0x00, 0x00, 0x00, 0x01]
    messageTag := readArray 2 0 [] }

def acknowledgementRecording : Recording where
  macs :=
    [((acknowledgementKey,
        [0, 0, 0, 0, 0, 7, 0, 250, 0, 0, 0, 1, 0, 0, 0, 10, 0, 8, 6, 16, 9, 80, 0, 48, 0, 1, 6, 16,
          4, 33, 0, 10, 4, 1, 0, 0, 0, 0, 0, 0, 0, 0, 0, 0, 0, 0, 0, 0]),
        readArray 16 0 [242, 234, 186, 212, 239, 177, 130, 29, 55, 50, 239, 194, 85, 127, 36, 187])]
  streams :=
    [((acknowledgementKey,
        readArray 16 0 [0, 0, 0, 0, 0, 7, 0, 250, 0, 0, 0, 1, 0, 0, 255, 0]),
        [139, 241, 125, 109, 121, 224, 167, 227, 253, 222, 230, 88, 128, 103, 28, 109, 165, 143,
          68, 20, 91, 201, 247, 241, 224, 25])]

def acknowledgementFrame : Octets := [0x06, 0x10, 0x04, 0x21, 0x00, 0x0A, 0x04, 0x01, 0x00, 0x00]

def acknowledgementPacket : Octets :=
  [6, 16, 9, 80, 0, 48, 0, 1, 0, 0, 0, 0, 0, 7, 0, 250, 0, 0, 0, 1, 0, 0, 163, 159, 64, 53, 91, 195,
    243, 240, 224, 25, 121, 27, 199, 185, 150, 81, 37, 254, 202, 236, 9, 154, 213, 24, 56, 214]

theorem acknowledgement_sealed :
    sealWrapper acknowledgementRecording.backend maxDatagramSize acknowledgementKey
      acknowledgementFields acknowledgementFrame = .ok acknowledgementPacket := by
  decide +kernel

/-- The recorded wrapper decodes and opens to the acknowledgement, and encodes to itself. -/
theorem acknowledgement_roundTrip :
    ∃ val, decodeWrapperPacket acknowledgementPacket = .ok val ∧
      openWrapper acknowledgementRecording.backend 10 acknowledgementKey val =
        .ok acknowledgementFrame ∧
      encodeWrapperPacket maxDatagramSize val = .ok acknowledgementPacket := by
  have roundTrip := wrapper_roundTrip acknowledgementRecording.backend
    acknowledgementRecording.backend_ctrInverse
  obtain ⟨val, decoded, -, -, -, -, opened⟩ := roundTrip.1 _ 10 _ _ _ _ acknowledgement_sealed
    (by decide)
  exact ⟨val, decoded, opened, roundTrip.2 _ _ _ decoded (by decide)⟩

/-- A message opens to a plain text exactly if sealing it gives the octets and MAC received. -/
theorem opens_exactly_sealed {backend : CryptoBackend} (inverse : backend.CtrInverse)
    (key : SecretKey) (val : Message) (mac : Mac) (plain : Octets) :
    openMessage backend key val mac = .ok plain ↔
      sealMessage backend key { val with payload := plain } = .ok (mac, val.payload) := by
  constructor
  · intro opened
    obtain ⟨plainMac, computed, decrypts⟩ := openMessage_ok opened
    simp only [sealMessage, computed, ctr, inverse decrypts, readArray_self]
  · intro covered
    obtain ⟨plainMac, computed, encrypts⟩ := sealMessage_ok covered
    simp only [openMessage, ctr, inverse encrypts, computed, if_true]

theorem opens_exactly_acknowledgement :
    openMessage acknowledgementRecording.backend acknowledgementKey
      { wrapperMessage acknowledgementFields acknowledgementFrame with
        payload := (acknowledgementPacket.drop 22).take 10 } (readArray 16 32 acknowledgementPacket) =
      .ok acknowledgementFrame :=
  (opens_exactly_sealed acknowledgementRecording.backend_ctrInverse _ _ _ _).mpr
    (by decide +kernel)

end KmxAio.Knx.Secure
