import KmxAio.Lib.Wire

/-!
# AM824 frames

A frame carries the low half of its presentation time. The listener takes the high half from
a time of its own, one epoch earlier or later where that is nearer.
-/

namespace KmxAio.Avb

open Lib.Wire

/-- Nanoseconds of international atomic time. -/
abbrev TaiTimestamp := UInt64

structure StreamId where
  sourceMac : OctetArray 6
  uniqueId : UInt16
  deriving DecidableEq

structure Am824FrameView where
  streamId : StreamId
  sequenceNum : UInt8
  avtpTimestamp32 : UInt32
  payload : Octets
  deriving DecidableEq

inductive Am824Error where
  | einval | eproto | emsgsize
  deriving DecidableEq

def subtypeAaf : UInt8 := 0x02

def aafFormatAm824 : UInt8 := 0x10

def headerSize : Nat := 24

def toTimestamp32 (taiNs : TaiTimestamp) : UInt32 := (taiNs &&& 0xFFFFFFFF).toUInt32

def expandTimestamp32 (ts32 : UInt32) (referenceNs : TaiTimestamp) : TaiTimestamp :=
  let hi := referenceNs &&& 0xFFFFFFFF00000000
  let candidate := hi ||| ts32.toUInt64
  if candidate + 0x80000000 < referenceNs then candidate + 0x100000000
  else if candidate > referenceNs + 0x80000000 then candidate - 0x100000000
  else candidate

def buildAm824Frame (streamId : StreamId) (sequenceNum : UInt8)
    (presentationTimeNs : TaiTimestamp) (payload : Octets) : Except Am824Error Octets :=
  if payload.length > 0xFFFF then .error .einval
  else
    .ok ([subtypeAaf, 0x81, sequenceNum, 0] ++ streamId.sourceMac.toList ++
      u16Octets streamId.uniqueId ++ toBigEndian 4 (toTimestamp32 presentationTimeNs).toNat ++
      u16Octets (UInt16.ofNat payload.length) ++ [aafFormatAm824, 0x05, 0, 0, 0, 0] ++ payload)

def parseAm824Frame (frame : Octets) : Except Am824Error Am824FrameView :=
  if frame.length < headerSize then .error .einval
  else if octetAt frame 0 ≠ subtypeAaf then .error .eproto
  else
    let payloadLen := (readU16 frame 16).toNat
    if headerSize + payloadLen > frame.length then .error .emsgsize
    else
      .ok {
        streamId := ⟨readArray 6 4 frame, readU16 frame 10⟩
        sequenceNum := octetAt frame 2
        avtpTimestamp32 := UInt32.ofNat (ofBigEndian ((frame.drop 12).take 4))
        payload := (frame.drop headerSize).take payloadLen }

/-! ## The frame -/

theorem parseAm824Frame_ok {frame : Octets} {view : Am824FrameView}
    (subtype : octetAt frame 0 = subtypeAaf) (number : octetAt frame 2 = view.sequenceNum)
    (mac : readArray 6 4 frame = view.streamId.sourceMac)
    (unique : readU16 frame 10 = view.streamId.uniqueId)
    (time : UInt32.ofNat (ofBigEndian ((frame.drop 12).take 4)) = view.avtpTimestamp32)
    (size : (readU16 frame 16).toNat = view.payload.length)
    (length : frame.length = headerSize + view.payload.length)
    (rest : frame.drop headerSize = view.payload) : parseAm824Frame frame = .ok view := by
  have long : ¬frame.length < headerSize := by omega
  have whole : ¬headerSize + view.payload.length > frame.length := by omega
  rw [parseAm824Frame, if_neg long, if_neg (not_not.mpr subtype)]
  rw [size, if_neg whole, mac, unique, number, time, rest, List.take_length]

/-! ## The time -/

theorem high_or_low (reference : TaiTimestamp) (ts32 : UInt32) :
    ((reference &&& 0xFFFFFFFF00000000) ||| ts32.toUInt64).toNat =
      reference.toNat / 0x100000000 * 0x100000000 + ts32.toNat := by
  have mask : (0xFFFFFFFF00000000 : UInt64).toNat = (2 ^ 32 - 1) * 2 ^ 32 := rfl
  have high : (reference.toNat &&& (2 ^ 32 - 1) * 2 ^ 32) / 2 ^ 32 = _ := Nat.and_div_two_pow
  have low : (reference.toNat &&& (2 ^ 32 - 1) * 2 ^ 32) % 2 ^ 32 = _ := Nat.and_mod_two_pow
  rw [Nat.mul_div_cancel _ (Nat.two_pow_pos 32), Nat.and_two_pow_sub_one_eq_mod] at high
  rw [Nat.mul_mod_left, Nat.and_zero] at low
  have bound := reference.toNat_lt
  have parts := Nat.div_add_mod (reference.toNat &&& (2 ^ 32 - 1) * 2 ^ 32) (2 ^ 32)
  rw [high, low, Nat.add_zero] at parts
  rw [UInt64.toNat_or, UInt64.toNat_and, mask, ← parts, UInt32.toNat_toUInt64,
    ← Nat.two_pow_add_eq_or_of_lt ts32.toNat_lt]
  omega

theorem presentation_time_survives {time reference : TaiTimestamp} {payload : Octets}
    (streamId : StreamId) (sequenceNum : UInt8) (fits : payload.length ≤ 65535)
    (timeEarly : time.toNat < 0x8000000000000000)
    (referenceEarly : reference.toNat < 0x8000000000000000)
    (behind : reference.toNat < time.toNat + 0x80000000)
    (ahead : time.toNat < reference.toNat + 0x80000000) :
    ∃ frame view, buildAm824Frame streamId sequenceNum time payload = .ok frame ∧
      parseAm824Frame frame = .ok view ∧
      (view.streamId = streamId ∧ view.sequenceNum = sequenceNum ∧ view.payload = payload) ∧
      expandTimestamp32 view.avtpTimestamp32 reference = time := by
  obtain ⟨frame, built, parsed⟩ : ∃ frame, buildAm824Frame streamId sequenceNum time payload = .ok
      frame ∧ parseAm824Frame frame = .ok ⟨streamId, sequenceNum, toTimestamp32 time, payload⟩ := by
    refine ⟨_, if_neg (Nat.not_lt.mpr fits), ?_⟩
    have size : (UInt16.ofNat payload.length).toNat = payload.length :=
      UInt16.toNat_ofNat_of_lt' (Nat.lt_succ_of_le fits)
    have low : UInt32.ofNat (ofBigEndian (toBigEndian 4 (toTimestamp32 time).toNat)) =
        toTimestamp32 time := by
      rw [ofBigEndian_toBigEndian_of_lt (toTimestamp32 time).toNat_lt, UInt32.ofNat_toNat]
    obtain ⟨⟨mac, six⟩, unique⟩ := streamId
    -- With the six octets of the address written out, each field stands at its index.
    match mac, six with
    | [_, _, _, _, _, _], _ =>
      refine parseAm824Frame_ok rfl rfl rfl (readU16_append_left unique []) low
        ((congrArg UInt16.toNat (readU16_append_left _ [])).trans size) ?_ rfl
      simp [headerSize]
      omega
  refine ⟨frame, _, built, parsed, ⟨rfl, rfl, rfl⟩, ?_⟩
  have low : (toTimestamp32 time).toNat = time.toNat % 0x100000000 := by
    have mask : (0xFFFFFFFF : UInt64).toNat = 2 ^ 32 - 1 := rfl
    rw [toTimestamp32, UInt64.toNat_toUInt32, UInt64.toNat_and, mask,
      Nat.and_two_pow_sub_one_eq_mod, Nat.mod_mod]
  have candidate := high_or_low reference (toTimestamp32 time)
  apply UInt64.toNat_inj.mp
  unfold expandTimestamp32
  dsimp only
  split_ifs with earlier later <;>
    simp only [UInt64.lt_iff_toNat_lt, gt_iff_lt, UInt64.toNat_add, UInt64.toNat_sub,
      UInt64.reduceToNat] at * <;>
    omega

/-- A time before the wrap of its low half, heard after it. -/
theorem time_survives_wrap : ∃ frame view,
    buildAm824Frame ⟨zeroArray 6, 7⟩ 9 0x2FFFFFFF0 [1, 2] = .ok frame ∧
      parseAm824Frame frame = .ok view ∧
      (view.streamId = ⟨zeroArray 6, 7⟩ ∧ view.sequenceNum = 9 ∧ view.payload = [1, 2]) ∧
      expandTimestamp32 view.avtpTimestamp32 0x300000010 = 0x2FFFFFFF0 :=
  presentation_time_survives _ _ (by decide) (by decide) (by decide) (by decide) (by decide)

end KmxAio.Avb
