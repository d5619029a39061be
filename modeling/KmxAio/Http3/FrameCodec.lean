import KmxAio.Http3.Varint
import KmxAio.Lib.Scan

/-!
# The frame envelope

A frame is a type and a payload; its encoding is the type, the payload's length
(both variable-length integers) and the payload. One decoder reads the frame at the
front of a buffer, another every frame of a buffer.
-/

namespace KmxAio.Http3

open Lib.Wire
open KmxAio.Lib.Scan (Reader)

/-! ## The codec -/

namespace FrameType

-- The types the codecs tell apart; any other 64-bit number is a type as well.

def data : UInt64 := 0x0
def headers : UInt64 := 0x1
def settings : UInt64 := 0x4
def pushPromise : UInt64 := 0x5
def goaway : UInt64 := 0x7

end FrameType

structure Frame where
  type : UInt64
  payload : Octets
  deriving DecidableEq

namespace FrameCodec

def encode (type : UInt64) (payload : Octets) : Octets :=
  encodeVarint type ++ (encodeVarint (UInt64.ofNat payload.length) ++ payload)

/-- The frame at an offset and the offset behind it: `decode` at the front of a buffer, and one pass
of the loop of `decode_all`. -/
def readFrame (payload : Octets) (offset : Nat) : Except Failure (Frame × Nat) :=
  match decodeVarint payload offset with
  | .error _ => .error .frameError
  | .ok (type, typeSize) =>
    match decodeVarint payload (offset + typeSize) with
    | .error _ => .error .frameError
    | .ok (length, lengthSize) =>
      let payloadOffset := offset + typeSize + lengthSize
      if payload.length < payloadOffset + length.toNat then .error .frameError
      else
        .ok ({ type := type, payload := (payload.drop payloadOffset).take length.toNat },
          payloadOffset + length.toNat)

theorem readFrame_advances {payload : Octets} {offset next : Nat} {frame : Frame}
    (read : readFrame payload offset = .ok (frame, next)) : offset < next := by
  unfold readFrame at read
  cases type : decodeVarint payload offset with
  | error why =>
    rw [type] at read
    cases read
  | ok typeRead =>
    rw [type] at read
    have typeBounds := decodeVarint_bounds type
    cases length : decodeVarint payload (offset + typeRead.2) with
    | error why =>
      simp only [length] at read
      cases read
    | ok lengthRead =>
      simp only [length] at read
      split at read
      · cases read
      · cases read
        omega

def decode (payload : Octets) : Except Failure Frame :=
  (readFrame payload 0).map Prod.fst

def reader : Reader UInt8 Frame Failure := ⟨readFrame, readFrame_advances⟩

def decodeAll (payload : Octets) : Except Failure (List Frame) := reader.collect payload

end FrameCodec

/-! ## Reading frames back -/

namespace Frame

def encode (frame : Frame) : Octets := FrameCodec.encode frame.type frame.payload

def Encodable (frame : Frame) : Prop := frame.type.toNat < limit ∧ frame.payload.length < limit

instance (frame : Frame) : Decidable frame.Encodable := inferInstanceAs (Decidable (_ ∧ _))

theorem encode_length_pos (frame : Frame) : 0 < frame.encode.length := by
  have positive := varintSize_pos frame.type
  rw [encode, FrameCodec.encode, List.length_append, encodeVarint_length]
  omega

end Frame

namespace FrameCodec

theorem truncated_length (payload : Octets) :
    (truncated (UInt64.ofNat payload.length)).toNat = payload.length % limit := by
  rw [truncated_toNat, UInt64.toNat_ofNat', limit]
  omega

/-- What is read from an encoding: the type and as much of the payload as its encoded length says. -/
theorem readFrame_encode (frame : Frame) (before after : Octets) :
    ∃ next, readFrame (before ++ (frame.encode ++ after)) before.length =
      .ok ({ type := truncated frame.type,
             payload := frame.payload.take (frame.payload.length % limit) }, next) ∧
      (frame.payload.length < limit → next = before.length + frame.encode.length) := by
  obtain ⟨type, payload⟩ := frame
  have typeRead := decodeVarint_encodeVarint type before
    (encodeVarint (UInt64.ofNat payload.length) ++ (payload ++ after))
  have lengthRead := decodeVarint_encodeVarint (UInt64.ofNat payload.length)
    (before ++ encodeVarint type) (payload ++ after)
  have short := Nat.mod_le payload.length limit
  simp only [Frame.encode, encode, List.append_assoc, List.length_append] at lengthRead ⊢
  rw [readFrame, typeRead]
  dsimp only
  rw [lengthRead]
  have skip : (before ++ (encodeVarint type ++ (encodeVarint (UInt64.ofNat payload.length) ++
      (payload ++ after)))).drop (before.length + (encodeVarint type).length +
        (encodeVarint (UInt64.ofNat payload.length)).length) = payload ++ after := by
    rw [← List.append_assoc, ← List.append_assoc]
    exact List.drop_left' (by simp only [List.length_append])
  dsimp only
  rw [skip, truncated_length, if_neg (by simp only [List.length_append]; omega),
    List.take_append_of_le_length short]
  refine ⟨_, rfl, ?_⟩
  intro fits
  rw [Nat.mod_eq_of_lt fits]
  omega

theorem readsBack_of_encodable {frame : Frame} (encodable : frame.Encodable) :
    reader.ReadsBack Frame.encode id frame := by
  intro before after
  obtain ⟨next, read, behind⟩ := readFrame_encode frame before after
  show readFrame _ _ = _
  rw [read, behind encodable.2, (truncated_eq_iff _).mpr encodable.1,
    Nat.mod_eq_of_lt encodable.2, List.take_length]
  rfl

theorem encodable_of_readFrame {frame : Frame} {before after : Octets} {next : Nat}
    (read : readFrame (before ++ (frame.encode ++ after)) before.length = .ok (frame, next)) :
    frame.Encodable := by
  obtain ⟨found, actual, _⟩ := readFrame_encode frame before after
  rw [actual] at read
  have same := congrArg Prod.fst (Except.ok.inj read)
  have type := congrArg Frame.type same
  have length := congrArg (List.length ∘ Frame.payload) same
  simp only [Function.comp_apply, List.length_take] at length
  have short := Nat.mod_lt frame.payload.length (by decide : 0 < limit)
  exact ⟨(truncated_eq_iff _).mp type, by omega⟩

theorem decodeAll_flatMap_iff (frames : List Frame) :
    decodeAll (frames.flatMap Frame.encode) = .ok frames ↔ ∀ frame ∈ frames, frame.Encodable :=
  Reader.collect_flatMap_iff Frame.encode_length_pos (fun _ => readsBack_of_encodable)
    fun _ _ _ _ => encodable_of_readFrame

theorem decode_iff (frame : Frame) (after : Octets) :
    decode (frame.encode ++ after) = .ok frame ↔ frame.Encodable := by
  constructor
  · intro decoded
    unfold decode at decoded
    cases read : readFrame (frame.encode ++ after) 0 with
    | error why =>
      rw [read] at decoded
      cases decoded
    | ok found =>
      rw [read] at decoded
      obtain ⟨first, next⟩ := found
      cases decoded
      have front : readFrame ([] ++ (first.encode ++ after)) ([] : Octets).length = _ := read
      exact encodable_of_readFrame front
  · intro encodable
    have read : readFrame (frame.encode ++ after) 0 = _ := readsBack_of_encodable encodable [] after
    rw [decode, read]
    rfl

end FrameCodec

end KmxAio.Http3
