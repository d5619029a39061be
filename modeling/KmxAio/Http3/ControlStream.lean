import KmxAio.Http3.SettingsCodec

/-!
# The control stream

A control stream is its stream type, one SETTINGS frame and then other frames, of
which GOAWAY is the one that is read. What is written is read back up to the two
high bits that an integer has no room for.
-/

namespace KmxAio.Http3

open Lib.Wire

/-! ## The codecs -/

structure GoawayFrame where
  streamId : UInt64
  deriving DecidableEq

namespace GoawayCodec

def encode (val : GoawayFrame) : Octets := encodeVarint val.streamId

def decode (payload : Octets) : Except Failure GoawayFrame :=
  match decodeVarint payload 0 with
  | .error _ => .error .idError
  | .ok (streamId, length) =>
    if length ≠ payload.length then .error .idError
    else .ok { streamId := streamId }

def encodeFrame (val : GoawayFrame) : Octets := FrameCodec.encode FrameType.goaway (encode val)

end GoawayCodec

structure ControlStreamState where
  sawSettings : Bool := false
  negotiatedSettings : Settings := {}
  goaway : Option GoawayFrame := none
  deriving DecidableEq

namespace ControlStreamCodec

def control : UInt64 := 0x0

def encodeOpening (val : Settings) : Octets :=
  encodeVarint control ++ SettingsCodec.encodeFrame val

def appendGoaway (controlStreamBytes : Octets) (val : GoawayFrame) : Octets :=
  controlStreamBytes ++ GoawayCodec.encodeFrame val

def applyControlFrame (state : ControlStreamState) (frame : Frame) :
    Except Failure ControlStreamState :=
  if frame.type = FrameType.settings then
    if state.sawSettings then .error .settingsError
    else
      match SettingsCodec.decode frame.payload with
      | .error why => .error why
      | .ok settings => .ok { state with sawSettings := true, negotiatedSettings := settings }
  else if frame.type = FrameType.goaway then
    match GoawayCodec.decode frame.payload with
    | .error why => .error why
    | .ok goaway => .ok { state with goaway := some goaway }
  else if frame.type = FrameType.data ∨ frame.type = FrameType.headers ∨
      frame.type = FrameType.pushPromise then
    .error .frameUnexpected
  else .ok state

def applyFrames : Bool → ControlStreamState → List Frame → Except Failure ControlStreamState
  | _, state, [] => .ok state
  | firstFrame, state, frame :: frames =>
    if firstFrame ∧ frame.type ≠ FrameType.settings then .error .missingSettings
    else
      match applyControlFrame state frame with
      | .error why => .error why
      | .ok next => applyFrames false next frames

def decode (payload : Octets) : Except Failure ControlStreamState :=
  match decodeVarint payload 0 with
  | .error why => .error why
  | .ok (streamType, length) =>
    if streamType ≠ control then .error .streamCreationError
    else
      match FrameCodec.decodeAll (payload.drop length) with
      | .error why => .error why
      | .ok frames =>
        match applyFrames true {} frames with
        | .error why => .error why
        | .ok state => if !state.sawSettings then .error .missingSettings else .ok state

end ControlStreamCodec

open ControlStreamCodec

/-! ## Reading a control stream back -/

namespace GoawayFrame

variable (val : GoawayFrame)

def truncated : GoawayFrame := { streamId := Http3.truncated val.streamId }

theorem truncated_eq_iff :
    val.truncated = val ↔ val.streamId.toNat < limit := by
  obtain ⟨streamId⟩ := val
  simp [truncated, Http3.truncated_eq_iff]

def frame : Frame := ⟨FrameType.goaway, GoawayCodec.encode val⟩

@[simp] theorem frame_type : val.frame.type = FrameType.goaway := rfl

theorem frame_encodable : val.frame.Encodable := by
  have size := varintSize_le val.streamId
  refine ⟨by rw [frame_type]; decide, ?_⟩
  rw [frame, GoawayCodec.encode, encodeVarint_length, limit]
  omega

end GoawayFrame

theorem GoawayCodec.decode_encode (val : GoawayFrame) :
    decode (encode val) = .ok val.truncated := by
  have read : decodeVarint (encodeVarint val.streamId ++ []) 0 = _ :=
    decodeVarint_encodeVarint val.streamId [] []
  rw [List.append_nil] at read
  rw [decode, encode, read]
  exact if_neg fun other => other rfl

def Settings.frame (val : Settings) : Frame := ⟨FrameType.settings, SettingsCodec.encode val⟩

@[simp] theorem Settings.frame_type (val : Settings) : val.frame.type = FrameType.settings := rfl

theorem Settings.frame_encodable (val : Settings) : val.frame.Encodable :=
  ⟨by rw [frame_type]; decide, SettingsCodec.encode_length_lt val⟩

namespace ControlStreamCodec

theorem foldl_appendGoaway (goaways : List GoawayFrame) (octets : Octets) :
    goaways.foldl appendGoaway octets =
      octets ++ (goaways.map GoawayFrame.frame).flatMap Frame.encode := by
  induction goaways generalizing octets with
  | nil => simp
  | cons goaway goaways ih =>
    rw [List.foldl_cons, ih, appendGoaway, List.append_assoc]
    rfl

theorem applyFrames_goaways (goaways : List GoawayFrame) (state : ControlStreamState) :
    applyFrames false state (goaways.map GoawayFrame.frame) =
      .ok { state with goaway := (goaways.getLast?.map GoawayFrame.truncated).or state.goaway } := by
  induction goaways generalizing state with
  | nil => rfl
  | cons goaway goaways ih =>
    have applied : applyControlFrame state goaway.frame =
        .ok { state with goaway := some goaway.truncated } := by
      have decoded : GoawayCodec.decode goaway.frame.payload = .ok goaway.truncated :=
        GoawayCodec.decode_encode goaway
      rw [applyControlFrame, if_neg (by rw [GoawayFrame.frame_type]; decide),
        if_pos goaway.frame_type, decoded]
    rw [List.map_cons, applyFrames, if_neg (by simp), applied]
    dsimp only
    rw [ih, List.getLast?_cons]
    cases goaways.getLast? <;> rfl

theorem decode_opening (settings : Settings) (goaways : List GoawayFrame) :
    decode (goaways.foldl appendGoaway (encodeOpening settings)) =
      .ok { sawSettings := true
            negotiatedSettings := settings.truncated
            goaway := goaways.getLast?.map GoawayFrame.truncated } := by
  have stream : goaways.foldl appendGoaway (encodeOpening settings) =
      encodeVarint control ++
        (settings.frame :: goaways.map GoawayFrame.frame).flatMap Frame.encode := by
    rw [foldl_appendGoaway, encodeOpening, List.append_assoc]
    rfl
  have type : decodeVarint (encodeVarint control ++
      (settings.frame :: goaways.map GoawayFrame.frame).flatMap Frame.encode) 0 = _ :=
    decodeVarint_encodeVarint control [] _
  have encodable : ∀ frame ∈ settings.frame :: goaways.map GoawayFrame.frame, frame.Encodable := by
    refine List.forall_mem_cons.mpr ⟨settings.frame_encodable, ?_⟩
    intro frame member
    obtain ⟨goaway, _, rfl⟩ := List.mem_map.mp member
    exact goaway.frame_encodable
  rw [stream, decode, type]
  dsimp only
  rw [if_neg (by decide), List.drop_left, (FrameCodec.decodeAll_flatMap_iff _).mpr encodable]
  dsimp only
  have decoded : SettingsCodec.decode settings.frame.payload = .ok settings.truncated :=
    SettingsCodec.decode_encode settings
  rw [applyFrames, if_neg fun other => other.2 settings.frame_type, applyControlFrame,
    if_pos settings.frame_type, if_neg (by decide), decoded]
  dsimp only
  rw [applyFrames_goaways]
  simp

/-! ## What is accepted -/

def Allowed (frame : Frame) : Prop :=
  frame.type ≠ FrameType.settings ∧ frame.type ≠ FrameType.data ∧ frame.type ≠ FrameType.headers ∧
    frame.type ≠ FrameType.pushPromise

variable {state final : ControlStreamState}

theorem applyFrames_allowed {frames : List Frame} (saw : state.sawSettings = true)
    (applied : applyFrames false state frames = .ok final) : ∀ frame ∈ frames, Allowed frame := by
  induction frames generalizing state with
  | nil => simp
  | cons frame frames ih =>
    rw [applyFrames, if_neg (by simp)] at applied
    cases one : applyControlFrame state frame with
    | error why =>
      rw [one] at applied
      cases applied
    | ok next =>
      rw [one] at applied
      obtain ⟨allowed, still⟩ : Allowed frame ∧ next.sawSettings = true := by
        rw [applyControlFrame] at one
        by_cases settings : frame.type = FrameType.settings
        · rw [if_pos settings, if_pos saw] at one
          cases one
        rw [if_neg settings] at one
        by_cases goaway : frame.type = FrameType.goaway
        · rw [if_pos goaway] at one
          cases decoded : GoawayCodec.decode frame.payload with
          | error why =>
            rw [decoded] at one
            cases one
          | ok last =>
            rw [decoded] at one
            cases one
            refine ⟨⟨settings, ?_, ?_, ?_⟩, saw⟩
            all_goals
              rw [goaway]
              decide
        · rw [if_neg goaway] at one
          split at one
          · cases one
          rename_i req
          cases one
          simp only [not_or] at req
          exact ⟨⟨settings, req⟩, saw⟩
      exact List.forall_mem_cons.mpr ⟨allowed, ih still applied⟩

theorem decode_strict {payload : Octets} (accepted : decode payload = .ok state) :
    ∃ length first rest, decodeVarint payload 0 = .ok (control, length) ∧
      FrameCodec.decodeAll (payload.drop length) = .ok (first :: rest) ∧
      first.type = FrameType.settings ∧ ∀ frame ∈ rest, Allowed frame := by
  rw [decode] at accepted
  cases type : decodeVarint payload 0 with
  | error why =>
    rw [type] at accepted
    cases accepted
  | ok typeRead =>
    obtain ⟨streamType, length⟩ := typeRead
    rw [type] at accepted
    dsimp only at accepted
    by_cases isControl : streamType = control
    · rw [if_neg (not_not_intro isControl)] at accepted
      cases decoded : FrameCodec.decodeAll (payload.drop length) with
      | error why =>
        rw [decoded] at accepted
        cases accepted
      | ok frames =>
        rw [decoded] at accepted
        dsimp only at accepted
        cases applied : applyFrames true {} frames with
        | error why =>
          rw [applied] at accepted
          cases accepted
        | ok final =>
          have saw : final.sawSettings = true := by
            by_contra unseen
            rw [applied] at accepted
            simp [unseen] at accepted
          obtain ⟨first, rest, rfl, settings, allowed⟩ : ∃ first rest, frames = first :: rest ∧
              first.type = FrameType.settings ∧ ∀ frame ∈ rest, Allowed frame := by
            cases frames with
            | nil =>
              cases applied
              cases saw
            | cons first rest =>
              rw [applyFrames] at applied
              by_cases settings : first.type = FrameType.settings
              · rw [if_neg fun other => other.2 settings, applyControlFrame, if_pos settings,
                  if_neg (by decide)] at applied
                cases parsed : SettingsCodec.decode first.payload with
                | error why =>
                  rw [parsed] at applied
                  cases applied
                | ok negotiated =>
                  rw [parsed] at applied
                  exact ⟨first, rest, rfl, settings, applyFrames_allowed rfl applied⟩
              · rw [if_pos ⟨rfl, settings⟩] at applied
                cases applied
          exact ⟨length, first, rest, by rw [isControl], decoded, settings, allowed⟩
    · rw [if_pos isControl] at accepted
      cases accepted

end ControlStreamCodec

/-- Frames are read back from their concatenated encodings, and a control stream with its settings and
its last GOAWAY, exactly when the numbers in them have room in a variable-length integer. What is
accepted as a control stream begins with its only SETTINGS frame and has no frame of a request. -/
theorem framing_lossless_iff_and_strict (frames : List Frame) (settings : Settings)
    (goaways : List GoawayFrame) (payload : Octets) :
    (FrameCodec.decodeAll (frames.flatMap Frame.encode) = .ok frames ↔
      ∀ frame ∈ frames, frame.Encodable) ∧
    (∀ first ∈ frames.head?,
      (FrameCodec.decode (frames.flatMap Frame.encode) = .ok first ↔ first.Encodable)) ∧
    (decode
          (goaways.foldl appendGoaway (encodeOpening settings)) =
        .ok { sawSettings := true, negotiatedSettings := settings, goaway := goaways.getLast? } ↔
      settings.Encodable ∧ ∀ last ∈ goaways.getLast?, last.streamId.toNat < limit) ∧
    ∀ state, decode payload = .ok state →
      ∃ length first rest, decodeVarint payload 0 = .ok (control, length) ∧
        FrameCodec.decodeAll (payload.drop length) = .ok (first :: rest) ∧
        first.type = FrameType.settings ∧
        ∀ frame ∈ rest, frame.type ≠ FrameType.settings ∧ frame.type ≠ FrameType.data ∧
          frame.type ≠ FrameType.headers ∧ frame.type ≠ FrameType.pushPromise := by
  refine ⟨FrameCodec.decodeAll_flatMap_iff frames, ?_, ?_, ?_⟩
  · intro first head
    obtain ⟨rest, rfl⟩ := List.head?_eq_some_iff.mp head
    exact FrameCodec.decode_iff first _
  · rw [decode_opening, ← settings.truncated_eq_iff]
    cases goaways.getLast? with
    | none => simp
    | some last => simp [last.truncated_eq_iff]
  · intro state
    exact decode_strict

/-- The first of two frames is read, and an opened control stream with two GOAWAYs is accepted. -/
theorem framing_lossless_iff_and_strict_opened :
    (FrameCodec.decode ([⟨FrameType.data, [1, 2]⟩, ⟨FrameType.headers, []⟩].flatMap Frame.encode) =
        .ok ⟨FrameType.data, [1, 2]⟩ ↔ Frame.Encodable ⟨FrameType.data, [1, 2]⟩) ∧
    decode ([⟨8⟩, ⟨4⟩].foldl appendGoaway
      (encodeOpening {})) =
        .ok { sawSettings := true, negotiatedSettings := {}, goaway := some ⟨4⟩ } ∧
    ∃ length first rest,
      decodeVarint ([⟨8⟩, ⟨4⟩].foldl appendGoaway (encodeOpening {})) 0 = .ok (control, length) ∧
      FrameCodec.decodeAll (([⟨8⟩, ⟨4⟩].foldl appendGoaway
        (encodeOpening {})).drop length) = .ok (first :: rest) ∧
      first.type = FrameType.settings ∧
      ∀ frame ∈ rest, frame.type ≠ FrameType.settings ∧ frame.type ≠ FrameType.data ∧
        frame.type ≠ FrameType.headers ∧ frame.type ≠ FrameType.pushPromise := by
  have result := framing_lossless_iff_and_strict
    [⟨FrameType.data, [1, 2]⟩, ⟨FrameType.headers, []⟩] {} [⟨8⟩, ⟨4⟩]
    ([⟨8⟩, ⟨4⟩].foldl appendGoaway (encodeOpening {}))
  have accepted := result.2.2.1.mpr (by decide)
  exact ⟨result.2.1 _ rfl, accepted, result.2.2.2 _ accepted⟩

/-- A setting and a GOAWAY of `2 ^ 62` are both read as zero. -/
theorem large_values_read_as_zero :
    decode (appendGoaway
      (encodeOpening { qpackMaxTableCapacity := 0x4000000000000000 })
        ⟨0x4000000000000000⟩) =
      .ok { sawSettings := true, negotiatedSettings := {}, goaway := some ⟨0⟩ } := by
  decide +kernel

end KmxAio.Http3
