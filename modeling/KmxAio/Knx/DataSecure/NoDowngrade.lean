import KmxAio.Knx.DataSecure.Replay

/-!
# No telegram of a keyed group in the clear

The context reads a frame by itself, beside the decoder of the layer above. The two
agree: whatever decodes as a telegram to a group with a key is one for the context
too.
-/

namespace KmxAio.Knx.DataSecure

open Lib.Wire Cemi Secure

/-! ## The two readers -/

theorem serviceOf_secure {octets : Octets} {index : Nat}
    (high : octetAt octets index &&& serviceApciHigh = serviceApciHigh)
    (low : octetAt octets (index + 1) = serviceApciLow) :
    serviceOf (readU16 octets index &&& 0x03FF) = secureServiceApci := by
  have bits : (octetAt octets index).toNat % 4 = 3 := by
    have masked := congrArg UInt8.toNat high
    exact (Nat.and_two_pow_sub_one_eq_mod (octetAt octets index).toNat 2).symm.trans masked
  have raw : readU16 octets index &&& 0x03FF = 0x3F1 := by
    apply UInt16.toNat_inj.mp
    rw [UInt16.toNat_and]
    refine (Nat.and_two_pow_sub_one_eq_mod _ 10).trans ?_
    rw [readU16, low, UInt16.toNat_ofNat']
    have val : serviceApciLow.toNat = 241 := rfl
    have result : (0x3F1 : UInt16).toNat = 1009 := rfl
    omega
  rw [raw]
  decide

/-- What decodes as an L_Data message is viewed, with the same addresses and the same service. -/
theorem view_of_decode {cemi : Octets} {frame : CemiFrame} (decoded : decode cemi = .ok frame) :
    ∃ seen, view cemi = some seen ∧ seen.group = frame.groupAddressed ∧
      seen.binding.source = frame.source ∧ seen.binding.destination = frame.destination ∧
      (seen.secured = true → frame.applicationService = secureServiceApci) := by
  unfold decode at decoded
  split at decoded
  · cases decoded
  rename_i long
  split at decoded
  · cases decoded
  rename_i code coded
  dsimp only at decoded
  split at decoded
  · cases decoded
  rename_i fits
  split at decoded
  · cases decoded
  split at decoded
  · cases decoded
  rename_i sized
  cases decoded
  refine ⟨viewAt cemi code (prologueSize + (octetAt cemi 1).toNat), view_eq_some.mpr
    ⟨Nat.le_of_not_lt long, coded, rfl, ?_, rfl⟩, rfl, rfl, rfl, fun secured => ?_⟩
  · have size := not_not.mp sized
    unfold encodedSize at size
    dsimp only [viewAt]
    omega
  · obtain ⟨-, high, low⟩ := of_decide_eq_true secured
    exact serviceOf_secure high low

/-! ## Opening -/

def MacVerifies (backend : CryptoBackend) (key : SecretKey) (binding : FrameBinding)
    (secured : Octets) : Prop :=
  ∃ control received plain mac, decodeSecurityControl (octetAt secured 0) = .ok control ∧
    decryptApdu backend key binding control.algorithm secured = .ok (received, plain) ∧
    telegramMac backend key (octetAt secured 0) (readArray sequenceSize 1 secured) binding
      control.algorithm plain = .ok mac ∧
    mac.toList.take macSize = received

namespace Context

variable {ctx : Context} {backend : CryptoBackend} {frame : FrameView} {cemi : Octets}
  {key : SecretKey}

theorem openSecured_ok {opened : Octets}
    (succeeded : (ctx.openSecured backend frame cemi).2 = .ok opened) :
    ∃ key, ctx.configuration.keyFor frame.binding.destination = some key ∧
      ctx.configuration.senderAllowed frame.binding.source frame.binding.destination = true ∧
      MacVerifies backend key frame.binding (frame.securedApdu cemi) := by
  unfold openSecured at succeeded
  dsimp only at succeeded
  split at succeeded
  · cases succeeded
  rename_i admitted key admission
  have allowed : ctx.configuration.keyFor frame.binding.destination = some key ∧
      ctx.configuration.senderAllowed frame.binding.source frame.binding.destination = true := by
    unfold admitSecured at admission
    split at admission
    · cases admission
    split at admission
    · rename_i found trusted
      cases admission
      exact ⟨found, trusted⟩
    · cases admission
  split at succeeded
  · cases succeeded
  rename_i plain authentic
  refine ⟨key, allowed.1, allowed.2, ?_⟩
  unfold openApdu at authentic
  split at authentic
  · cases authentic
  split at authentic
  · cases authentic
  rename_i control decoded
  dsimp only at authentic
  split at authentic
  · cases authentic
  split at authentic
  · cases authentic
  rename_i received apdu decrypted
  split at authentic
  · cases authentic
  rename_i mac computed
  split at authentic
  · rename_i same
    exact ⟨control, received, apdu, mac, decoded, decrypted, computed, same⟩
  · cases authentic

/-! ## Frames that pass -/

/-- The context has no part in sending the frame: it is no L_Data message, or point-to-point, or for
a group without a key. -/
def Unkeyed (ctx : Context) (cemi : Octets) : Prop :=
  ∀ frame, view cemi = some frame → frame.group = true →
    ctx.configuration.keyFor frame.binding.destination = none

theorem secureFrame_unkeyed (valid : ctx.valid = true) (unkeyed : ctx.Unkeyed cemi)
    (backend : CryptoBackend) (source : SequenceSource) :
    ctx.secureFrame backend source cemi = (ctx, .ok cemi) := by
  have none : ctx.groupKeyOf (view cemi) = none := by
    unfold groupKeyOf
    cases viewed : view cemi with
    | none => rfl
    | some frame =>
      by_cases grouped : frame.group = true
      · simp [grouped, unkeyed frame viewed grouped]
      · simp [grouped]
  unfold secureFrame
  rw [if_neg (not_not.mpr valid), none]

theorem openFrame_unkeyed (valid : ctx.valid = true) (unkeyed : ctx.Unkeyed cemi)
    (unsecured : ∀ frame, view cemi = some frame → frame.secured = false) (backend : CryptoBackend) :
    ctx.openFrame backend cemi = (ctx, .ok cemi) := by
  unfold openFrame
  rw [if_neg (not_not.mpr valid)]
  cases viewed : view cemi with
  | none => rfl
  | some frame =>
    dsimp only
    rw [unsecured frame viewed, if_neg Bool.false_ne_true, if_neg]
    rintro ⟨grouped, keyed⟩
    rw [unkeyed frame viewed grouped] at keyed
    cases keyed

/-! ## Sending -/

theorem secureFrame_keyed {source : SequenceSource} {sent : Octets}
    (viewed : view cemi = some frame) (grouped : frame.group = true)
    (held : ctx.configuration.keyFor frame.binding.destination = some key)
    (succeeded : (ctx.secureFrame backend source cemi).2 = .ok sent) :
    ∃ seq, SealedUnder backend key seq frame.binding.destination (frame.plainApdu cemi) sent := by
  obtain ⟨sealable, after, seq, -, built⟩ := secureFrame_built viewed grouped held succeeded
  obtain ⟨origin, outgoing⟩ := ctx.outgoingFrame_eq frame
  rw [outgoing] at built
  exact ⟨seq, buildSecured_sealed origin sealable built⟩

theorem sent_sealed {source : SequenceSource} {sent : Octets} {frame : CemiFrame}
    (succeeded : (ctx.secureFrame backend source cemi).2 = .ok sent)
    (decoded : decode sent = .ok frame) (grouped : frame.groupAddressed = true)
    (held : ctx.configuration.keyFor frame.destination = some key) :
    ∃ seq plain, SealedUnder backend key seq frame.destination plain sent := by
  obtain ⟨seen, viewed, sameGroup, -, sameDestination, -⟩ := view_of_decode decoded
  rw [← sameGroup] at grouped
  rw [← sameDestination] at held ⊢
  rcases ctx.secureFrame_cases backend source cemi with
    ⟨-, ⟨unkeyed, passed⟩ | ⟨why, refused, -⟩⟩ | ⟨plain, groupKey, -, sealable, -⟩
  · rw [passed] at succeeded
    cases succeeded
    simp [groupKeyOf, viewed, grouped, held] at unkeyed
  · rw [refused] at succeeded
    cases succeeded
  · obtain ⟨seq, sealed⟩ :=
      secureFrame_keyed sealable.viewed sealable.grouped sealable.held succeeded
    -- the sealed frame is read back with the destination, so the key, of the plain one
    have readBack := sealed
    obtain ⟨sentFrame, -, -, again, -, -, destination, -⟩ := readBack
    rw [viewed] at again
    cases again
    rw [destination, sealable.held] at held
    cases held
    exact ⟨seq, _, destination ▸ sealed⟩

end Context

/-! ## The context -/

/-- A telegram to a group with a key is opened only when it is an A_SecureService telegram of an
allowed sender whose MAC verifies under the key, and no frame to such a group goes out unless it
was sealed under the key. In a context within its limits, a frame that is no L_Data message,
point-to-point or for a group without a key goes out as it is, and comes in as it is unless it is
itself secured. -/
theorem no_downgrade (ctx : Context) (backend : CryptoBackend) :
    (∀ cemi frame key, decode cemi = .ok frame → frame.groupAddressed = true →
      ctx.configuration.keyFor frame.destination = some key →
      (∀ opened, (ctx.openFrame backend cemi).2 = .ok opened →
        frame.applicationService = secureServiceApci ∧
        ctx.configuration.senderAllowed frame.source frame.destination = true ∧
        ∃ seen, view cemi = some seen ∧
          MacVerifies backend key seen.binding (seen.securedApdu cemi)) ∧
      ∀ source sent, (ctx.secureFrame backend source cemi).2 = .ok sent →
        ∃ seen seq, view cemi = some seen ∧
          SealedUnder backend key seq frame.destination (seen.plainApdu cemi) sent) ∧
    (∀ cemi source sent frame key, (ctx.secureFrame backend source cemi).2 = .ok sent →
      decode sent = .ok frame → frame.groupAddressed = true →
      ctx.configuration.keyFor frame.destination = some key →
      ∃ seq plain, SealedUnder backend key seq frame.destination plain sent) ∧
    ∀ cemi, ctx.valid = true → ctx.Unkeyed cemi →
      (∀ source, ctx.secureFrame backend source cemi = (ctx, .ok cemi)) ∧
      ((∀ seen, view cemi = some seen → seen.secured = false) →
        ctx.openFrame backend cemi = (ctx, .ok cemi)) := by
  refine ⟨fun cemi frame key decoded grouped held => ?_,
    fun cemi source sent frame key succeeded decoded grouped held =>
      Context.sent_sealed succeeded decoded grouped held,
    fun cemi valid unkeyed =>
      ⟨fun source => Context.secureFrame_unkeyed valid unkeyed backend source,
        fun unsecured => Context.openFrame_unkeyed valid unkeyed unsecured backend⟩⟩
  obtain ⟨seen, viewed, sameGroup, sameSource, sameDestination, service⟩ := view_of_decode decoded
  rw [← sameGroup] at grouped
  rw [← sameDestination] at held ⊢
  rw [← sameSource]
  refine ⟨fun opened succeeded => ?_, fun source sent succeeded => ?_⟩
  · unfold Context.openFrame at succeeded
    split at succeeded
    · cases succeeded
    rw [viewed] at succeeded
    dsimp only at succeeded
    split at succeeded
    · rename_i secured
      obtain ⟨found, same, allowed, verifies⟩ := Context.openSecured_ok succeeded
      rw [held] at same
      cases same
      exact ⟨service secured, allowed, seen, viewed, verifies⟩
    · rw [if_pos ⟨grouped, by rw [held]; rfl⟩] at succeeded
      cases succeeded
  · obtain ⟨seq, sealed⟩ := Context.secureFrame_keyed viewed grouped held succeeded
    exact ⟨seen, seq, viewed, sealed⟩

def plainSwitchOn : Octets :=
  [0x29, 0x00, 0xBC, 0xE0, 0x11, 0x05, 0x09, 0x01, 0x01, 0x00, 0x81]

def switchOnFields (dataLength : UInt8) (service : Apci) (compactValue : UInt8)
    (payloadOffset payloadSize : UInt16) : CemiFrame :=
  { messageCode := .lDataInd
    additionalInfoLength := 0
    controlField1 := 0xBC
    controlField2 := 0xE0
    source := 0x1105
    destination := 0x0901
    dataLength := dataLength
    transportControl := 0
    applicationService := service
    compactValue := compactValue
    payloadOffset := payloadOffset
    payloadSize := payloadSize }

def propertyRead : Octets := [0xFC, 0x00, 0x0B, 0x01, 0x34, 0x10, 0x01]

/-- The write goes out secured, is opened when it comes in again, and a property read passes. -/
theorem no_downgrade_write :
    (∃ seen seq, view plainSwitchOn = some seen ∧
      SealedUnder groupWriteRecording.backend groupWriteKey seq 0x0901
        (seen.plainApdu plainSwitchOn) (switchOn 0x29)) ∧
    (∃ seq plain,
      SealedUnder groupWriteRecording.backend groupWriteKey seq 0x0901 plain
        (switchOn 0x29)) ∧
    (∃ seen, view (switchOn 0x29) = some seen ∧
      MacVerifies groupWriteRecording.backend groupWriteKey seen.binding
        (seen.securedApdu (switchOn 0x29))) ∧
    groupContext.openFrame groupWriteRecording.backend propertyRead =
      (groupContext, .ok propertyRead) := by
  have sends : (groupContext.secureFrame groupWriteRecording.backend
      { wallClockMs := sequenceEpochMs + 7 } plainSwitchOn).2 = .ok (switchOn 0x29) := by
    decide +kernel
  refine ⟨?_, ?_, ?_, ?_⟩
  · exact ((no_downgrade groupContext groupWriteRecording.backend).1 plainSwitchOn
      (switchOnFields 1 0x80 1 0 0) groupWriteKey (by decide +kernel) (by decide)
      (by decide +kernel)).2 { wallClockMs := sequenceEpochMs + 7 } (switchOn 0x29) sends
  · exact (no_downgrade groupContext groupWriteRecording.backend).2.1 plainSwitchOn
      { wallClockMs := sequenceEpochMs + 7 } (switchOn 0x29)
      (switchOnFields 14 secureServiceApci 0 11 13) groupWriteKey sends (by decide +kernel)
      (by decide) (by decide +kernel)
  · exact (((no_downgrade groupContext groupWriteRecording.backend).1 (switchOn 0x29)
      (switchOnFields 14 secureServiceApci 0 11 13) groupWriteKey (by decide +kernel)
      (by decide) (by decide +kernel)).1 plainSwitchOn (by decide +kernel)).2.2
  · refine ((no_downgrade groupContext groupWriteRecording.backend).2.2 propertyRead (by decide)
      ?_).2 ?_
    · intro frame viewed
      cases viewed
    · intro frame viewed
      cases viewed

def securedPointToPoint : Octets :=
  [41, 0, 188, 96, 17, 5, 17, 1, 14, 3, 241, 16, 0, 0, 0, 0, 0, 7, 198, 14, 19, 126, 15, 250]

/-- Not every point-to-point frame passes as it is: a secured one is refused as unsupported. -/
theorem secured_point_to_point_refused :
    groupContext.valid = true ∧
      (decode securedPointToPoint).map CemiFrame.groupAddressed = .ok false ∧
      (groupContext.openFrame groupWriteRecording.backend securedPointToPoint).2 =
        refuse .secureUnsupported := by
  decide +kernel

end KmxAio.Knx.DataSecure
