import KmxAio.Knx.DataSecure.NoDowngrade
import KmxAio.Knx.DataSecure.Refusals

/-!
# A secured telegram is opened to what it was

Sealing and opening meet at the parts of a secured APDU: the counter mode takes the
body and the MAC back, and the MAC is computed over the same octets on both sides.
Both sides rebuild the frame around the APDU. The header is rewritten twice, and the
second time undoes all of the first but the source and the frame type.
-/

namespace KmxAio.Knx.DataSecure

open Lib.Wire Cemi Secure

/-! ## The codec -/

theorem decodeSecurityControl_encode (control : SecurityControl) :
    decodeSecurityControl (encodeSecurityControl control) = .ok control := by
  obtain ⟨toolAccess, algorithm, systemBroadcast, service⟩ := control
  cases toolAccess <;> cases algorithm <;> cases systemBroadcast <;> cases service <;> rfl

section Codec

variable {ours theirs : CryptoBackend} {key : SecretKey} {binding : FrameBinding}
  {algorithm : Algorithm} {seq : SequenceInformation} {macOctets plain tag body : Octets}

theorem telegramMac_computes {controlOctet : UInt8} {mac : Block} (computes : ours.Computes theirs)
    (succeeded : telegramMac ours key controlOctet seq binding algorithm plain = .ok mac) :
    telegramMac theirs key controlOctet seq binding algorithm plain = .ok mac := by
  cases algorithm with
  | authenticationOnly | authenticatedEncryption => exact cbcMac_computes computes succeeded

theorem Protects.inverse (computes : ours.Computes theirs) (inverse : theirs.CtrInverse)
    (protects : Protects ours key seq binding algorithm macOctets plain tag body) :
    Protects theirs key seq binding algorithm tag body macOctets plain := by
  cases algorithm with
  | authenticationOnly => exact ⟨protects.1.symm, protects.2.symm⟩
  | authenticatedEncryption => exact inverse (computes.ctr protects)

theorem decryptApdu_parts {controlOctet : UInt8} (tagLength : tag.length = macSize)
    (protects : Protects theirs key seq binding algorithm tag body macOctets plain) :
    decryptApdu theirs key binding algorithm ([controlOctet] ++ (seq.toList ++ (body ++ tag))) =
      .ok (macOctets, plain) := by
  have front : ([controlOctet] ++ seq.toList).length = 1 + sequenceSize := by
    simp [sequenceSize]
  have whole : [controlOctet] ++ (seq.toList ++ (body ++ tag)) =
      ([controlOctet] ++ seq.toList) ++ (body ++ tag) := by simp
  have size : ([controlOctet] ++ (seq.toList ++ (body ++ tag))).length =
      1 + sequenceSize + body.length + macSize := by
    rw [whole, List.length_append, front, List.length_append, tagLength]
    omega
  have behind : ([controlOctet] ++ (seq.toList ++ (body ++ tag))).drop
      (1 + sequenceSize + body.length + macSize - macSize) = tag := by
    rw [whole, ← List.append_assoc]
    refine List.drop_left' ?_
    rw [List.length_append, front]
    omega
  have middle : (([controlOctet] ++ (seq.toList ++ (body ++ tag))).drop (1 + sequenceSize)).take
      (1 + sequenceSize + body.length + macSize - securedApduOverhead) = body := by
    rw [whole, List.drop_left' front]
    refine List.take_left' ?_
    unfold securedApduOverhead
    omega
  unfold decryptApdu
  dsimp only
  rw [size, behind, middle, readSequence_behind]
  cases algorithm with
  | authenticationOnly =>
    obtain ⟨rfl, rfl⟩ := protects
    rfl
  | authenticatedEncryption =>
    have deciphered := protects
    rw [ctr, deciphered]

end Codec

theorem openApdu_sealApdu {ours theirs : CryptoBackend} {room : Nat} {key : SecretKey}
    {fields : ApduFields} {plainApdu secured : Octets} (computes : ours.Computes theirs)
    (inverse : theirs.CtrInverse)
    (succeeded : sealApdu ours room key fields plainApdu = .ok secured) :
    openApdu theirs maxPlainApdu key fields.binding secured = .ok plainApdu := by
  obtain ⟨fits, -, mac, tag, body, computed, protects, parts⟩ := sealApdu_parts succeeded
  have length := sealApdu_length succeeded
  have tagLength : tag.length = macSize := by
    rw [protects.length.1, List.length_take, array_length, macSize]
    rfl
  have control : octetAt secured 0 = encodeSecurityControl fields.control := by
    rw [parts]
    rfl
  have num : readArray sequenceSize 1 secured = encodeSequence fields.sequence := by
    rw [parts, readSequence_behind]
  have decrypted : decryptApdu theirs key fields.binding fields.control.algorithm secured =
      .ok (mac.toList.take macSize, plainApdu) := by
    rw [parts]
    exact decryptApdu_parts tagLength (protects.inverse computes inverse)
  unfold openApdu
  rw [if_neg (by omega), control, decodeSecurityControl_encode]
  dsimp only
  rw [if_neg (by omega), decrypted]
  dsimp only
  rw [num, telegramMac_computes computes computed]
  exact if_pos rfl

/-! ## The header -/

theorem frameType_frameType (controlField1 : UInt8) (first second : Nat) :
    frameType (frameType controlField1 first) second = frameType controlField1 second := by
  unfold frameType
  split
  · split
    · rw [UInt8.or_assoc, UInt8.or_self]
    · exact and_not_or_mask _ _
  · split
    · exact or_mask_and_not _ _
    · rw [UInt8.and_assoc, UInt8.and_self]

/-- A telegram under a source and with the frame type its own length requires; the other octets are
kept. -/
def FrameView.underSource (frame : FrameView) (source : UInt16) (cemi : Octets) : Octets :=
  ((cemi.set frame.linkOffset (frameType frame.controlField1 frame.dataLength.toNat)).set
    (frame.linkOffset + 2) (UInt8.ofNat (source.toNat / 256))).set
      (frame.linkOffset + 3) (UInt8.ofNat source.toNat)

section Header

variable {cemi : Octets} {frame : FrameView}

theorem rewriteHeader_own (viewed : view cemi = some frame) (source : UInt16) :
    rewriteHeader cemi frame source frame.dataLength.toNat ++
        cemi.drop (frame.linkOffset + linkHeaderSize) = frame.underSource source cemi := by
  obtain ⟨-, -, -, exact, same⟩ := view_eq_some.mp viewed
  unfold linkHeaderSize at exact ⊢
  have declared : frame.dataLength = octetAt cemi (frame.linkOffset + 6) :=
    congrArg FrameView.dataLength same
  have lead := Context.leadLength viewed
  have link : cemi = cemi.take frame.linkOffset ++ (octetAt cemi frame.linkOffset ::
      octetAt cemi (frame.linkOffset + 1) :: octetAt cemi (frame.linkOffset + 2) ::
      octetAt cemi (frame.linkOffset + 3) :: octetAt cemi (frame.linkOffset + 4) ::
      octetAt cemi (frame.linkOffset + 5) :: octetAt cemi (frame.linkOffset + 6) ::
      cemi.drop (frame.linkOffset + 7)) := by
    conv_lhs => rw [← List.take_append_drop frame.linkOffset cemi]
    iterate 7 rw [drop_eq_octetAt_cons (by omega)]
  unfold FrameView.underSource
  conv_rhs => rw [link]
  simp [rewriteHeader, declared, u16Octets, toBigEndian, lead]

theorem FrameView.plainApdu_carried (viewed : view cemi = some frame)
    (unnumbered : frame.binding.transportControl = tpciUnnumberedData) :
    (frame.binding.transportControl ||| (octetAt (frame.plainApdu cemi) 0 &&& ~~~tpciMask)) ::
        (frame.plainApdu cemi).drop 1 = cemi.drop (frame.linkOffset + linkHeaderSize) := by
  obtain ⟨-, -, -, exact, same⟩ := view_eq_some.mp viewed
  have transport : frame.binding.transportControl =
      octetAt cemi (frame.linkOffset + linkHeaderSize) &&& tpciMask :=
    congrArg (fun seen : FrameView => seen.binding.transportControl) same
  have clear := and_not_of_and_eq_zero (transport.symm.trans unnumbered)
  have data : cemi.drop (frame.linkOffset + linkHeaderSize) =
      octetAt cemi (frame.linkOffset + linkHeaderSize) ::
        cemi.drop (frame.linkOffset + linkHeaderSize + 1) := drop_eq_octetAt_cons (by omega)
  have rest : (cemi.drop (frame.linkOffset + linkHeaderSize + 1)).take frame.dataLength.toNat =
      cemi.drop (frame.linkOffset + linkHeaderSize + 1) := by
    apply List.take_of_length_le
    rw [List.length_drop]
    omega
  rw [unnumbered]
  unfold FrameView.plainApdu
  rw [data]
  change (0 ||| ((octetAt cemi (frame.linkOffset + linkHeaderSize) &&& ~~~tpciMask) &&&
    ~~~tpciMask)) :: (cemi.drop (frame.linkOffset + linkHeaderSize + 1)).take
      frame.dataLength.toNat = _
  rw [clear, clear, rest, UInt8.zero_or]

end Header

/-! ## The sender table -/

section Table

variable {before rest : List SenderSequence} {address : UInt16} {last seq : Nat}

theorem lastValid_listed (first : ∀ entry ∈ before, entry.address ≠ address) :
    lastValid (before ++ ⟨address, last⟩ :: rest) address = some last := by
  unfold lastValid
  have absent : before.find? (·.address == address) = none :=
    List.find?_eq_none.mpr fun entry listed => by simpa using first entry listed
  rw [List.find?_append, absent]
  simp

theorem recordSequence_listed (first : ∀ entry ∈ before, entry.address ≠ address) :
    recordSequence address seq (before ++ ⟨address, last⟩ :: rest) =
      before ++ ⟨address, seq⟩ :: rest := by
  induction before with
  | nil => exact if_pos rfl
  | cons entry before ih =>
    have other := first entry List.mem_cons_self
    rw [List.cons_append, recordSequence, if_neg other,
      ih (fun entry listed => first entry (List.mem_cons_of_mem _ listed)), List.cons_append]

end Table

namespace Context

variable {ctx : Context} {backend : CryptoBackend} {frame : FrameView} {key : SecretKey}
  {cemi plain : Octets}

theorem acceptSequence_listed (ctx : Context) (frame : FrameView)
    {before rest : List SenderSequence} {last seq : Nat}
    (listed : ctx.configuration.senders = before ++ ⟨frame.binding.source, last⟩ :: rest)
    (first : ∀ entry ∈ before, entry.address ≠ frame.binding.source) (fresh : last < seq) :
    ctx.acceptSequence frame seq =
      (if frame.code = .lDataCon then ctx
        else { ctx with configuration := { ctx.configuration with
          senders := before ++ ⟨frame.binding.source, seq⟩ :: rest } }, .ok ()) := by
  unfold acceptSequence
  by_cases confirmation : frame.code = .lDataCon
  · rw [if_pos confirmation, if_pos confirmation]
  · rw [if_neg confirmation, if_neg confirmation, listed, lastValid_listed first]
    dsimp only
    rw [if_neg (Nat.not_le.mpr fresh), recordSequence_listed first]

theorem ordinaryData_sealApdu {room : Nat} {algorithm : Algorithm} {seq : Nat}
    {binding : FrameBinding} {secured : Octets}
    (succeeded : sealApdu backend room key ⟨{ algorithm := algorithm }, seq, binding⟩ plain =
      .ok secured) : ordinaryData secured = true := by
  obtain ⟨-, -, mac, tag, body, -, -, parts⟩ := sealApdu_parts succeeded
  have decoded : decodeSecurityControl (octetAt secured 0) = .ok { algorithm := algorithm } := by
    rw [parts]
    exact decodeSecurityControl_encode _
  unfold ordinaryData
  rw [if_neg (by simp [parts]), decoded]
  rfl

theorem plainFrame_restores {telegram sent : Octets} {origin : UInt16}
    (viewed : view telegram = some frame)
    (unnumbered : frame.binding.transportControl = tpciUnnumberedData)
    (header : ∃ apdu, sent = rewriteHeader telegram frame origin
      (frame.dataLength.toNat + 2 + securedApduOverhead) ++ apdu) :
    plainFrame (frame.securedUnder origin) sent (frame.plainApdu telegram) =
      frame.underSource origin telegram := by
  obtain ⟨apdu, rfl⟩ := header
  unfold plainFrame
  rw [FrameView.plainApdu_length viewed, Nat.add_sub_cancel]
  calc rewriteHeader (rewriteHeader telegram frame origin
          (frame.dataLength.toNat + 2 + securedApduOverhead) ++ apdu) (frame.securedUnder origin)
          origin frame.dataLength.toNat ++
        ((frame.binding.transportControl |||
            (octetAt (frame.plainApdu telegram) 0 &&& ~~~tpciMask)) ::
          (frame.plainApdu telegram).drop 1)
      = rewriteHeader telegram frame origin frame.dataLength.toNat ++
          telegram.drop (frame.linkOffset + linkHeaderSize) := by
        have behind := octetAt_append_add (Context.leadLength viewed)
        rw [FrameView.plainApdu_carried viewed unnumbered]
        simp only [rewriteHeader, FrameView.securedUnder, frameType_frameType, List.append_assoc,
          List.take_left' (Context.leadLength viewed), behind]
        simp [octetAt, u16Octets, toBigEndian]
    _ = frame.underSource origin telegram := rewriteHeader_own viewed origin

def originOf (ctx : Context) (frame : FrameView) : UInt16 :=
  (ctx.outgoingFrame frame).binding.source

theorem outgoingFrame_origin (ctx : Context) (frame : FrameView) :
    ctx.outgoingFrame frame =
      { frame with binding := { frame.binding with source := ctx.originOf frame } } := by
  obtain ⟨source, outgoing⟩ := ctx.outgoingFrame_eq frame
  rw [originOf, outgoing]

end Context

/-- Whatever a context makes of a plain telegram to a group with a key, a context with the same key
that lists the sender with a smaller number opens it to that telegram under the source it went out
under, with the frame type of its own length and no other octet changed. The number of the sender
becomes the one that was used, and nothing else of the context changes; a confirmation leaves that
number alone as well. The counter mode of the two sides undoes itself, and what the sending side
computes is what the opening side would. -/
theorem secured_roundTrip (sender receiver : Context) (ours theirs : CryptoBackend)
    (computes : ours.Computes theirs) (inverse : theirs.CtrInverse) (source : SequenceSource)
    (telegram sent : Octets) (frame : FrameView) (key : SecretKey) (seq last : Nat)
    (before rest : List SenderSequence) (viewed : view telegram = some frame)
    (grouped : frame.group = true)
    (held : sender.configuration.keyFor frame.binding.destination = some key)
    (taken : (sender.takeSequence source).2 = .ok seq)
    (secures : (sender.secureFrame ours source telegram).2 = .ok sent)
    (valid : receiver.valid = true)
    (shared : receiver.configuration.keyFor frame.binding.destination = some key)
    (allowed : receiver.configuration.senderAllowed (sender.originOf frame)
      frame.binding.destination = true)
    (listed : receiver.configuration.senders = before ++ ⟨sender.originOf frame, last⟩ :: rest)
    (first : ∀ entry ∈ before, entry.address ≠ sender.originOf frame) (fresh : last < seq) :
    receiver.openFrame theirs sent =
      (if frame.code = .lDataCon then receiver
        else { receiver with configuration := { receiver.configuration with
          senders := before ++ ⟨sender.originOf frame, seq⟩ :: rest } },
        .ok (frame.underSource (sender.originOf frame) telegram)) := by
  obtain ⟨⟨-, -, -, unnumbered, carries, small⟩, after, num, takes, built⟩ :=
    Context.secureFrame_built viewed grouped held secures
  obtain rfl : num = seq := by
    rw [takes] at taken
    exact Except.ok.inj taken
  rw [sender.outgoingFrame_origin] at built
  obtain ⟨read, sealed, header⟩ :=
    Context.buildSecured_read (sender.originOf frame) viewed unnumbered small built
  have admits : receiver.Admits (frame.securedUnder (sender.originOf frame))
      ((frame.securedUnder (sender.originOf frame)).securedApdu sent) key :=
    ⟨grouped, Context.ordinaryData_sealApdu sealed, shared, allowed⟩
  have long : apciSize ≤ (frame.plainApdu telegram).length := by
    have positive : frame.dataLength.toNat ≠ (0 : UInt8).toNat := mt UInt8.toNat_inj.mp carries
    rw [UInt8.toNat_zero] at positive
    rw [FrameView.plainApdu_length viewed, apciSize]
    omega
  have opened := openApdu_sealApdu computes inverse sealed
  have used : sequenceOf ((frame.securedUnder (sender.originOf frame)).securedApdu sent) = num :=
    sequenceOf_sealApdu sealed
  have accepted := receiver.acceptSequence_listed (frame.securedUnder (sender.originOf frame))
    listed first fresh
  rw [← used] at accepted
  have secured : (frame.securedUnder (sender.originOf frame)).secured = true := rfl
  unfold Context.openFrame
  rw [if_neg (not_not.mpr valid), read]
  dsimp only
  rw [if_pos secured, Context.openSecured, Context.admitSecured_admits admits]
  dsimp only
  rw [opened, accepted]
  dsimp only
  rw [if_neg (Nat.not_lt.mpr long), used, Context.plainFrame_restores viewed unnumbered header]
  rfl

def writeClock : SequenceSource := { wallClockMs := sequenceEpochMs + 7 }

def writerContext : Context :=
  Context.make { localAddress := 0x1105, groupKeys := [⟨0x0901, groupWriteKey⟩] } false

def unnamedSwitchOn : Octets :=
  [0x11, 0x00, 0x3C, 0xE0, 0x00, 0x00, 0x09, 0x01, 0x01, 0x00, 0x81]

/-- The request is opened under the address of its sender and in the frame type of a short frame. -/
theorem unnamedSwitchOn_opened :
    (writerContext.secureFrame groupWriteRecording.backend writeClock unnamedSwitchOn).2 =
        .ok (switchOn 0x11) ∧
      groupContext.openFrame groupWriteRecording.backend (switchOn 0x11) =
        ({ groupContext with configuration := { groupContext.configuration with
            senders := [⟨0x1105, 7⟩] } },
          .ok [0x11, 0x00, 0xBC, 0xE0, 0x11, 0x05, 0x09, 0x01, 0x01, 0x00, 0x81]) := by
  have secures : (writerContext.secureFrame groupWriteRecording.backend writeClock
      unnamedSwitchOn).2 = .ok (switchOn 0x11) := by decide +kernel
  exact ⟨secures, secured_roundTrip writerContext groupContext groupWriteRecording.backend
    groupWriteRecording.backend (CryptoBackend.computes_refl _)
    groupWriteRecording.backend_ctrInverse writeClock unnamedSwitchOn (switchOn 0x11)
    (viewAt unnamedSwitchOn .lDataReq 2) groupWriteKey 7 0 [] [] (by decide +kernel)
    (by decide +kernel) (by decide +kernel) (by decide +kernel) secures (by decide +kernel)
    (by decide +kernel) (by decide +kernel) rfl (by simp) (by decide)⟩

/-- Switching on as a confirmation is secured and opened as any telegram, but an endpoint that is
given the confirmation of its own telegram does not record the number it was opened under. -/
theorem confirmation_not_recorded :
    let own := Context.make
      { localAddress := 0x1105
        groupKeys := [⟨0x0901, groupWriteKey⟩]
        senders := [⟨0x1105, 0⟩] } false
    groupWriteRecording.backend.CtrInverse ∧ (own.takeSequence writeClock).2 = .ok 7 ∧
      (own.secureFrame groupWriteRecording.backend writeClock
        (0x2E :: plainSwitchOn.drop 1)).2 = .ok (switchOn 0x2E) ∧
      own.configuration.keyFor 0x0901 = some groupWriteKey ∧
      own.configuration.senderAllowed 0x1105 0x0901 = true ∧
      (own.openFrame groupWriteRecording.backend (switchOn 0x2E)).2 =
        .ok (0x2E :: plainSwitchOn.drop 1) ∧
      (own.openFrame groupWriteRecording.backend (switchOn 0x2E)).1.configuration.senders =
        [⟨0x1105, 0⟩] :=
  ⟨groupWriteRecording.backend_ctrInverse, by decide +kernel, by decide +kernel, by decide +kernel,
    by decide +kernel, by decide +kernel, by decide +kernel⟩

end KmxAio.Knx.DataSecure
