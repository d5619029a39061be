import KmxAio.Knx.Cemi

/-!
# cEMI L_Data messages there and back

An encoded message decodes to the fields it was encoded from. The service and a
compact value share ten bits: under a code of four bits the other six belong to
the value, under an escape code all ten belong to the service.
-/

namespace KmxAio.Knx.Cemi

open Lib.Wire

/-! ## Control fields -/

def controlOctet (standard mayRepeat broadcast acknowledge : Bool) (priority : Priority) : UInt8 :=
  (bif standard then standardFrameMask else 0) ||| ((bif mayRepeat then repeatMask else 0) |||
    ((bif broadcast then broadcastMask else 0) ||| (((priority.toOctet <<< 2) &&& priorityMask) |||
      (bif acknowledge then acknowledgeMask else 0))))

theorem controlOctet_fields {octet : UInt8} {standard mayRepeat broadcast acknowledge : Bool}
    {priority : Priority}
    (made : octet = controlOctet standard mayRepeat broadcast acknowledge priority) :
    decide (octet &&& standardFrameMask ≠ 0) = standard ∧
      decide (octet &&& repeatMask ≠ 0) = mayRepeat ∧
      decide (octet &&& broadcastMask ≠ 0) = broadcast ∧
      decide (octet &&& acknowledgeMask ≠ 0) = acknowledge ∧
      Priority.ofBits ((octet &&& priorityMask) >>> 2) = priority := by
  subst made
  cases standard <;> cases mayRepeat <;> cases broadcast <;> cases acknowledge <;>
    cases priority <;> decide

theorem controlField2_fields (destinationType : AddressType) {hopCount : UInt8}
    (few : hopCount ≤ 0x07) :
    (if makeControlField2 destinationType hopCount &&& addressTypeMask ≠ 0 then AddressType.group
      else .individual) = destinationType ∧
      (makeControlField2 destinationType hopCount &&& hopCountMask) >>> 4 = hopCount := by
  have all : ∀ num < 8, ∀ destinationType : AddressType,
      (if makeControlField2 destinationType (UInt8.ofNat num) &&& addressTypeMask ≠ 0 then
        AddressType.group else .individual) = destinationType ∧
      (makeControlField2 destinationType (UInt8.ofNat num) &&& hopCountMask) >>> 4 =
        UInt8.ofNat num := by
    intro num small destinationType
    cases destinationType <;> revert small <;> revert num <;> decide
  have known := all hopCount.toNat (Nat.lt_succ_of_le (UInt8.le_iff_toNat_le.mp few)) destinationType
  rwa [UInt8.ofNat_toNat] at known

/-! ## Services -/

variable (service : Apci)

/-- A service that four bits name: the other six bits of its ten are free. -/
def FourBitService : Prop :=
  service &&& apciCodeMask = service ∧ service ≠ apciEscapeUser ∧ service ≠ apciEscapeManagement

instance (service : Apci) : Decidable (FourBitService service) :=
  inferInstanceAs (Decidable (_ ∧ _ ∧ _))

/-- A service of at most ten bits that is told by the bits a decoder tells services by. -/
def TenBitService : Prop := service &&& 0x03FF = service ∧ serviceOf service = service

instance (service : Apci) : Decidable (TenBitService service) :=
  inferInstanceAs (Decidable (_ ∧ _))

def namedServices : List Apci :=
  [0x000, 0x040, 0x080, 0x0C0, 0x100, 0x140, 0x180, 0x1C0, 0x200, 0x240, 0x280, 0x2C0, 0x2C1, 0x2C2,
    0x2C5, 0x2C6, 0x300, 0x340, 0x380, 0x3D5, 0x3D6, 0x3D7, 0x3D8, 0x3D9, secureServiceApci]

def serviceHigh : UInt8 := tpciUnnumberedData ||| ((service >>> 8) &&& 0x03).toUInt8

def serviceLow : UInt8 := (service &&& 0xFF).toUInt8

def rawService (high low : UInt8) : UInt16 := UInt16.ofNat (high.toNat * 256 + low.toNat) &&& 0x03FF

theorem rawService_octets (service : Apci) :
    rawService (serviceHigh service) (serviceLow service) = service &&& 0x03FF := by
  apply UInt16.toNat_inj.mp
  have bits (num : Nat) : num &&& 1023 = num % 1024 :=
    Nat.and_two_pow_sub_one_eq_mod num 10
  have two (num : Nat) : num &&& 3 = num % 4 := Nat.and_two_pow_sub_one_eq_mod num 2
  have eight (num : Nat) : num &&& 255 = num % 256 :=
    Nat.and_two_pow_sub_one_eq_mod num 8
  have high : (serviceHigh service).toNat = service.toNat / 256 % 4 := by
    simp [serviceHigh, tpciUnnumberedData, two, Nat.shiftRight_eq_div_pow]
  have low : (serviceLow service).toNat = service.toNat % 256 := by
    simp [serviceLow, eight]
  simp [rawService, high, low, bits]
  omega

variable {service} {msg : LDataMessage}

theorem fourBitService_cases (four : FourBitService service) :
    ∃ code < 16, code ≠ 11 ∧ code ≠ 15 ∧ service = UInt16.ofNat (code * 64) := by
  obtain ⟨masked, notUser, notManagement⟩ := four
  have num : service.toNat &&& 0x03C0 = service.toNat := by
    have same := congrArg UInt16.toNat masked
    rwa [UInt16.toNat_and] at same
  have small : service.toNat ≤ 0x03C0 := num ▸ Nat.and_le_right
  have multiple : service.toNat % 64 = 0 := by
    rw [← num, ← Nat.and_two_pow_sub_one_eq_mod _ 6, Nat.and_assoc]
    simp
  have whole : service = UInt16.ofNat (service.toNat / 64 * 64) := by
    rw [show service.toNat / 64 * 64 = service.toNat by omega, UInt16.ofNat_toNat]
  refine ⟨service.toNat / 64, by omega, ?_, ?_, whole⟩
  · intro code
    exact notUser (whole.trans (code ▸ rfl))
  · intro code
    exact notManagement (whole.trans (code ▸ rfl))

theorem tenBitService_of_four (four : FourBitService service) : TenBitService service := by
  have all : ∀ code < 16, code ≠ 11 → code ≠ 15 → TenBitService (UInt16.ofNat (code * 64)) := by
    decide +kernel
  obtain ⟨code, few, notUser, notManagement, rfl⟩ := fourBitService_cases four
  exact all code few notUser notManagement

/-! ## Octets of a message -/

def lastServiceOctet (msg : LDataMessage) : UInt8 :=
  if msg.payload.compacted then serviceLow msg.service ||| msg.payload.compactValue
  else serviceLow msg.service

theorem writeLData_split (msg : LDataMessage) (dataLength : UInt8) :
    ∃ head : Octets, head.length = 11 ∧ writeLData msg dataLength = head ++ msg.payload.octets := by
  refine ⟨[msg.code.toOctet, 0, makeControlField1 msg.options dataLength,
    makeControlField2 msg.destinationType msg.options.hopCount] ++
    (u16Octets msg.source ++ (u16Octets msg.destination ++
      [dataLength, serviceHigh msg.service, lastServiceOctet msg])), by simp, ?_⟩
  simp [writeLData, lastServiceOctet, serviceHigh, serviceLow]

theorem dataLength_toNat (payload : ApduPayload) :
    payload.dataLength.toNat = payload.octets.length + 1 := by
  cases payload with
  | compact value small => rfl
  | extended octets nonempty fits =>
    simp only [maxOctets] at fits
    exact UInt8.toNat_ofNat_of_lt' (by simp only [ApduPayload.octets, UInt8.size]; omega)

/-- What a frame decoded from some octets carries of a message. -/
structure CemiFrame.Carries (frame : CemiFrame) (octets : Octets) (msg : LDataMessage) : Prop where
  code : frame.messageCode = msg.code
  source : frame.source = msg.source
  destination : frame.destination = msg.destination
  addressType : frame.addressType = msg.destinationType
  service : frame.applicationService = msg.service
  compact : frame.compact = msg.payload.compacted
  compactValue : frame.compactValue = msg.payload.compactValue
  payload : frame.payload octets = msg.payload.octets
  priority : frame.telegramPriority = msg.options.telegramPriority
  hopCount : frame.hopCount = msg.options.hopCount
  acknowledge : frame.acknowledgeRequested = msg.options.acknowledgeRequest
  repeatFlag : frame.repeatFlag = msg.options.mayRepeat
  broadcast : frame.broadcast = msg.options.broadcast
  extended : frame.standardFrame = false ↔ msg.payload.dataLength > 15

def messageFrame (msg : LDataMessage) : CemiFrame where
  messageCode := msg.code
  additionalInfoLength := 0
  controlField1 := makeControlField1 msg.options msg.payload.dataLength
  controlField2 := makeControlField2 msg.destinationType msg.options.hopCount
  source := msg.source
  destination := msg.destination
  dataLength := msg.payload.dataLength
  transportControl := serviceHigh msg.service &&& tpciMask
  applicationService :=
    serviceOf (rawService (serviceHigh msg.service) (lastServiceOctet msg))
  compactValue :=
    if msg.payload.dataLength = 1 then
      (rawService (serviceHigh msg.service) (lastServiceOctet msg) &&& compactMask).toUInt8
    else 0
  payloadOffset := if msg.payload.dataLength = 1 then 0 else 11
  payloadSize :=
    if msg.payload.dataLength = 1 then 0
    else UInt16.ofNat (msg.payload.dataLength.toNat - 1)

theorem decode_writeLData (lData : isLData msg.code = true) {octets : Octets}
    (written : octets = writeLData msg msg.payload.dataLength) :
    decode octets = .ok (messageFrame msg) := by
  obtain ⟨code, info, control1, control2, source, destination, length, high, low⟩ : octetAt octets 0
      = msg.code.toOctet ∧ octetAt octets 1 = 0 ∧ octetAt octets 2 = makeControlField1 msg.options
      msg.payload.dataLength ∧ octetAt octets 3 = makeControlField2 msg.destinationType
      msg.options.hopCount ∧ readU16 octets 4 = msg.source ∧ readU16 octets 6 = msg.destination ∧
      octetAt octets 8 = msg.payload.dataLength ∧ octetAt octets 9 = serviceHigh msg.service ∧
      octetAt octets 10 = lastServiceOctet msg := by
    subst written
    refine ⟨rfl, rfl, rfl, rfl, ?_, ?_, rfl, rfl, rfl⟩
    · rw [writeLData, readU16_append_right _ _ (by simp)]
      exact readU16_append_left _ _
    · rw [writeLData, readU16_append_right _ _ (by simp), readU16_append_right _ _ (by simp)]
      exact readU16_append_left _ _
  obtain ⟨head, headLength, split⟩ := writeLData_split msg msg.payload.dataLength
  have size : octets.length = 11 + msg.payload.octets.length := by
    rw [written, split, List.length_append, headLength]
  have known : lDataCode msg.code.toOctet = some msg.code := by
    revert lData
    cases msg.code <;> first | exact fun _ => rfl | exact nofun
  have declared := dataLength_toNat msg.payload
  have positive : msg.payload.dataLength ≠ 0 := by
    intro zero
    rw [zero, UInt8.toNat_zero] at declared
    omega
  have long : ¬ 11 > octets.length := by
    omega
  have exact' : ¬ encodedSize 0 msg.payload.dataLength ≠ octets.length := by
    rw [size, encodedSize, declared]
    simp only [prologueSize, linkHeaderSize]
    omega
  have raw : readU16 octets 9 &&& 0x03FF =
      rawService (serviceHigh msg.service) (lastServiceOctet msg) := by
    rw [readU16, high, low, rawService]
  unfold decode
  rw [if_neg (by rw [size, prologueSize]; omega), code, known]
  simp only [info, UInt8.toNat_zero, prologueSize, linkHeaderSize, apciSize, Nat.add_zero,
    Nat.reduceAdd, if_neg long, length, if_neg positive, if_neg exact', control1, control2, source,
    destination, high, raw]
  rfl

theorem messageFrame_compact (four : FourBitService msg.service) {value : UInt8}
    {small : value.toNat < 64} (payload : msg.payload = .compact value small) :
    (messageFrame msg).applicationService = msg.service ∧
      (messageFrame msg).compactValue = value ∧ (messageFrame msg).payloadSize = 0 := by
  have length : msg.payload.dataLength = 1 := by
    rw [payload]
    rfl
  have last : lastServiceOctet msg = serviceLow msg.service ||| value := by
    rw [lastServiceOctet, payload]
    rfl
  -- a service of four bits and a value of six are told apart
  have all : ∀ code < 16, code ≠ 11 → code ≠ 15 → ∀ value < 64,
      serviceOf (rawService (serviceHigh (UInt16.ofNat (code * 64)))
        (serviceLow (UInt16.ofNat (code * 64)) ||| UInt8.ofNat value)) = UInt16.ofNat (code * 64) ∧
      (rawService (serviceHigh (UInt16.ofNat (code * 64)))
        (serviceLow (UInt16.ofNat (code * 64)) ||| UInt8.ofNat value) &&& compactMask).toUInt8 =
          UInt8.ofNat value := by
    decide +kernel
  obtain ⟨code, few, notUser, notManagement, coded⟩ := fourBitService_cases four
  have known := all code few notUser notManagement value.toNat small
  rw [UInt8.ofNat_toNat, ← coded] at known
  simp only [messageFrame, length, last, if_true]
  exact ⟨known.1, known.2, trivial⟩

theorem messageFrame_extended (ten : TenBitService msg.service)
    (extended : msg.payload.compacted = false) :
    (messageFrame msg).applicationService = msg.service ∧
      (messageFrame msg).compactValue = 0 ∧ (messageFrame msg).payloadOffset = 11 ∧
      (messageFrame msg).payloadSize.toNat = msg.payload.octets.length ∧
      msg.payload.octets ≠ [] := by
  have filled : msg.payload.octets ≠ [] ∧ msg.payload.octets.length ≤ maxOctets := by
    cases given : msg.payload with
    | compact value small =>
      rw [given] at extended
      cases extended
    | extended octets nonempty fits => exact ⟨nonempty, fits⟩
  obtain ⟨nonempty, fits⟩ := filled
  have declared := dataLength_toNat msg.payload
  have positive := List.length_pos_iff.mpr nonempty
  simp only [maxOctets] at fits
  have long : ¬ msg.payload.dataLength = 1 := by
    intro one
    rw [one, UInt8.toNat_one] at declared
    omega
  have last : lastServiceOctet msg = serviceLow msg.service := by
    rw [lastServiceOctet, extended]
    rfl
  have raw := rawService_octets msg.service
  simp only [messageFrame, last, raw, if_neg long, ten.1, ten.2, declared, Nat.add_sub_cancel]
  exact ⟨trivial, trivial, trivial, UInt16.toNat_ofNat_of_lt' (by simp only [UInt16.size]; omega),
    nonempty⟩

theorem messageFrame_link (hops : msg.options.hopCount ≤ 0x07) :
    (messageFrame msg).addressType = msg.destinationType ∧
      (messageFrame msg).telegramPriority = msg.options.telegramPriority ∧
      (messageFrame msg).hopCount = msg.options.hopCount ∧
      (messageFrame msg).acknowledgeRequested = msg.options.acknowledgeRequest ∧
      (messageFrame msg).repeatFlag = msg.options.mayRepeat ∧
      (messageFrame msg).broadcast = msg.options.broadcast ∧
      ((messageFrame msg).standardFrame = false ↔ msg.payload.dataLength > 15) := by
  have made : makeControlField1 msg.options msg.payload.dataLength =
      controlOctet (msg.payload.dataLength ≤ maxStandardDataLength) msg.options.mayRepeat
        msg.options.broadcast msg.options.acknowledgeRequest msg.options.telegramPriority := by
    simp only [makeControlField1, controlOctet, cond_eq_ite, decide_eq_true_eq]
  obtain ⟨standard, mayRepeat, broadcast, acknowledge, priority⟩ := controlOctet_fields made
  obtain ⟨addressType, hopCount⟩ := controlField2_fields msg.destinationType hops
  refine ⟨addressType, priority, hopCount, acknowledge, mayRepeat, broadcast, ?_⟩
  rw [show (messageFrame msg).standardFrame =
    decide (msg.payload.dataLength ≤ maxStandardDataLength) from standard, decide_eq_false_iff_not]
  exact UInt8.not_le

theorem messageFrame_carries (hops : msg.options.hopCount ≤ 0x07)
    (service : FourBitService msg.service ∨
      msg.payload.compacted = false ∧ TenBitService msg.service) :
    (messageFrame msg).Carries (writeLData msg msg.payload.dataLength) msg := by
  obtain ⟨addressType, priority, hopCount, acknowledge, mayRepeat, broadcast, standard⟩ :=
    messageFrame_link hops
  cases compacted : msg.payload.compacted with
  | true =>
    cases payload : msg.payload with
    | extended octets nonempty fits => simp [payload, ApduPayload.compacted] at compacted
    | compact value small =>
      have four : FourBitService msg.service := by
        rcases service with four | ⟨extended, -⟩
        · exact four
        · rw [compacted] at extended
          cases extended
      obtain ⟨services, values, size⟩ := messageFrame_compact four payload
      exact ⟨rfl, rfl, rfl, addressType, services, by rw [CemiFrame.compact, size, compacted]; rfl,
        by rw [values, payload]; rfl, by rw [CemiFrame.payload, size, payload]; rfl, priority,
        hopCount, acknowledge, mayRepeat, broadcast, standard⟩
  | false =>
    have ten : TenBitService msg.service := by
      rcases service with four | ⟨-, ten⟩
      · exact tenBitService_of_four four
      · exact ten
    obtain ⟨services, values, offset, size, nonempty⟩ := messageFrame_extended ten compacted
    obtain ⟨head, headLength, split⟩ := writeLData_split msg msg.payload.dataLength
    have present : ¬ (messageFrame msg).payloadSize = 0 := by
      intro zero
      rw [zero, UInt16.toNat_zero] at size
      exact nonempty (List.length_eq_zero_iff.mp size.symm)
    have noValue : msg.payload.compactValue = 0 := by
      cases payload : msg.payload with
      | compact value small => simp [payload, ApduPayload.compacted] at compacted
      | extended octets nonempty fits => rfl
    have octets : (messageFrame msg).payload
        (writeLData msg msg.payload.dataLength) = msg.payload.octets := by
      have inside : ¬ ((messageFrame msg).payloadSize = 0 ∨
          (11 : UInt16).toNat + msg.payload.octets.length >
            (head ++ msg.payload.octets).length) := by
        rw [List.length_append, headLength]
        simp [present]
      have eleven : (11 : UInt16).toNat = head.length := headLength.symm
      rw [CemiFrame.payload, offset, size, split, if_neg inside, eleven, List.drop_left,
        List.take_length]
    exact ⟨rfl, rfl, rfl, addressType, services,
      by rw [CemiFrame.compact, compacted, beq_eq_false_iff_ne]; exact present,
      by rw [values, noValue], octets, priority, hopCount, acknowledge, mayRepeat, broadcast,
      standard⟩

theorem decode_payload_inside {octets : Octets} {frame : CemiFrame}
    (decoded : decode octets = .ok frame) :
    frame.payloadOffset.toNat + frame.payloadSize.toNat ≤ octets.length := by
  unfold decode at decoded
  split at decoded
  · cases decoded
  split at decoded
  · cases decoded
  dsimp only at decoded
  split at decoded
  · cases decoded
  split at decoded
  · cases decoded
  split at decoded
  · cases decoded
  rename_i positive exact'
  cases decoded
  have infoSmall := (octetAt octets 1).toNat_lt
  generalize octetAt octets (prologueSize + (octetAt octets 1).toNat + 6) = dataLength
    at positive exact' ⊢
  have lengthSmall := dataLength.toNat_lt
  have lengthPositive : dataLength.toNat ≠ (0 : UInt8).toNat := mt UInt8.toNat_inj.mp positive
  rw [UInt8.toNat_zero] at lengthPositive
  simp only [encodedSize, ne_eq, Decidable.not_not] at exact'
  simp only [prologueSize, linkHeaderSize, apciSize] at exact' ⊢
  by_cases compact : dataLength = 1
  · rw [if_pos compact, if_pos compact]
    exact Nat.zero_le _
  · rw [if_neg compact, if_neg compact,
      UInt16.toNat_ofNat_of_lt' (by simp only [UInt16.size]; omega),
      UInt16.toNat_ofNat_of_lt' (by simp only [UInt16.size]; omega)]
    omega

/-- What is encoded is decoded: every L_Data message the encoder accepts, if its service is one of
four bits, or if its payload is whole octets and its service one of ten bits, as every service with a
name is. Whatever is decoded, its payload lies inside the buffer. -/
theorem cemi_roundTrip :
    (∀ (room : Nat) (msg : LDataMessage) (octets : Octets),
      encode room msg = .ok octets →
      (FourBitService msg.service ∨
        msg.payload.compacted = false ∧ TenBitService msg.service) →
        ∃ frame, decode octets = .ok frame ∧ frame.Carries octets msg) ∧
    (∀ service ∈ namedServices, TenBitService service) ∧
    (∀ (octets : Octets) (frame : CemiFrame), decode octets = .ok frame →
      frame.payloadOffset.toNat + frame.payloadSize.toNat ≤ octets.length) := by
  refine ⟨?_, fun service named => ?_, fun octets frame => decode_payload_inside⟩
  · intro room msg octets encoded service
    unfold encode at encoded
    split at encoded
    · cases encoded
    rename_i lData
    split at encoded
    · cases encoded
    split at encoded
    · cases encoded
    rename_i hops
    dsimp only at encoded
    split at encoded
    · cases encoded
    cases encoded
    exact ⟨messageFrame msg, decode_writeLData (by simpa using lData) rfl,
      messageFrame_carries (UInt8.not_lt.mp hops) service⟩
  · have all : namedServices.all (fun service => decide (TenBitService service)) = true := by
      decide
    exact of_decide_eq_true (List.all_eq_true.mp all service named)

theorem oneOctet_extended : ([0x2A] : Octets) ≠ [] ∧ ([0x2A] : Octets).length ≤ maxOctets := by
  decide

/-- A group write of one octet, as an L_Data.ind of two hops with urgent priority. -/
def groupWrite : LDataMessage where
  code := .lDataInd
  source := 0x1101
  destination := 0x0901
  service := 0x080
  payload := .extended [0x2A] oneOctet_extended.1 oneOctet_extended.2
  options := { telegramPriority := .urgent, hopCount := 2 }

def groupWriteOctets : Octets :=
  [0x29, 0x00, 0xB8, 0xA0, 0x11, 0x01, 0x09, 0x01, 0x02, 0x00, 0x80, 0x2A]

/-- The group write decodes to itself, and its payload is the last octet. -/
theorem groupWrite_roundTrip :
    (∃ frame, decode groupWriteOctets = .ok frame ∧ frame.Carries groupWriteOctets groupWrite ∧
      frame.payloadOffset.toNat + frame.payloadSize.toNat ≤ groupWriteOctets.length) ∧
      TenBitService secureServiceApci := by
  obtain ⟨roundTrip, named, inside⟩ := cemi_roundTrip
  obtain ⟨frame, decoded, carries⟩ :=
    roundTrip 64 groupWrite groupWriteOctets (by decide) (.inl (by decide))
  exact ⟨⟨frame, decoded, carries, inside _ _ decoded⟩, named _ (by decide)⟩

/-- A group write under a service code whose low six bits are set: neither a service of four bits
nor under an escape code. The decoder takes those bits for a value. -/
def taintedWrite : LDataMessage := { groupWrite with service := 0x081 }

/-- With whole octets behind it such a service is encoded, and decodes to another one. -/
theorem taintedWrite_service :
    taintedWrite.payload.compacted = false ∧
      ∃ octets frame, encode 64 taintedWrite = .ok octets ∧ decode octets = .ok frame ∧
        frame.applicationService = 0x080 ∧ frame.applicationService ≠ taintedWrite.service := by
  refine ⟨by decide, [0x29, 0x00, 0xB8, 0xA0, 0x11, 0x01, 0x09, 0x01, 0x02, 0x00, 0x81, 0x2A],
    messageFrame taintedWrite, by decide, by decide, by decide, by decide⟩

end KmxAio.Knx.Cemi
