import KmxAio.Knx.DataSecure.Telegram
import KmxAio.Knx.Secure.WrapperRoundTrip

/-!
# What a MAC is computed over

A CBC-MAC authenticates one run of blocks, so it authenticates the fields of a
message only if those fields can be told from the run. The padding is zero octets
behind everything, and an APDU may end in zero octets itself: the lengths inside
the run are what keeps two messages apart.
-/

namespace KmxAio.Knx.Secure

open Lib.Wire Knx.Frame

/-- The answer of a MAC call, in the words of its callers. -/
def macAnswer (answer : Option Block) : Expected Block :=
  match answer with
  | none => refuse .cryptoFailure
  | some mac => .ok mac

theorem cbcMac_eq (backend : CryptoBackend) (key : SecretKey) (block0 : Block)
    (associatedData payload : Octets)
    (fits : associatedData.length + payload.length ≤ maxMacInputSize - 18) :
    cbcMac backend key block0 associatedData payload =
      macAnswer (backend.cbcMac key (macInput block0 associatedData payload)) := by
  simp only [maxMacInputSize] at fits
  have allowed : ¬ ((16 + 2 + associatedData.length + payload.length + 15) / 16 * 16 >
      maxMacInputSize ∨ associatedData.length > 0xFFFF) := by
    simp only [maxMacInputSize]
    omega
  unfold cbcMac macAnswer
  cases backend.cbcMac key (macInput block0 associatedData payload) with
  | none | some mac => exact if_neg allowed

variable {backend : CryptoBackend} {key : SecretKey}

theorem cbcMac_ok {block0 mac : Block} {associatedData payload : Octets}
    (succeeded : cbcMac backend key block0 associatedData payload = .ok mac) :
    backend.cbcMac key (macInput block0 associatedData payload) = some mac := by
  unfold cbcMac at succeeded
  dsimp only at succeeded
  split at succeeded
  · cases succeeded
  split at succeeded
  · cases succeeded
  · rename_i answered
    cases succeeded
    exact answered

/-- The blocks tell `B0`, the associated data, and the payload up to the zero octets at its end. -/
theorem macInput_parts {first second : Block}
    {firstData secondData firstPayload secondPayload : Octets}
    (firstShort : firstData.length ≤ 0xFFFF) (secondShort : secondData.length ≤ 0xFFFF)
    (same : macInput first firstData firstPayload = macInput second secondData secondPayload) :
    first = second ∧ firstData = secondData ∧
      (firstPayload.length = secondPayload.length → firstPayload = secondPayload) := by
  simp only [macInput, List.append_assoc] at same
  obtain ⟨blocks, rest⟩ := List.append_inj same (by simp)
  obtain ⟨lengths, rest⟩ := List.append_inj rest (by simp)
  have length : firstData.length = secondData.length :=
    toBigEndian_inj (by omega) (by omega) lengths
  obtain ⟨data, rest⟩ := List.append_inj rest length
  refine ⟨List.Vector.eq _ _ blocks, data, ?_⟩
  intro payloads
  exact (List.append_inj rest payloads).1

/-! ## Wrappers -/

variable (fields : WrapperFields)

def wrapperMacInput (payload : Octets) : Octets :=
  macInput (wrapperMessage fields payload).block0 (wrapperMessage fields payload).associatedData
    (wrapperMessage fields payload).payload

structure WrapperBound where
  sessionId : UInt16
  sequence : SequenceInformation
  serialNumber : SerialNumber
  messageTag : MessageTag
  totalLength : Nat
  payload : Octets
  deriving DecidableEq

def wrapperBound (payload : Octets) : WrapperBound :=
  { sessionId := fields.sessionId
    sequence := fields.sequence
    serialNumber := fields.serialNumber
    messageTag := fields.messageTag
    totalLength := wrapperOverhead + payload.length
    payload := payload }

theorem wrapperMessage_associatedData (payload : Octets) :
    (wrapperMessage fields payload).associatedData =
      headerOctets wrapperService (UInt16.ofNat (wrapperOverhead + payload.length)) ++
        u16Octets fields.sessionId := by
  have size : (headerOctets wrapperService (UInt16.ofNat (wrapperOverhead + payload.length)) ++
      u16Octets fields.sessionId).length = communicationHeaderSize + 2 := by
    simp [communicationHeaderSize]
  show List.take _ (wrapperPrefix fields _) = _
  exact List.take_left' size

theorem wrapperMacInput_inj {fields fields' : WrapperFields} {payload payload' : Octets}
    (small : wrapperOverhead + payload.length ≤ maxTotalLength)
    (small' : wrapperOverhead + payload'.length ≤ maxTotalLength)
    (same : wrapperMacInput fields payload = wrapperMacInput fields' payload') :
    wrapperBound fields payload = wrapperBound fields' payload' := by
  simp only [wrapperOverhead, maxTotalLength] at small small'
  have sized (fields : WrapperFields) (payload : Octets) :
      (wrapperMessage fields payload).associatedData.length ≤ 0xFFFF := by
    rw [wrapperMessage_associatedData]
    simp
  obtain ⟨blocks, data, payloads⟩ := macInput_parts (sized _ _) (sized _ _) same
  have octets := congrArg List.Vector.toList blocks
  obtain ⟨sequences, rest⟩ := List.append_inj octets (by simp)
  obtain ⟨serials, rest⟩ := List.append_inj rest (by simp)
  obtain ⟨tags, lengths⟩ := List.append_inj rest (by simp)
  have seq : fields.sequence = fields'.sequence := List.Vector.eq _ _ sequences
  have serialNumber : fields.serialNumber = fields'.serialNumber := List.Vector.eq _ _ serials
  have messageTag : fields.messageTag = fields'.messageTag := List.Vector.eq _ _ tags
  have length : payload.length = payload'.length := by
    have numbers := congrArg UInt16.toNat (u16Octets_inj lengths)
    rwa [UInt16.toNat_ofNat_of_lt' (by simp only [UInt16.size]; omega),
      UInt16.toNat_ofNat_of_lt' (by simp only [UInt16.size]; omega)] at numbers
  rw [wrapperMessage_associatedData, wrapperMessage_associatedData] at data
  have sid := u16Octets_inj (List.append_inj data (by simp)).2
  have payload : payload = payload' := payloads length
  subst payload
  simp only [wrapperBound, seq, serialNumber, messageTag, sid]

theorem openWrapper_macInput {room : Nat} {val : WrapperFrame} {plainFrame : Octets}
    (succeeded : openWrapper backend room key val = .ok plainFrame) :
    ∃ mac, backend.cbcMac key (wrapperMacInput val.toWrapperFields plainFrame) = some mac ∧
      backend.ctr key (wrapperCounter0 val.sequence val.serialNumber val.messageTag)
        val.mac.toList val.encryptedFrame = some (mac.toList, plainFrame) := by
  unfold openWrapper at succeeded
  dsimp only at succeeded
  split at succeeded
  · cases succeeded
  obtain ⟨mac, computed, decrypted⟩ := openMessage_ok succeeded
  have length := (backend.ctr_length _ _ _ _ _ decrypted).2
  refine ⟨mac, ?_, decrypted⟩
  simp only [wrapperMacInput, wrapperMessage, length]
  exact cbcMac_ok computed

end KmxAio.Knx.Secure

namespace KmxAio.Knx.DataSecure

open Lib.Wire Cemi Secure Knx.Frame

/-! ## Telegrams -/

structure TelegramMacParams where
  controlOctet : UInt8
  sequence : SequenceInformation
  binding : FrameBinding
  protection : Algorithm
  plain : Octets

namespace TelegramMacParams

def input (params : TelegramMacParams) : Octets :=
  match params.protection with
  | .authenticatedEncryption =>
    macInput (telegramBlock0 params.sequence params.binding (UInt8.ofNat params.plain.length))
      [params.controlOctet] params.plain
  | .authenticationOnly =>
    macInput (telegramBlock0 params.sequence params.binding 0)
      (params.controlOctet :: params.plain) []

end TelegramMacParams

structure TelegramBound where
  controlOctet : UInt8
  sequence : SequenceInformation
  source : UInt16
  destination : UInt16
  maskedControlField2 : UInt8
  transportControl : UInt8
  plain : Octets
  deriving DecidableEq

def TelegramMacParams.bound (params : TelegramMacParams) : TelegramBound :=
  { controlOctet := params.controlOctet
    sequence := params.sequence
    source := params.binding.source
    destination := params.binding.destination
    maskedControlField2 := params.binding.controlField2 &&& bindingControlMask
    transportControl := params.binding.transportControl &&& tpciMask
    plain := params.plain }

theorem telegramBlock0_inj {seq sequence' : SequenceInformation}
    {binding binding' : FrameBinding} {length length' : UInt8}
    (same : telegramBlock0 seq binding length = telegramBlock0 sequence' binding' length') :
    seq = sequence' ∧ binding.source = binding'.source ∧
      binding.destination = binding'.destination ∧
      binding.controlField2 &&& bindingControlMask = binding'.controlField2 &&& bindingControlMask ∧
      binding.transportControl &&& tpciMask = binding'.transportControl &&& tpciMask ∧
      length = length' := by
  have octets := congrArg List.Vector.toList same
  simp only [telegramBlock0, telegramPrelude, List.Vector.toList_mk, List.append_assoc] at octets
  obtain ⟨sequences, rest⟩ := List.append_inj octets (by simp)
  obtain ⟨sources, rest⟩ := List.append_inj rest (by simp)
  obtain ⟨destinations, rest⟩ := List.append_inj rest (by simp)
  simp only [List.cons.injEq, true_and, and_true] at rest
  obtain ⟨controls, transports, lengths⟩ := rest
  refine ⟨List.Vector.eq _ _ sequences, u16Octets_inj sources, u16Octets_inj destinations, controls,
    ?_, lengths⟩
  have masked (octet : UInt8) :
      ((octet &&& tpciMask) ||| serviceApciHigh) &&& ~~~serviceApciHigh = octet &&& tpciMask := by
    have complement : ~~~serviceApciHigh = tpciMask := by decide
    rw [or_mask_and_not, complement, UInt8.and_assoc, UInt8.and_self]
  rw [← masked binding.transportControl, transports, masked]

theorem octetLength_inj {first second : Octets} (firstShort : first.length ≤ maxPlainApdu)
    (secondShort : second.length ≤ maxPlainApdu)
    (same : UInt8.ofNat first.length = UInt8.ofNat second.length) :
    first.length = second.length := by
  simp only [maxPlainApdu] at firstShort secondShort
  have numbers := congrArg UInt8.toNat same
  rwa [UInt8.toNat_ofNat_of_lt' (by simp only [UInt8.size]; omega),
    UInt8.toNat_ofNat_of_lt' (by simp only [UInt8.size]; omega)] at numbers

namespace TelegramMacParams

variable {first second : TelegramMacParams}

theorem bound_eq {length length' : UInt8}
    (blocks : telegramBlock0 first.sequence first.binding length =
      telegramBlock0 second.sequence second.binding length')
    (control : first.controlOctet = second.controlOctet) (plain : first.plain = second.plain) :
    first.bound = second.bound := by
  obtain ⟨seq, source, destination, controlField2, transportControl, -⟩ :=
    telegramBlock0_inj blocks
  simp only [bound, control, plain, seq, source, destination, controlField2, transportControl]

/-- An encrypted telegram and one that is only authenticated have different blocks, unless the APDU
of both is empty. -/
theorem bound_eq_of_mixed (encrypted : first.protection = .authenticatedEncryption)
    (authenticated : second.protection = .authenticationOnly)
    (firstShort : first.plain.length ≤ maxPlainApdu)
    (secondShort : second.plain.length ≤ maxPlainApdu) (same : first.input = second.input) :
    first.bound = second.bound := by
  unfold input at same
  rw [encrypted, authenticated] at same
  simp only [maxPlainApdu] at secondShort
  obtain ⟨blocks, data, -⟩ := macInput_parts (by simp)
    (by simp only [List.length_cons]; omega) same
  obtain ⟨control, empty⟩ := List.cons.inj data
  have lengths := (telegramBlock0_inj blocks).2.2.2.2.2
  have none : first.plain.length = ([] : Octets).length :=
    octetLength_inj firstShort (by simp) lengths
  exact bound_eq blocks control ((List.length_eq_zero_iff.mp none).trans empty)

theorem input_inj (firstShort : first.plain.length ≤ maxPlainApdu)
    (secondShort : second.plain.length ≤ maxPlainApdu) (same : first.input = second.input) :
    first.bound = second.bound := by
  cases firstProtection : first.protection with
  | authenticatedEncryption =>
    cases secondProtection : second.protection with
    | authenticatedEncryption =>
      unfold input at same
      rw [firstProtection, secondProtection] at same
      obtain ⟨blocks, data, payloads⟩ := macInput_parts (by simp) (by simp) same
      have lengths := octetLength_inj firstShort secondShort
        (telegramBlock0_inj blocks).2.2.2.2.2
      exact bound_eq blocks (List.cons.inj data).1 (payloads lengths)
    | authenticationOnly =>
      exact bound_eq_of_mixed firstProtection secondProtection firstShort secondShort same
  | authenticationOnly =>
    cases secondProtection : second.protection with
    | authenticatedEncryption =>
      exact (bound_eq_of_mixed secondProtection firstProtection secondShort firstShort
        same.symm).symm
    | authenticationOnly =>
      unfold input at same
      rw [firstProtection, secondProtection] at same
      simp only [maxPlainApdu] at firstShort secondShort
      obtain ⟨blocks, data, -⟩ := macInput_parts (by simp only [List.length_cons]; omega)
        (by simp only [List.length_cons]; omega) same
      obtain ⟨control, plain⟩ := List.cons.inj data
      exact bound_eq blocks control plain

theorem input_of_bound (same : first.bound = second.bound)
    (protection : first.protection = second.protection) : first.input = second.input := by
  simp only [bound, TelegramBound.mk.injEq] at same
  obtain ⟨control, seq, source, destination, controlField2, transportControl, plain⟩ := same
  have blocks (length : UInt8) : telegramBlock0 first.sequence first.binding length =
      telegramBlock0 second.sequence second.binding length := by
    apply List.Vector.eq
    simp only [telegramBlock0, telegramPrelude, seq, source, destination, controlField2,
      transportControl]
  simp only [input, protection, control, plain, blocks]

end TelegramMacParams

/-- The blocks a MAC is computed over say what it authenticates. A telegram's MAC, under either
algorithm, is the cipher's answer on blocks from which everything the MAC binds can be told, and so
is the one a wrapper is sealed with and the one it has to carry to be opened, whichever lengths the
codecs accept. -/
theorem authenticatedData_unambiguous :
    (∀ (params : TelegramMacParams) (backend : CryptoBackend) (key : SecretKey),
      params.plain.length ≤ maxPlainApdu →
        telegramMac backend key params.controlOctet params.sequence params.binding
          params.protection params.plain = macAnswer (backend.cbcMac key params.input)) ∧
    (∀ first second : TelegramMacParams, first.plain.length ≤ maxPlainApdu →
      second.plain.length ≤ maxPlainApdu →
        (first.input = second.input → first.bound = second.bound) ∧
        (first.bound = second.bound → first.protection = second.protection →
          first.input = second.input)) ∧
    (∀ (backend : CryptoBackend) (room : Nat) (key : SecretKey) (fields : WrapperFields)
      (plainFrame pkt : Octets),
      sealWrapper backend room key fields plainFrame = .ok pkt →
        ∃ mac encryptedMac encrypted,
          backend.cbcMac key (wrapperMacInput fields plainFrame) = some mac ∧
          backend.ctr key (wrapperCounter0 fields.sequence fields.serialNumber fields.messageTag)
            mac.toList plainFrame = some (encryptedMac, encrypted) ∧
          pkt = wrapperPrefix fields (wrapperOverhead + plainFrame.length) ++
            (encrypted ++ encryptedMac)) ∧
    (∀ (backend : CryptoBackend) (room : Nat) (key : SecretKey) (val : WrapperFrame)
      (plainFrame : Octets), openWrapper backend room key val = .ok plainFrame →
        ∃ mac, backend.cbcMac key (wrapperMacInput val.toWrapperFields plainFrame) = some mac ∧
          backend.ctr key (wrapperCounter0 val.sequence val.serialNumber val.messageTag)
            val.mac.toList val.encryptedFrame = some (mac.toList, plainFrame)) ∧
    (∀ (fields fields' : WrapperFields) (payload payload' : Octets),
      wrapperOverhead + payload.length ≤ maxTotalLength →
      wrapperOverhead + payload'.length ≤ maxTotalLength →
        (wrapperMacInput fields payload = wrapperMacInput fields' payload' ↔
          wrapperBound fields payload = wrapperBound fields' payload')) := by
  refine ⟨?_, ?_, ?_, ?_, ?_⟩
  · -- every APDU of an accepted length fits the MAC
    intro params backend key short
    simp only [maxPlainApdu] at short
    unfold telegramMac TelegramMacParams.input
    cases params.protection with
    | authenticatedEncryption =>
      apply cbcMac_eq
      simp only [maxMacInputSize, List.length_singleton]
      omega
    | authenticationOnly =>
      apply cbcMac_eq
      simp only [maxMacInputSize, List.length_cons, List.length_nil]
      omega
  · intro first second firstShort secondShort
    exact ⟨TelegramMacParams.input_inj firstShort secondShort, TelegramMacParams.input_of_bound⟩
  · intro backend room key fields plainFrame pkt succeeded
    obtain ⟨wrap, covered⟩ := sealWrapper_ok succeeded
    obtain ⟨mac, computed, encrypts⟩ := sealMessage_ok covered
    exact ⟨mac, _, _, cbcMac_ok computed, encrypts, wrap.packet_eq⟩
  · intro backend room key val plainFrame
    exact openWrapper_macInput
  · intro fields fields' payload payload' small small'
    refine ⟨wrapperMacInput_inj small small', ?_⟩
    intro same
    simp only [wrapperBound, WrapperBound.mk.injEq] at same
    obtain ⟨sid, seq, serialNumber, messageTag, -, payloads⟩ := same
    have fieldsEq : fields = fields' := by
      cases fields
      simp_all
    rw [fieldsEq, payloads]

/-- An encrypted group telegram whose APDU is zero octets, as the padding behind it is. -/
def zeroTelegram (size : Nat) : TelegramMacParams :=
  { controlOctet := 0x10
    sequence := encodeSequence 1
    binding := ⟨0x1101, 0x0901, 0xE0, 0⟩
    protection := .authenticatedEncryption
    plain := List.replicate size 0 }

/-- Zero octets of the APDU are not taken for padding, in a telegram or in a wrapper. -/
theorem zeroOctets_unambiguous :
    (∀ backend key, telegramMac backend key 0x10 (encodeSequence 1) (zeroTelegram 2).binding
      .authenticatedEncryption [0, 0] = macAnswer (backend.cbcMac key (zeroTelegram 2).input)) ∧
    (zeroTelegram 2).input ≠ (zeroTelegram 3).input ∧
    (∃ mac, acknowledgementRecording.backend.cbcMac acknowledgementKey
      (wrapperMacInput acknowledgementFields acknowledgementFrame) = some mac) ∧
    wrapperMacInput acknowledgementFields acknowledgementFrame ≠
      wrapperMacInput acknowledgementFields (acknowledgementFrame ++ [0]) := by
  obtain ⟨computed, telegrams, sealed, -, wrappers⟩ := authenticatedData_unambiguous
  refine ⟨fun backend key => computed (zeroTelegram 2) backend key (by decide), ?_,
    (sealed _ _ _ _ _ _ acknowledgement_sealed).imp fun _ ⟨_, _, answered, _⟩ => answered, ?_⟩
  · intro same
    have bound := (telegrams (zeroTelegram 2) (zeroTelegram 3) (by decide) (by decide)).1 same
    exact absurd bound (by decide)
  · intro same
    have bound := (wrappers _ _ _ _ (by decide) (by decide)).mp same
    exact absurd bound (by decide)

end KmxAio.Knx.DataSecure
