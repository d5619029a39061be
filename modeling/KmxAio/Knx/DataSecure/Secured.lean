import KmxAio.Knx.DataSecure.Context

/-!
# What a context sends

A frame the context secures keeps its message code, its additional information,
its addressing and its destination. Read back, it is a secured telegram whose APDU
is the one that was sealed, under the number that was taken for it.
-/

namespace KmxAio.Knx.DataSecure

open Lib.Wire Cemi Secure

/-! ## Reading a frame -/

theorem view_eq_some {cemi : Octets} {frame : FrameView} :
    view cemi = some frame ↔
      prologueSize ≤ cemi.length ∧ lDataCode (octetAt cemi 0) = some frame.code ∧
      frame.linkOffset = prologueSize + (octetAt cemi 1).toNat ∧
      cemi.length = frame.linkOffset + linkHeaderSize + 1 + frame.dataLength.toNat ∧
      frame = viewAt cemi frame.code frame.linkOffset := by
  unfold view
  split
  · rename_i short
    simp only [reduceCtorEq, false_iff]
    omega
  · rename_i long
    cases coded : lDataCode (octetAt cemi 0) with
    | none => simp
    | some code =>
      dsimp only
      split
      · rename_i other
        simp only [reduceCtorEq, false_iff]
        rintro ⟨-, -, offset, exact, same⟩
        have declared : frame.dataLength = octetAt cemi (frame.linkOffset + 6) :=
          congrArg FrameView.dataLength same
        rw [← offset] at other
        unfold encodedSize at other
        rw [← declared] at other
        omega
      · rename_i fits
        constructor
        · intro same
          obtain rfl := Option.some.inj same
          refine ⟨Nat.le_of_not_lt long, rfl, rfl, ?_, rfl⟩
          have size := not_not.mp (not_or.mp fits).2
          unfold encodedSize at size
          dsimp only [viewAt]
          omega
        · rintro ⟨-, named, offset, -, same⟩
          rw [same, Option.some.inj named, offset]

/-! ## Sealed APDUs -/

/-- What goes out for a MAC and an APDU: the two themselves, or both under one keystream. -/
def Protects (backend : CryptoBackend) (key : SecretKey) (seq : SequenceInformation)
    (binding : FrameBinding) (algorithm : Algorithm) (macOctets plainApdu tag body : Octets) :
    Prop :=
  match algorithm with
  | .authenticationOnly => tag = macOctets ∧ body = plainApdu
  | .authenticatedEncryption =>
    backend.ctr key (telegramCounter0 seq binding) macOctets plainApdu = some (tag, body)

variable {backend : CryptoBackend} {key : SecretKey} {capacity : Nat} {fields : ApduFields}
  {secured : Octets}

theorem Protects.length {seq : SequenceInformation} {binding : FrameBinding}
    {algorithm : Algorithm} {macOctets plainApdu tag body : Octets}
    (protects : Protects backend key seq binding algorithm macOctets plainApdu tag body) :
    tag.length = macOctets.length ∧ body.length = plainApdu.length := by
  cases algorithm with
  | authenticationOnly =>
    obtain ⟨rfl, rfl⟩ := protects
    exact ⟨rfl, rfl⟩
  | authenticatedEncryption => exact backend.ctr_length _ _ _ _ _ protects

section

variable {plainApdu : Octets}
  (succeeded : sealApdu backend capacity key fields plainApdu = .ok secured)

include succeeded

theorem sealApdu_parts :
    plainApdu.length ≤ maxPlainApdu ∧ fields.sequence ≤ maxSequence ∧
      ∃ mac tag body, telegramMac backend key (encodeSecurityControl fields.control)
          (encodeSequence fields.sequence) fields.binding fields.control.algorithm plainApdu =
            .ok mac ∧
        Protects backend key (encodeSequence fields.sequence) fields.binding
          fields.control.algorithm (mac.toList.take macSize) plainApdu tag body ∧
        secured = [encodeSecurityControl fields.control] ++
          ((encodeSequence fields.sequence).toList ++ (body ++ tag)) := by
  unfold sealApdu at succeeded
  split at succeeded
  · cases succeeded
  rename_i room
  split at succeeded
  · cases succeeded
  rename_i small
  refine ⟨by omega, Nat.le_of_not_lt small, ?_⟩
  dsimp only at succeeded
  cases computed : telegramMac backend key (encodeSecurityControl fields.control)
      (encodeSequence fields.sequence) fields.binding fields.control.algorithm plainApdu with
  | error why =>
    rw [computed] at succeeded
    cases succeeded
  | ok mac =>
    rw [computed] at succeeded
    cases protection : fields.control.algorithm with
    | authenticationOnly =>
      rw [protection] at succeeded
      cases succeeded
      exact ⟨mac, mac.toList.take macSize, plainApdu, rfl, ⟨rfl, rfl⟩, rfl⟩
    | authenticatedEncryption =>
      rw [protection] at succeeded
      dsimp only at succeeded
      split at succeeded
      · cases succeeded
      rename_i tag body ciphered
      cases succeeded
      exact ⟨mac, tag, body, rfl, ctr_ok ciphered, rfl⟩

theorem sealApdu_ok :
    fields.sequence ≤ maxSequence ∧ ∃ rest, rest.length = plainApdu.length + macSize ∧
      secured = [encodeSecurityControl fields.control] ++
        ((encodeSequence fields.sequence).toList ++ rest) := by
  obtain ⟨-, small, mac, tag, body, -, protects, rfl⟩ := sealApdu_parts succeeded
  obtain ⟨tagLength, bodyLength⟩ := protects.length
  refine ⟨small, body ++ tag, ?_, rfl⟩
  rw [List.length_append, bodyLength, tagLength, List.length_take, array_length, macSize]
  rfl

theorem sealApdu_length : secured.length = plainApdu.length + securedApduOverhead := by
  obtain ⟨-, rest, size, rfl⟩ := sealApdu_ok succeeded
  simp only [List.length_append, List.length_singleton, array_length, size, securedApduOverhead,
    sequenceSize]
  omega

end

theorem readSequence_behind (controlOctet : UInt8) (seq : SequenceInformation) (rest : Octets) :
    readArray sequenceSize 1 ([controlOctet] ++ (seq.toList ++ rest)) = seq := by
  exact readArray_append_left seq rest

theorem sequenceOf_sealApdu {plainApdu : Octets}
    (succeeded : sealApdu backend capacity key fields plainApdu = .ok secured) :
    sequenceOf secured = fields.sequence := by
  obtain ⟨small, rest, -, rfl⟩ := sealApdu_ok succeeded
  exact decodeSequence_encodeSequence small

/-! ## The frame on the wire -/

variable (frame : FrameView)

def FrameView.rewritten (source : UInt16) (dataLength : Nat) (apdu : Octets) :
    FrameView where
  code := frame.code
  linkOffset := frame.linkOffset
  controlField1 := frameType frame.controlField1 dataLength
  binding :=
    { source := source
      destination := frame.binding.destination
      controlField2 := frame.binding.controlField2
      transportControl := octetAt apdu 0 &&& tpciMask }
  dataLength := UInt8.ofNat dataLength
  group := frame.group
  secured := dataLength ≥ 2 ∧ octetAt apdu 0 &&& serviceApciHigh = serviceApciHigh ∧
    octetAt apdu 1 = serviceApciLow

namespace Context

variable {ctx : Context}

/-- What the context seals of a frame, and the key it seals it under, once it has a number for it. -/
def toSeal (ctx : Context) (plainCemi : Octets) : Option (FrameView × SecretKey) :=
  if ¬ ctx.valid then none
  else
    match ctx.groupKeyOf (view plainCemi) with
    | none => none
    | some (frame, key) =>
      if frame.secured ∨ frame.binding.transportControl ≠ tpciUnnumberedData ∨
          frame.dataLength = 0 then none
      else if frame.dataLength.toNat + 2 + securedApduOverhead > maxOctets then none
      else if (ctx.outgoingFrame frame).binding.source = 0 then none
      else some (frame, key)

/-- What the context finds of a frame it seals. -/
structure Sealable (ctx : Context) (plainCemi : Octets) (frame : FrameView)
    (key : SecretKey) : Prop where
  viewed : view plainCemi = some frame
  grouped : frame.group = true
  held : ctx.configuration.keyFor frame.binding.destination = some key
  unnumbered : frame.binding.transportControl = tpciUnnumberedData
  carries : frame.dataLength ≠ 0
  small : frame.dataLength.toNat + 2 + securedApduOverhead ≤ maxOctets

/-- A frame passes, is refused with no number taken, or is sealed under the number taken for it. -/
theorem secureFrame_cases (ctx : Context) (backend : CryptoBackend) (source : SequenceSource)
    (plainCemi : Octets) :
    (ctx.toSeal plainCemi = none ∧
      ((ctx.groupKeyOf (view plainCemi) = none ∧
          ctx.secureFrame backend source plainCemi = (ctx, .ok plainCemi)) ∨
        ∃ why, ctx.secureFrame backend source plainCemi = (ctx, refuse why) ∧ why ≠ .timeout)) ∨
      ∃ frame key, ctx.toSeal plainCemi = some (frame, key) ∧ ctx.Sealable plainCemi frame key ∧
        ctx.secureFrame backend source plainCemi =
          match ctx.takeSequence source with
          | (after, .error why) => (after, .error why)
          | (after, .ok seq) =>
            (after, after.buildSecured backend (ctx.outgoingFrame frame) plainCemi key seq) := by
  unfold toSeal secureFrame
  split
  · exact .inl ⟨rfl, .inr ⟨_, rfl, nofun⟩⟩
  cases keyed : ctx.groupKeyOf (view plainCemi) with
  | none => exact .inl ⟨rfl, .inl ⟨rfl, rfl⟩⟩
  | some pair =>
    obtain ⟨frame, key⟩ := pair
    dsimp only
    split
    · exact .inl ⟨rfl, .inr ⟨_, rfl, nofun⟩⟩
    rename_i ordinary
    split
    · exact .inl ⟨rfl, .inr ⟨_, rfl, nofun⟩⟩
    rename_i small
    split
    · exact .inl ⟨rfl, .inr ⟨_, rfl, nofun⟩⟩
    simp only [not_or, not_not] at ordinary
    unfold groupKeyOf at keyed
    split at keyed
    · cases keyed
    rename_i viewed
    split at keyed
    · rename_i grouped
      obtain ⟨_, held, same⟩ := Option.map_eq_some_iff.mp keyed
      cases same
      exact .inr ⟨frame, key, rfl,
        ⟨viewed, grouped, held, ordinary.2.1, ordinary.2.2, Nat.le_of_not_lt small⟩, rfl⟩
    · cases keyed

theorem outgoingFrame_eq (ctx : Context) (frame : FrameView) :
    ∃ source, ctx.outgoingFrame frame =
      { frame with binding := { frame.binding with source := source } } := by
  unfold outgoingFrame
  split
  · exact ⟨_, rfl⟩
  · exact ⟨frame.binding.source, rfl⟩

section Rewriting

variable {cemi : Octets} {frame : FrameView}

section

variable (viewed : view cemi = some frame)

include viewed

theorem leadLength : (cemi.take frame.linkOffset).length = frame.linkOffset := by
  obtain ⟨-, -, -, exact, -⟩ := view_eq_some.mp viewed
  rw [List.length_take]
  omega

variable (source : UInt16)

theorem rewriteHeader_length (dataLength : Nat) :
    (rewriteHeader cemi frame source dataLength).length = frame.linkOffset + linkHeaderSize := by
  simp only [rewriteHeader, List.length_append, leadLength viewed, List.length_cons,
    List.length_nil, u16Octets_length, linkHeaderSize]

theorem octetAt_rewritten (dataLength : Nat) (apdu : Octets) {index : Nat}
    (inside : index < frame.linkOffset) :
    octetAt (rewriteHeader cemi frame source dataLength ++ apdu) index = octetAt cemi index := by
  unfold rewriteHeader
  rw [List.append_assoc, octetAt_append_left _ _ (by rwa [leadLength viewed]),
    octetAt_take _ inside]

theorem viewAt_rewritten {dataLength : Nat} (apdu : Octets) (fits : dataLength < 256) :
    viewAt (rewriteHeader cemi frame source dataLength ++ apdu) frame.code frame.linkOffset =
      frame.rewritten source dataLength apdu := by
  obtain ⟨-, -, -, -, same⟩ := view_eq_some.mp viewed
  have header : rewriteHeader cemi frame source dataLength ++ apdu =
      cemi.take frame.linkOffset ++
        (frameType frame.controlField1 dataLength :: octetAt cemi (frame.linkOffset + 1) ::
          (u16Octets source ++ (octetAt cemi (frame.linkOffset + 4) ::
            octetAt cemi (frame.linkOffset + 5) :: UInt8.ofNat dataLength :: apdu))) := by
    simp [rewriteHeader]
  have behind := octetAt_append_add (leadLength viewed)
  have start : ∀ after : Octets,
      octetAt (cemi.take frame.linkOffset ++ after) frame.linkOffset = octetAt after 0 :=
    behind 0
  have num := readU16_append_add (leadLength viewed)
  have destination : frame.binding.destination = readU16 cemi (frame.linkOffset + 4) :=
    congrArg (fun seen : FrameView => seen.binding.destination) same
  have control : frame.binding.controlField2 = octetAt cemi (frame.linkOffset + 1) :=
    congrArg (fun seen : FrameView => seen.binding.controlField2) same
  have group : frame.group = decide (octetAt cemi (frame.linkOffset + 1) &&& addressTypeMask ≠ 0) :=
    congrArg FrameView.group same
  have readSource : ∀ (first second : UInt8) (rest : Octets),
      readU16 (first :: second :: (u16Octets source ++ rest)) 2 = source := fun first second rest =>
    (readU16_append_right [first, second] _ (Nat.le_refl 2)).trans (readU16_append_left source rest)
  rw [header]
  simp only [viewAt, start, behind, num, linkHeaderSize, Nat.add_assoc, Nat.reduceAdd, readSource]
  simp only [FrameView.rewritten, FrameView.mk.injEq, FrameBinding.mk.injEq, true_and]
  refine ⟨rfl, ⟨destination.symm, control.symm, rfl⟩, rfl, group.symm, ?_⟩
  change decide ((UInt8.ofNat dataLength).toNat ≥ 2 ∧
    octetAt apdu 0 &&& serviceApciHigh = serviceApciHigh ∧ octetAt apdu 1 = serviceApciLow) = _
  rw [UInt8.toNat_ofNat', Nat.mod_eq_of_lt fits]

theorem view_rewritten {dataLength : Nat} {apdu : Octets}
    (fits : dataLength < 256) (sized : apdu.length = dataLength + 1) :
    view (rewriteHeader cemi frame source dataLength ++ apdu) =
      some (frame.rewritten source dataLength apdu) := by
  obtain ⟨-, coded, offset, -, -⟩ := view_eq_some.mp viewed
  have headerLength := rewriteHeader_length viewed source dataLength
  have kept := @octetAt_rewritten _ _ viewed source dataLength apdu
  unfold prologueSize at offset
  refine view_eq_some.mpr ⟨?_, ?_, ?_, ?_, (viewAt_rewritten viewed source apdu fits).symm⟩
  · rw [List.length_append, headerLength, prologueSize]
    omega
  · rw [kept (by omega)]
    exact coded
  · rw [kept (by omega)]
    exact offset
  · rw [List.length_append, headerLength, sized]
    dsimp only [FrameView.rewritten]
    rw [UInt8.toNat_ofNat', Nat.mod_eq_of_lt fits]
    omega

end

end Rewriting

end Context

def FrameView.plainApdu (cemi : Octets) : Octets :=
  (octetAt (cemi.drop (frame.linkOffset + linkHeaderSize)) 0 &&& ~~~tpciMask) ::
    ((cemi.drop (frame.linkOffset + linkHeaderSize)).drop 1).take frame.dataLength.toNat

theorem FrameView.plainApdu_length {cemi : Octets} {frame : FrameView}
    (viewed : view cemi = some frame) :
    (frame.plainApdu cemi).length = frame.dataLength.toNat + 1 := by
  obtain ⟨-, -, -, exact, -⟩ := view_eq_some.mp viewed
  simp only [plainApdu, List.length_cons, List.length_take, List.length_drop]
  omega

theorem FrameView.securedApdu_behind {frame : FrameView} {header secured : Octets}
    (first second : UInt8) (headerLength : header.length = frame.linkOffset + linkHeaderSize)
    (sized : secured.length + 1 = frame.dataLength.toNat) :
    frame.securedApdu (header ++ ([first, second] ++ secured)) = secured := by
  unfold securedApdu
  rw [← List.append_assoc, List.drop_left' (by simp [headerLength]), List.take_of_length_le]
  omega

def FrameView.securedUnder (source : UInt16) : FrameView :=
  { frame with
    controlField1 :=
      frameType frame.controlField1 (frame.dataLength.toNat + 2 + securedApduOverhead)
    binding := { frame.binding with source := source }
    dataLength := UInt8.ofNat (frame.dataLength.toNat + 2 + securedApduOverhead)
    secured := true }

/-- The octets are a secured group telegram to the destination, and its APDU is the plain one sealed
under the key and the number. -/
def SealedUnder (backend : CryptoBackend) (key : SecretKey) (seq : Nat)
    (destination : UInt16) (plainApdu sent : Octets) : Prop :=
  ∃ frame control capacity, view sent = some frame ∧ frame.group = true ∧ frame.secured = true ∧
    frame.binding.destination = destination ∧
    sealApdu backend capacity key ⟨control, seq, frame.binding⟩ plainApdu =
      .ok (frame.securedApdu sent)

namespace Context

variable {ctx : Context} {plainCemi sent : Octets} {seq : Nat}

variable {frame : FrameView}

theorem buildSecured_read (source : UInt16) (viewed : view plainCemi = some frame)
    (unnumbered : frame.binding.transportControl = tpciUnnumberedData)
    (small : frame.dataLength.toNat + 2 + securedApduOverhead ≤ maxOctets)
    (built : ctx.buildSecured backend
      { frame with binding := { frame.binding with source := source } } plainCemi key seq =
        .ok sent) :
    view sent = some (frame.securedUnder source) ∧
      sealApdu backend (frame.dataLength.toNat + 2 + securedApduOverhead - 1) key
        { control := { algorithm := ctx.configuration.outgoing }
          sequence := seq
          binding := (frame.securedUnder source).binding } (frame.plainApdu plainCemi) =
            .ok ((frame.securedUnder source).securedApdu sent) ∧
      ∃ apdu, sent = rewriteHeader plainCemi frame source
        (frame.dataLength.toNat + 2 + securedApduOverhead) ++ apdu := by
  unfold buildSecured at built
  dsimp only at built
  split at built
  · cases built
  rename_i secured sealed
  cases built
  have plainLength := FrameView.plainApdu_length viewed
  have securedLength : secured.length = frame.dataLength.toNat + 1 + securedApduOverhead :=
    (sealApdu_length sealed).trans (congrArg (· + securedApduOverhead) plainLength)
  have headerLength := rewriteHeader_length viewed source
    (frame.dataLength.toNat + 2 + securedApduOverhead)
  unfold maxOctets at small
  have fits : frame.dataLength.toNat + 2 + securedApduOverhead < 256 := by omega
  have sized : ([frame.binding.transportControl ||| serviceApciHigh, serviceApciLow] ++
      secured).length = frame.dataLength.toNat + 2 + securedApduOverhead + 1 := by
    rw [List.length_append, List.length_cons, List.length_singleton, securedLength]
    omega
  refine ⟨(view_rewritten viewed source fits sized).trans (congrArg some ?_), ?_, _, rfl⟩
  · have transport : (frame.binding.transportControl ||| serviceApciHigh) &&& tpciMask =
        frame.binding.transportControl := by
      rw [unnumbered]
      decide
    have service : (frame.binding.transportControl ||| serviceApciHigh) &&& serviceApciHigh =
        serviceApciHigh := by
      rw [unnumbered]
      decide
    simp only [FrameView.rewritten, FrameView.securedUnder, FrameView.mk.injEq,
      FrameBinding.mk.injEq, true_and]
    exact ⟨transport, decide_eq_true ⟨by omega, service, rfl⟩⟩
  · refine Eq.trans sealed (congrArg Except.ok (Eq.symm ?_))
    refine FrameView.securedApdu_behind _ _ headerLength ?_
    dsimp only [FrameView.securedUnder]
    rw [securedLength, UInt8.toNat_ofNat', Nat.mod_eq_of_lt fits]
    omega

theorem buildSecured_sealed {before : Context} (source : UInt16)
    (sealable : before.Sealable plainCemi frame key) (built : ctx.buildSecured backend
      { frame with binding := { frame.binding with source := source } } plainCemi key seq =
        .ok sent) :
    SealedUnder backend key seq frame.binding.destination (frame.plainApdu plainCemi) sent := by
  obtain ⟨readBack, sealed, -⟩ := buildSecured_read source sealable.viewed sealable.unnumbered
    sealable.small built
  exact ⟨_, _, _, readBack, sealable.grouped, rfl, rfl, sealed⟩

theorem secureFrame_of_toSeal_some
    (sealing : ctx.toSeal plainCemi = some (frame, key)) (backend : CryptoBackend)
    (source : SequenceSource) :
    ctx.Sealable plainCemi frame key ∧
      ((∃ after why, ctx.takeSequence source = (after, .error why) ∧
          ctx.secureFrame backend source plainCemi = (after, .error why)) ∨
        ∃ after seq result, ctx.takeSequence source = (after, .ok seq) ∧
          ctx.secureFrame backend source plainCemi = (after, result) ∧
          ∀ sent, result = .ok sent →
            SealedUnder backend key seq frame.binding.destination (frame.plainApdu plainCemi)
              sent) := by
  rcases ctx.secureFrame_cases backend source plainCemi with
    ⟨nothing, -⟩ | ⟨_, _, same, sealable, secures⟩
  · rw [nothing] at sealing
    cases sealing
  rw [sealing] at same
  cases same
  refine ⟨sealable, ?_⟩
  rw [secures]
  obtain ⟨after, taken, takes⟩ : ∃ after taken, ctx.takeSequence source = (after, taken) :=
    ⟨_, _, rfl⟩
  rw [takes]
  cases taken with
  | error why => exact .inl ⟨after, why, rfl, rfl⟩
  | ok seq =>
    refine .inr ⟨after, seq, _, rfl, rfl, fun sent built => ?_⟩
    obtain ⟨source, outgoing⟩ := ctx.outgoingFrame_eq frame
    rw [outgoing] at built
    exact buildSecured_sealed source sealable built

theorem secureFrame_built {source : SequenceSource} {cemi : Octets}
    (viewed : view cemi = some frame) (grouped : frame.group = true)
    (held : ctx.configuration.keyFor frame.binding.destination = some key)
    (succeeded : (ctx.secureFrame backend source cemi).2 = .ok sent) :
    ctx.Sealable cemi frame key ∧ ∃ after seq, ctx.takeSequence source = (after, .ok seq) ∧
      after.buildSecured backend (ctx.outgoingFrame frame) cemi key seq = .ok sent := by
  rcases ctx.secureFrame_cases backend source cemi with
    ⟨-, ⟨unkeyed, -⟩ | ⟨why, refused, -⟩⟩ | ⟨_, _, -, sealable, secures⟩
  · simp [groupKeyOf, viewed, grouped, held] at unkeyed
  · rw [refused] at succeeded
    cases succeeded
  cases viewed.symm.trans sealable.viewed
  cases held.symm.trans sealable.held
  rw [secures] at succeeded
  split at succeeded
  · cases succeeded
  · rename_i after seq takes
    exact ⟨sealable, after, seq, takes, succeeded⟩

end Context

end KmxAio.Knx.DataSecure
