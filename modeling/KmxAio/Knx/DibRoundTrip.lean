import KmxAio.Knx.Dib

/-!
# Description blocks there and back

A run of blocks decodes to blocks that encode to the run again, except that the
reserved octet of an IP_CUR_CONFIG block is not kept: it is written as zero.
Blocks that are written decode to themselves if nothing else is written the same.
-/

namespace KmxAio.Knx.Dib

open Lib.Wire Discovery

/-! ## Lists of pairs -/

section Pairs

variable {α : Type} (entry : UInt8 → UInt8 → α) (octets : α → Octets)

theorem pairsWith_octets (writes : ∀ first second, octets (entry first second) = [first, second])
    {content : Octets} (even : content.length % 2 = 0) :
    (pairsWith entry content).flatMap octets = content := by
  fun_induction pairsWith entry content with
  | case1 first second rest ih =>
    rw [List.flatMap_cons, writes, ih (by simp only [List.length_cons] at even; omega)]
    rfl
  | case2 content short =>
    obtain _ | ⟨first, _ | ⟨second, rest⟩⟩ := content
    · rfl
    · cases even
    · exact (short first second rest rfl).elim

theorem pairsWith_flatMap
    (reads : ∀ val, ∃ first second, octets val = [first, second] ∧ entry first second = val)
    (values : List α) :
    pairsWith entry (values.flatMap octets) = values ∧
      (values.flatMap octets).length = 2 * values.length := by
  induction values with
  | nil => exact ⟨rfl, rfl⟩
  | cons val values ih =>
    obtain ⟨first, second, written, read⟩ := reads val
    rw [List.flatMap_cons, written]
    refine ⟨?_, ?_⟩
    · simp only [List.cons_append, List.nil_append, pairsWith, read, ih.1]
    · rw [List.length_append, ih.2]
      simp only [List.length_cons, List.length_nil]
      omega

end Pairs

theorem families_flatMap (families : List ServiceFamilyEntry) :
    familyEntries (families.flatMap ServiceFamilyEntry.octets) = families ∧
      (families.flatMap ServiceFamilyEntry.octets).length = 2 * families.length :=
  pairsWith_flatMap ServiceFamilyEntry.mk ServiceFamilyEntry.octets
    (fun entry => ⟨entry.family, entry.version, rfl, rfl⟩) families

theorem addresses_flatMap (numbers : List UInt16) :
    addressList (numbers.flatMap u16Octets) = numbers ∧
      (numbers.flatMap u16Octets).length = 2 * numbers.length := by
  refine pairsWith_flatMap _ _ (fun num => ⟨_, _, rfl, ?_⟩) numbers
  have read := readU16_append_left num []
  rwa [List.append_nil] at read

theorem blockSize_eq (val : Block) : blockSize val = 2 + (blockContent val).length := by
  cases val with
  | deviceInfo val => simp [blockSize, blockContent, deviceInfoSize]
  | supportedServiceFamilies secured families =>
    rw [blockSize, blockContent, (families_flatMap families).2, blockHeaderSize]
  | ipConfig val => simp [blockSize, blockContent, ipConfigSize]
  | currentIpConfig val => simp [blockSize, blockContent, currentIpConfigSize]
  | addresses device additional =>
    rw [blockSize, blockContent, List.length_append, (addresses_flatMap additional).2,
      u16Octets_length, blockHeaderSize]
    omega
  | manufacturerData manufacturerId data =>
    rw [blockSize, blockContent, List.length_append, u16Octets_length, manufacturerDataMinSize]
    omega
  | unknownBlock typeCode data => rfl

theorem writeBlock_length (size : Nat) (val : Block) :
    (writeBlock size val).length = blockSize val := by
  rw [blockSize_eq, writeBlock, List.length_cons, List.length_cons]
  omega

/-! ## A block that decodes -/

/-- The reserved octet of a block is zero, if the block has one. -/
def ReservedClear (body : Octets) : Prop :=
  octetAt body 1 = BlockType.currentIpConfig.toOctet → octetAt body 19 = 0

instance (body : Octets) : Decidable (ReservedClear body) := inferInstanceAs (Decidable (_ → _))

/-- The block read from a body is written under the type of the body and with its size, and with
its content unless that has a reserved octet that is not zero. -/
structure Restores (body : Octets) (value : Block) : Prop where
  type : blockTypeCode value = octetAt body 1
  size : blockSize value = body.length
  content : blockContent value = body.drop 2 ↔ ReservedClear body

variable {body : Octets} {val : Block}

theorem restores_of_content (type : blockTypeCode val = octetAt body 1) (header : 2 ≤ body.length)
    (other : octetAt body 1 ≠ BlockType.currentIpConfig.toOctet)
    (content : blockContent val = body.drop 2) : Restores body val := by
  refine ⟨type, ?_, iff_of_true content (fun same => absurd same other)⟩
  rw [blockSize_eq, content, List.length_drop]
  omega

theorem decodeDeviceInfo_restores (type : octetAt body 1 = BlockType.deviceInfo.toOctet)
    (decoded : decodeDeviceInfo body = .ok val) : Restores body val := by
  unfold decodeDeviceInfo at decoded
  split at decoded
  · cases decoded
  rename_i size
  simp only [deviceInfoSize, ne_eq, Decidable.not_not] at size
  cases decoded
  refine restores_of_content type.symm (by omega) (by rw [type]; decide) ?_
  have last : (body.drop 24).take 30 = body.drop 24 :=
    List.take_of_length_le (by rw [List.length_drop]; omega)
  simp only [blockContent]
  rw [u16Octets_readU16 (by omega), u16Octets_readU16 (by omega), readArray_toList (by omega),
    readArray_toList (by omega), readArray_toList (by omega), readArray_toList (by omega), last,
    take_append_drop_add body 18 6, take_append_drop_add body 14 4, take_append_drop_add body 8 6,
    take_append_drop_add body 6 2, take_append_drop_add body 4 2,
    drop_eq_octetAt_cons (by omega : 2 < body.length),
    drop_eq_octetAt_cons (by omega : 3 < body.length)]
  rfl

theorem decodeServiceFamilies_restores (secured : Bool)
    (type : octetAt body 1 = blockTypeCode (.supportedServiceFamilies secured []))
    (header : 2 ≤ body.length) (decoded : decodeServiceFamilies body secured = .ok val) :
    Restores body val := by
  have other : octetAt body 1 ≠ BlockType.currentIpConfig.toOctet := by
    rw [type]
    cases secured <;> decide
  unfold decodeServiceFamilies at decoded
  split at decoded
  · cases decoded
  rename_i even
  simp only [blockHeaderSize, ne_eq, Decidable.not_not] at even
  dsimp only at decoded
  split at decoded <;> cases decoded
  · refine restores_of_content type.symm header other ?_
    exact pairsWith_octets _ _ (fun _ _ => rfl) (by rw [List.length_drop]; exact even)
  · exact restores_of_content rfl header other rfl

theorem decodeIpConfig_restores (type : octetAt body 1 = BlockType.ipConfig.toOctet)
    (decoded : decodeIpConfig body = .ok val) : Restores body val := by
  unfold decodeIpConfig at decoded
  split at decoded
  · cases decoded
  rename_i size
  simp only [ipConfigSize, ne_eq, Decidable.not_not] at size
  cases decoded
  refine restores_of_content type.symm (by omega) (by rw [type]; decide) ?_
  have last : [octetAt body 14, octetAt body 15] = body.drop 14 := by
    rw [drop_eq_octetAt_cons (by omega : 14 < body.length),
      drop_eq_octetAt_cons (by omega : 15 < body.length), List.drop_of_length_le (by omega)]
  simp only [blockContent]
  rw [readArray_toList (by omega), readArray_toList (by omega), readArray_toList (by omega), last,
    take_append_drop_add body 10 4, take_append_drop_add body 6 4, take_append_drop_add body 2 4]

/-- The reserved octet is read past, and written as zero. -/
theorem decodeCurrentIpConfig_restores (type : octetAt body 1 = BlockType.currentIpConfig.toOctet)
    (decoded : decodeCurrentIpConfig body = .ok val) : Restores body val := by
  unfold decodeCurrentIpConfig at decoded
  split at decoded
  · cases decoded
  rename_i size
  simp only [currentIpConfigSize, ne_eq, Decidable.not_not] at size
  cases decoded
  have last : [octetAt body 18, octetAt body 19] = body.drop 18 := by
    rw [drop_eq_octetAt_cons (by omega : 18 < body.length),
      drop_eq_octetAt_cons (by omega : 19 < body.length), List.drop_of_length_le (by omega)]
  have whole : body.drop 2 = (body.drop 2).take 4 ++ ((body.drop 6).take 4 ++
      ((body.drop 10).take 4 ++ ((body.drop 14).take 4 ++ [octetAt body 18, octetAt body 19]))) := by
    rw [last, take_append_drop_add body 14 4, take_append_drop_add body 10 4,
      take_append_drop_add body 6 4, take_append_drop_add body 2 4]
  refine ⟨type.symm, size.symm, (Eq.congr_right whole).trans ?_⟩
  simp only [blockContent]
  rw [readArray_toList (by omega), readArray_toList (by omega), readArray_toList (by omega),
    readArray_toList (by omega)]
  simp only [List.append_cancel_left_eq, List.cons.injEq, ReservedClear, type, true_and, and_true,
    forall_const]
  exact eq_comm

theorem decodeAddresses_restores (type : octetAt body 1 = BlockType.knxAddresses.toOctet)
    (decoded : decodeAddresses body = .ok val) : Restores body val := by
  unfold decodeAddresses at decoded
  split at decoded
  · cases decoded
  rename_i size
  cases decoded
  refine restores_of_content type.symm (by omega) (by rw [type]; decide) ?_
  simp only [blockContent, addressList]
  rw [u16Octets_readU16 (by omega), pairsWith_octets _ _ _ (by rw [List.length_drop]; omega),
    take_append_drop_add body 2 2]
  intro high low
  exact u16Octets_readU16 (by simp)

theorem decodeManufacturerData_restores (type : octetAt body 1 = BlockType.manufacturerData.toOctet)
    (decoded : decodeManufacturerData body = .ok val) : Restores body val := by
  unfold decodeManufacturerData at decoded
  split at decoded
  · cases decoded
  rename_i size
  rw [manufacturerDataMinSize, Nat.not_lt] at size
  cases decoded
  refine restores_of_content type.symm (by omega) (by rw [type]; decide) ?_
  rw [blockContent, u16Octets_readU16 (by omega)]
  exact take_append_drop_add body 2 2

/-! ## Runs of blocks -/

variable {octets : Octets}

theorem blockBody_eq_some : blockBody octets = some body ↔
    2 ≤ (octetAt octets 0).toNat ∧ (octetAt octets 0).toNat ≤ octets.length ∧
      octets.take (octetAt octets 0).toNat = body := by
  unfold blockBody blockHeaderSize
  dsimp only
  split
  · simp only [reduceCtorEq, false_iff]
    omega
  split
  · simp only [reduceCtorEq, false_iff]
    omega
  · rw [Option.some.injEq]
    exact ⟨fun same => ⟨by omega, by omega, same⟩, fun inside => inside.2.2⟩

theorem decode_restores (decoded : decode octets = .ok val) :
    2 ≤ (octetAt octets 0).toNat ∧ (octetAt octets 0).toNat ≤ octets.length ∧
      blockSize val = (octetAt octets 0).toNat ∧
      (writeBlock (blockSize val) val = octets.take (octetAt octets 0).toNat ↔
        ReservedClear (octets.take (octetAt octets 0).toNat)) := by
  unfold decode at decoded
  split at decoded
  · cases decoded
  rename_i body found
  obtain ⟨header, inside, rfl⟩ := blockBody_eq_some.mp found
  generalize size : (octetAt octets 0).toNat = count at header inside decoded ⊢
  have type : octetAt octets 1 = octetAt (octets.take count) 1 := (octetAt_take octets header).symm
  have length : (octets.take count).length = count := List.length_take_of_le inside
  rw [type] at decoded
  have restores : Restores (List.take count octets) val := by
    unfold decodeBody at decoded
    split at decoded
    · exact decodeDeviceInfo_restores (by assumption) decoded
    split at decoded
    · exact decodeServiceFamilies_restores false (by assumption) (by omega) decoded
    split at decoded
    · exact decodeServiceFamilies_restores true (by assumption) (by omega) decoded
    split at decoded
    · exact decodeIpConfig_restores (by assumption) decoded
    split at decoded
    · exact decodeCurrentIpConfig_restores (by assumption) decoded
    split at decoded
    · exact decodeAddresses_restores (by assumption) decoded
    split at decoded
    · exact decodeManufacturerData_restores (by assumption) decoded
    · cases decoded
      exact restores_of_content rfl (by omega) (by assumption) rfl
  refine ⟨header, inside, restores.size.trans length, Iff.trans ?_ restores.content⟩
  have first : octets.take count =
      UInt8.ofNat (blockSize val) :: blockTypeCode val :: (octets.take count).drop 2 := by
    have start : octetAt (octets.take count) 0 = UInt8.ofNat (blockSize val) := by
      rw [restores.size, length, octetAt_take octets (by omega), ← size, UInt8.ofNat_toNat]
    rw [← start, restores.type, ← drop_eq_octetAt_cons (by omega), ← drop_eq_octetAt_cons (by omega),
      List.drop_zero]
  rw [writeBlock]
  nth_rewrite 1 [first]
  simp only [List.cons.injEq, true_and]

theorem encode_eq_ok {capacity : Nat} : encode capacity val = .ok octets ↔
    blockSize val ≤ maxBlockSize ∧ blockSize val ≤ capacity ∧
      writeBlock (blockSize val) val = octets := by
  unfold encode
  dsimp only
  split
  · simp only [refuse, reduceCtorEq, false_iff]
    omega
  split
  · simp only [refuse, reduceCtorEq, false_iff]
    omega
  · rw [Except.ok.injEq]
    exact ⟨fun same => ⟨by omega, by omega, same⟩, fun fits => fits.2.2⟩

theorem encodeAll_cons {capacity : Nat} {values : List Block} :
    encodeAll capacity (val :: values) = .ok octets ↔
      ∃ written more, encode capacity val = .ok written ∧
        encodeAll (capacity - written.length) values = .ok more ∧ written ++ more = octets := by
  rw [encodeAll]
  cases encode capacity val with
  | error why => simp
  | ok written =>
    cases rest : encodeAll (capacity - written.length) values with
    | error why | ok more => simp [rest]

def blockBodies : Nat → Octets → List Octets
  | 0, _ => []
  | count + 1, octets =>
      if octets = [] then []
      else
        let size := (octetAt octets 0).toNat
        octets.take size :: blockBodies count (octets.drop size)

/-- A run that decodes adds up, and is written again as it was exactly when every reserved octet is
zero. The induction is on the number of blocks that may still be read. -/
theorem decodeBlocks_restores (count : Nat) (blocks : List Block)
    (decoded : decodeBlocks count octets = .ok blocks) (enough : octets.length ≤ count) :
    walkBlocks count octets = true ∧ ∀ capacity, octets.length ≤ capacity →
      (encodeAll capacity blocks = .ok octets ↔
        ∀ body ∈ blockBodies count octets, ReservedClear body) := by
  induction count generalizing octets blocks with
  | zero =>
    obtain rfl : octets = [] := List.length_eq_zero_iff.mp (Nat.le_zero.mp enough)
    cases decoded
    exact ⟨rfl, fun capacity _ => iff_of_true rfl nofun⟩
  | succ count ih =>
    rw [decodeBlocks] at decoded
    by_cases none : octets = []
    · subst none
      cases decoded
      exact ⟨rfl, fun capacity _ => iff_of_true rfl nofun⟩
    rw [if_neg none] at decoded
    cases first : decode octets with
    | error why =>
      rw [first] at decoded
      cases decoded
    | ok val =>
      obtain ⟨header, inside, sized, restores⟩ := decode_restores first
      have small : (octetAt octets 0).toNat ≤ maxBlockSize := Nat.le_of_lt_succ (UInt8.toNat_lt _)
      rw [first] at decoded
      rw [walkBlocks, if_neg (by simpa using none), blockBodies, if_neg none]
      generalize (octetAt octets 0).toNat = size at *
      have shorter : (octets.drop size).length = octets.length - size := List.length_drop
      cases rest : decodeBlocks count (octets.drop size) with
      | error why =>
        rw [rest] at decoded
        cases decoded
      | ok more =>
        rw [rest] at decoded
        obtain rfl := Except.ok.inj decoded
        obtain ⟨walked, others⟩ := ih more rest (by omega)
        rw [if_neg (by omega)]
        refine ⟨walked, fun capacity room => ?_⟩
        have encoded : encode capacity val = .ok (writeBlock (blockSize val) val) :=
          encode_eq_ok.mpr ⟨by omega, by omega, rfl⟩
        have length : (writeBlock (blockSize val) val).length = size :=
          (writeBlock_length _ _).trans sized
        have whole : octets.take size ++ octets.drop size = octets := List.take_append_drop size octets
        rw [encodeAll_cons, List.forall_mem_cons, ← restores, ← others (capacity - size) (by omega)]
        constructor
        · rintro ⟨written, after, writes, follows, joined⟩
          obtain rfl := Except.ok.inj (encoded.symm.trans writes)
          rw [length] at follows
          obtain ⟨same, rfl⟩ := List.append_inj (joined.trans whole.symm)
            (length.trans (List.length_take_of_le inside).symm)
          exact ⟨same, follows⟩
        · rintro ⟨same, follows⟩
          refine ⟨_, octets.drop size, encoded, ?_, by rw [same, whole]⟩
          rwa [length]

/-! ## Blocks that are written -/

def modelledTypes : List UInt8 :=
  [BlockType.deviceInfo, .supportedServiceFamilies, .securedServiceFamilies, .ipConfig,
    .currentIpConfig, .knxAddresses, .manufacturerData].map BlockType.toOctet

/-- Nothing else is written as this block is: it names families that are known, and is not unknown
under a type that is. -/
def Block.unambiguous : Block → Bool
  | .unknownBlock typeCode _ => typeCode ∉ modelledTypes
  | .supportedServiceFamilies _ families =>
      families.all fun entry => knownServiceFamily entry.family
  | _ => true

section Fields

variable (first : UInt8) (rest : Octets) (index : Nat)

theorem octetAt_zero : octetAt (first :: rest) 0 = first := rfl

theorem octetAt_cons : octetAt (first :: rest) (index + 1) = octetAt rest index := rfl

theorem readU16_cons : readU16 (first :: rest) (index + 1) = readU16 rest index := rfl

theorem readArray_cons (size : Nat) :
    readArray size (index + 1) (first :: rest) = readArray size index rest := rfl

end Fields

theorem decodeBody_writeBlock (size : Nat) (clear : val.unambiguous = true) :
    decodeBody (writeBlock size val) (blockTypeCode val) = .ok val := by
  have length := writeBlock_length size val
  cases val with
  | deviceInfo val =>
    show decodeDeviceInfo _ = _
    rw [decodeDeviceInfo, if_neg (by rw [length]; exact not_not.mpr rfl), writeBlock, blockContent]
    simp [octetAt_zero, octetAt_cons, readU16_cons, readArray_cons, readU16_append_right,
      readArray_append_right, readU16_append_left, readArray_append_left, readArray_self]
  | supportedServiceFamilies secured families =>
    have known : families.all (fun entry => knownServiceFamily entry.family) = true := clear
    have read : decodeServiceFamilies (writeBlock size (.supportedServiceFamilies secured families))
        secured = .ok (.supportedServiceFamilies secured families) := by
      rw [decodeServiceFamilies, if_neg (by rw [length, blockSize]; omega)]
      simp [writeBlock, blockContent, blockHeaderSize, families_flatMap, known]
    cases secured <;> exact read
  | ipConfig val =>
    show decodeIpConfig _ = _
    rw [decodeIpConfig, if_neg (by rw [length]; exact not_not.mpr rfl), writeBlock, blockContent]
    simp [octetAt_zero, octetAt_cons, octetAt_append_right, readArray_cons, readArray_append_right,
      readArray_append_left]
  | currentIpConfig val =>
    show decodeCurrentIpConfig _ = _
    rw [decodeCurrentIpConfig, if_neg (by rw [length]; exact not_not.mpr rfl), writeBlock,
      blockContent]
    simp [octetAt_zero, octetAt_cons, octetAt_append_right, readArray_cons, readArray_append_right,
      readArray_append_left]
  | addresses device additional =>
    show decodeAddresses _ = _
    rw [decodeAddresses, if_neg (by rw [length, blockSize, blockHeaderSize]; omega), writeBlock,
      blockContent]
    simp [readU16_cons, readU16_append_left, addresses_flatMap]
  | manufacturerData manufacturerId data =>
    rw [decodeBody, blockTypeCode, if_neg (by decide), if_neg (by decide), if_neg (by decide),
      if_neg (by decide), if_neg (by decide), if_neg (by decide), if_pos rfl,
      decodeManufacturerData, if_neg (by rw [length, blockSize]; omega), writeBlock, blockContent]
    simp [readU16_cons, readU16_append_left, manufacturerDataMinSize]
  | unknownBlock typeCode data =>
    simp only [Block.unambiguous, decide_eq_true_eq, modelledTypes, List.map_cons, List.map_nil,
      List.mem_cons, List.not_mem_nil, or_false, not_or] at clear
    obtain ⟨device, families, secured, config, current, addresses, manufacturer⟩ := clear
    rw [decodeBody, blockTypeCode, if_neg device, if_neg families, if_neg secured, if_neg config,
      if_neg current, if_neg addresses, if_neg manufacturer]
    rfl

theorem decodeBlocks_encodeAll (blocks : List Block) {capacity count : Nat}
    (clear : ∀ val ∈ blocks, val.unambiguous = true)
    (encoded : encodeAll capacity blocks = .ok octets) (enough : octets.length ≤ count) :
    decodeBlocks count octets = .ok blocks := by
  induction blocks generalizing capacity count octets with
  | nil =>
    cases encoded
    cases count <;> rfl
  | cons val blocks ih =>
    obtain ⟨written, more, first, follows, rfl⟩ := encodeAll_cons.mp encoded
    obtain ⟨small, -, rfl⟩ := encode_eq_ok.mp first
    obtain ⟨size, decoded⟩ : (octetAt (writeBlock (blockSize val) val ++ more) 0).toNat = blockSize
        val ∧ decode (writeBlock (blockSize val) val ++ more) = .ok val := by
      have length : (writeBlock (blockSize val) val).length = blockSize val :=
        writeBlock_length _ val
      have size : (octetAt (writeBlock (blockSize val) val ++ more) 0).toNat = blockSize val :=
        UInt8.toNat_ofNat_of_lt' (Nat.lt_succ_of_le small)
      have body : blockBody (writeBlock (blockSize val) val ++ more) =
          some (writeBlock (blockSize val) val) := by
        refine blockBody_eq_some.mpr ⟨?_, ?_, ?_⟩
        · rw [size, blockSize_eq]
          omega
        · rw [size, List.length_append, length]
          omega
        · rw [size, List.take_left' length]
      refine ⟨size, ?_⟩
      rw [decode, body]
      exact decodeBody_writeBlock _ (clear val List.mem_cons_self)
    have length : (writeBlock (blockSize val) val).length = blockSize val :=
      writeBlock_length _ val
    have positive : 2 ≤ blockSize val := by
      rw [blockSize_eq]
      omega
    rw [List.length_append, length] at enough
    obtain ⟨count, rfl⟩ : ∃ less, count = less + 1 := ⟨count - 1, by omega⟩
    have rest := ih (fun other listed => clear other (List.mem_cons_of_mem _ listed)) follows
      (by omega : more.length ≤ count)
    rw [decodeBlocks, if_neg (by simp [writeBlock]), decoded, size, List.drop_left' length]
    simp only [rest]

/-- Description blocks are lossless but for a reserved octet. A run that decodes adds up, and is
reproduced by encoding its blocks exactly when the reserved octet of every IP_CUR_CONFIG block in
it is zero; and blocks that nothing else is written as decode from what they are written as. -/
theorem blocks_lossless_iff (octets : Octets) (blocks : List Block) (capacity : Nat) :
    (decodeAll octets = .ok blocks → octets.length ≤ capacity →
      (encodeAll capacity blocks = .ok octets ↔
        ∀ body ∈ blockBodies octets.length octets, ReservedClear body)) ∧
    (decodeAll octets = .ok blocks → validBlocks octets = true) ∧
    (encodeAll capacity blocks = .ok octets → (∀ val ∈ blocks, val.unambiguous = true) →
      decodeAll octets = .ok blocks) := by
  refine ⟨fun decoded room => ?_, fun decoded => ?_, fun encoded clear => ?_⟩
  · exact (decodeBlocks_restores _ blocks decoded (Nat.le_refl _)).2 capacity room
  · exact (decodeBlocks_restores _ blocks decoded (Nat.le_refl _)).1
  · exact decodeBlocks_encodeAll blocks clear encoded (Nat.le_refl _)

def sampleBlocks : List Block :=
  [.supportedServiceFamilies false [⟨0x02, 2⟩, ⟨0x04, 2⟩], .unknownBlock 0x07 [0x00, 0xFE]]

def sampleRun : Octets := [0x06, 0x02, 0x02, 0x02, 0x04, 0x02, 0x04, 0x07, 0x00, 0xFE]

theorem sampleBlocks_lossless :
    decodeAll sampleRun = .ok sampleBlocks ∧ encodeAll 64 sampleBlocks = .ok sampleRun ∧
      validBlocks sampleRun = true := by
  have lossless := blocks_lossless_iff sampleRun sampleBlocks 64
  have encoded : encodeAll 64 sampleBlocks = .ok sampleRun :=
    (lossless.1 (by decide) (by decide)).mpr (by decide)
  have decoded := lossless.2.2 encoded (by decide)
  exact ⟨decoded, encoded, lossless.2.1 decoded⟩

def reservedBlock : Octets :=
  [20, 4, 192, 168, 0, 10, 255, 255, 255, 0, 192, 168, 0, 1, 192, 168, 0, 2, 4, 1]

/-- The block decodes, and is encoded with a zero in place of the reserved octet. -/
theorem reservedBlock_altered :
    (decodeAll reservedBlock).bind (encodeAll 20) = .ok (reservedBlock.take 19 ++ [0x00]) ∧
      (decodeAll reservedBlock).bind (encodeAll 20) ≠ .ok reservedBlock := by
  decide +kernel

end KmxAio.Knx.Dib
