import Mathlib.Data.List.Infix
import KmxAio.Lib.Wire
import KmxAio.Knx.Error

/-!
# Base64

The text form of keys, passwords and signatures in a keyring. Three octets are
four characters; a text ends in as many `=` as its last three octets lack. The
bits the padding leaves over must be zero, so every text has one meaning and
every meaning one text.
-/

namespace KmxAio.Knx.Keyring

open Lib.Wire

def base64Alphabet : Octets :=
  ascii "ABCDEFGHIJKLMNOPQRSTUVWXYZabcdefghijklmnopqrstuvwxyz0123456789+/"

def base64Pad : UInt8 := octetOf '='

def base64Value (val : UInt8) : Option Nat :=
  if octetOf 'A' ≤ val ∧ val ≤ octetOf 'Z' then some (val.toNat - (octetOf 'A').toNat)
  else if octetOf 'a' ≤ val ∧ val ≤ octetOf 'z' then
    some (val.toNat - (octetOf 'a').toNat + 26)
  else if octetOf '0' ≤ val ∧ val ≤ octetOf '9' then
    some (val.toNat - (octetOf '0').toNat + 52)
  else if val = octetOf '+' then some 62
  else if val = octetOf '/' then some 63
  else none

/-- The value of the character at an index of a quantum whose last `padding` characters are `=`. -/
def quantumValue (size padding index : Nat) (character : UInt8) : Option Nat :=
  if index ≥ size - padding then if character = base64Pad then some 0 else none
  else base64Value character

def quantumBits (quantum : Octets) (padding : Nat) : Option Nat :=
  quantum.zipIdx.foldlM
    (fun bits entry =>
      (quantumValue quantum.length padding entry.2 entry.1).map fun val => bits <<< 6 ||| val) 0

/-- Decodes one four-character quantum, of which the last `padding` characters must be `=`. -/
def decodeQuantum (quantum : Octets) (padding : Nat) : Option Octets :=
  match quantumBits quantum padding with
  | none => none
  | some bits =>
    if padding = 1 ∧ bits &&& 0xFF ≠ 0 ∨ padding = 2 ∧ bits &&& 0xFFFF ≠ 0 then none
    else
      some ([UInt8.ofNat (bits >>> 16)] ++
        ((if padding < 2 then [UInt8.ofNat ((bits >>> 8) &&& 0xFF)] else []) ++
          (if padding < 1 then [UInt8.ofNat (bits &&& 0xFF)] else [])))

def decodeQuanta (padding : Nat) : Octets → Expected Octets
  | first :: second :: third :: fourth :: rest =>
    match decodeQuantum [first, second, third, fourth] (if rest = [] then padding else 0) with
    | none => refuse .malformedFrame
    | some octets =>
      match decodeQuanta padding rest with
      | .error why => .error why
      | .ok more => .ok (octets ++ more)
  | _ => .ok []

def base64Decode (text : Octets) : Expected Octets :=
  if text = [] ∨ text.length % 4 ≠ 0 then refuse .malformedFrame
  else
    let padding :=
      if [base64Pad, base64Pad] <:+ text then 2 else if [base64Pad] <:+ text then 1 else 0
    decodeQuanta padding text

def encodeQuantum (octets : Octets) : Octets :=
  let available := octets.length
  let bits := (octetAt octets 0).toNat <<< 16 |||
    ((if available > 1 then (octetAt octets 1).toNat <<< 8 else 0) |||
      (if available > 2 then (octetAt octets 2).toNat else 0))
  (List.range 4).map fun index =>
    if index ≤ available then octetAt base64Alphabet ((bits >>> (18 - 6 * index)) &&& 0x3F)
    else base64Pad

def base64Encode : Octets → Octets
  | [] => []
  | first :: second :: third :: rest => encodeQuantum [first, second, third] ++ base64Encode rest
  | last => encodeQuantum last

/-! ## Characters and values -/

theorem base64Value_alphabet : ∀ val < 64,
    base64Value (octetAt base64Alphabet val) = some val ∧
      octetAt base64Alphabet val ≠ base64Pad := by
  decide +kernel

theorem alphabet_base64Value : ∀ character : UInt8, ∀ val,
    base64Value character = some val → val < 64 ∧ octetAt base64Alphabet val = character := by
  apply forall_octet
  have all : ∀ num < 256, (base64Value (UInt8.ofNat num)).all
      (fun val => val < 64 ∧ octetAt base64Alphabet val = UInt8.ofNat num) = true := by
    decide +kernel
  intro num small val found
  simpa [found] using all num small

variable {padding index : Nat} {first second third fourth : UInt8} {octets : Octets}

theorem quantumValue_lt {val : Nat} {character : UInt8}
    (found : quantumValue 4 padding index character = some val) : val < 64 := by
  unfold quantumValue at found
  split at found
  · split at found
    · cases found
      decide
    · cases found
  · exact (alphabet_base64Value _ _ found).1

theorem quantumValue_of_lt (character : UInt8) (inside : index < 4 - padding) :
    quantumValue 4 padding index character = base64Value character :=
  if_neg (Nat.not_le.mpr inside)

theorem quantumValue_of_ge (character : UInt8) (past : 4 - padding ≤ index) :
    quantumValue 4 padding index character = if character = base64Pad then some 0 else none :=
  if_pos past

/-! ## One quantum -/

def sextetNumber (first second third fourth : Nat) : Nat :=
  ((first * 64 + second) * 64 + third) * 64 + fourth

def octetNumber (octets : Octets) : Nat :=
  (octetAt octets 0).toNat * 65536 + ((octetAt octets 1).toNat * 256 + (octetAt octets 2).toNat)

theorem quantumBits_step (padding bits index result : Nat) (character : UInt8)
    (rest : List (UInt8 × Nat)) :
    ((character, index) :: rest).foldlM (fun bits entry =>
        (quantumValue 4 padding entry.2 entry.1).map fun val => bits <<< 6 ||| val) bits =
        some result ↔
      ∃ val, quantumValue 4 padding index character = some val ∧
        rest.foldlM (fun bits entry =>
          (quantumValue 4 padding entry.2 entry.1).map fun val => bits <<< 6 ||| val)
          (bits * 64 + val) = some result := by
  rw [List.foldlM_cons]
  cases found : quantumValue 4 padding index character with
  | none => simp
  | some val =>
    have joined : bits <<< 6 ||| val = bits * 64 + val := by
      rw [← Nat.shiftLeft_add_eq_or_of_lt (quantumValue_lt found), Nat.shiftLeft_eq]
    simp [joined]

theorem quantumBits_eq_some {bits : Nat} :
    quantumBits [first, second, third, fourth] padding = some bits ↔
      ∃ a b c d, quantumValue 4 padding 0 first = some a ∧
        quantumValue 4 padding 1 second = some b ∧ quantumValue 4 padding 2 third = some c ∧
        quantumValue 4 padding 3 fourth = some d ∧ sextetNumber a b c d = bits := by
  unfold quantumBits
  simp only [List.zipIdx_cons, List.zipIdx_nil, List.length_cons, List.length_nil, Nat.zero_add,
    quantumBits_step, List.foldlM_nil]
  constructor
  · rintro ⟨a, firstValue, b, secondValue, c, thirdValue, d, fourthValue, result⟩
    refine ⟨a, b, c, d, firstValue, secondValue, thirdValue, fourthValue, ?_⟩
    simpa [sextetNumber] using result
  · rintro ⟨a, b, c, d, firstValue, secondValue, thirdValue, fourthValue, rfl⟩
    refine ⟨a, firstValue, b, secondValue, c, thirdValue, d, fourthValue, ?_⟩
    simp [sextetNumber]

def sextet (num index : Nat) : Nat := num / 64 ^ (3 - index) % 64

/-- The character at an index: a digit, or padding behind the digits the octets reach into. -/
def quantumCharacter (octets : Octets) (index : Nat) : UInt8 :=
  if index ≤ octets.length then octetAt base64Alphabet (sextet (octetNumber octets) index)
  else base64Pad

theorem octetAt_of_length_le (past : octets.length ≤ index) : octetAt octets index = 0 := by
  simp [octetAt, past]

theorem encodeQuantum_eq (octets : Octets) :
    encodeQuantum octets = (List.range 4).map (quantumCharacter octets) := by
  have missing (index : Nat) (past : octets.length ≤ index) : octetAt octets index = 0 :=
    octetAt_of_length_le past
  have second : (if octets.length > 1 then (octetAt octets 1).toNat <<< 8 else 0) =
      (octetAt octets 1).toNat <<< 8 := by
    split
    · rfl
    · rw [missing 1 (by omega)]
      rfl
  have third : (if octets.length > 2 then (octetAt octets 2).toNat else 0) =
      (octetAt octets 2).toNat := by
    split
    · rfl
    · rw [missing 2 (by omega)]
      rfl
  have low : (octetAt octets 1).toNat <<< 8 ||| (octetAt octets 2).toNat =
      (octetAt octets 1).toNat * 256 + (octetAt octets 2).toNat := by
    rw [← Nat.shiftLeft_add_eq_or_of_lt (octetAt octets 2).toNat_lt, Nat.shiftLeft_eq]
  have bits : (octetAt octets 0).toNat <<< 16 |||
      ((octetAt octets 1).toNat * 256 + (octetAt octets 2).toNat) = octetNumber octets := by
    have secondSmall := (octetAt octets 1).toNat_lt
    have thirdSmall := (octetAt octets 2).toNat_lt
    rw [← Nat.shiftLeft_add_eq_or_of_lt (by omega), Nat.shiftLeft_eq]
    rfl
  unfold encodeQuantum
  dsimp only
  rw [second, third, low, bits]
  apply List.map_congr_left
  intro index member
  have mask (num : Nat) : num &&& 0x3F = num % 64 :=
    Nat.and_two_pow_sub_one_eq_mod num 6
  have digit : octetNumber octets >>> (18 - 6 * index) = octetNumber octets / 64 ^ (3 - index) := by
    rw [Nat.shiftRight_eq_div_pow, show (64 : Nat) = 2 ^ 6 from rfl, ← Nat.pow_mul]
    congr 2
    omega
  rw [mask, digit, quantumCharacter, sextet]

theorem and_octet (num : Nat) : num &&& 0xFF = num % 256 :=
  Nat.and_two_pow_sub_one_eq_mod num 8

theorem and_two_octets (num : Nat) : num &&& 0xFFFF = num % 65536 :=
  Nat.and_two_pow_sub_one_eq_mod num 16

theorem decodeQuantum_some (few : padding ≤ 2)
    (decoded : decodeQuantum [first, second, third, fourth] padding = some octets) :
    octets.length = 3 - padding ∧
      quantumBits [first, second, third, fourth] padding = some (octetNumber octets) := by
  unfold decodeQuantum at decoded
  cases found : quantumBits [first, second, third, fourth] padding with
  | none => simp [found] at decoded
  | some bits =>
    obtain ⟨a, b, c, d, firstValue, secondValue, thirdValue, fourthValue, num⟩ :=
      quantumBits_eq_some.mp found
    have firstSmall := quantumValue_lt firstValue
    have secondSmall := quantumValue_lt secondValue
    have thirdSmall := quantumValue_lt thirdValue
    have fourthSmall := quantumValue_lt fourthValue
    have small : bits < 16777216 := by
      rw [← num, sextetNumber]
      omega
    simp only [found, and_octet, and_two_octets, Nat.shiftRight_eq_div_pow] at decoded
    split at decoded
    · cases decoded
    rename_i clear
    simp only [Option.some.injEq] at decoded
    subst decoded
    obtain rfl | rfl | rfl : padding = 0 ∨ padding = 1 ∨ padding = 2 := by omega
    · simp [octetNumber, octetAt]
      omega
    · simp [octetNumber, octetAt] at clear ⊢
      omega
    · simp [octetNumber, octetAt] at clear ⊢
      omega

theorem decodeQuantum_of_bits (nonempty : octets ≠ []) (short : octets.length ≤ 3)
    (bits : quantumBits [first, second, third, fourth] (3 - octets.length) =
      some (octetNumber octets)) :
    decodeQuantum [first, second, third, fourth] (3 - octets.length) = some octets := by
  have octet (val : UInt8) (num : Nat) (same : num % 256 = val.toNat) :
      UInt8.ofNat num = val := by
    apply UInt8.toNat_inj.mp
    rw [UInt8.toNat_ofNat', same]
  unfold decodeQuantum
  rw [bits]
  simp only [and_octet, and_two_octets, Nat.shiftRight_eq_div_pow]
  obtain _ | ⟨x, _ | ⟨y, _ | ⟨z, rest⟩⟩⟩ := octets
  · simp at nonempty
  · simp [octetNumber, octetAt]
  · have num : octetNumber [x, y] = x.toNat * 65536 + y.toNat * 256 := by
      simp [octetNumber, octetAt]
    have xSmall := x.toNat_lt
    have ySmall := y.toNat_lt
    simp only [List.length_cons, List.length_nil, num]
    rw [if_neg (by omega), octet x _ (by omega), octet y _ (by omega)]
    rfl
  · obtain rfl : rest = [] := by
      cases rest with
      | nil => rfl
      | cons => exact absurd short (by simp only [List.length_cons]; omega)
    have num : octetNumber [x, y, z] = x.toNat * 65536 + (y.toNat * 256 + z.toNat) := by
      simp [octetNumber, octetAt]
    have xSmall := x.toNat_lt
    have ySmall := y.toNat_lt
    have zSmall := z.toNat_lt
    simp only [List.length_cons, List.length_nil, num]
    rw [if_neg (by omega), octet x _ (by omega), octet y _ (by omega), octet z _ (by omega)]
    rfl

theorem sextet_eq_zero (small : index < 4) (past : octets.length < index) :
    sextet (octetNumber octets) index = 0 := by
  have third : octetAt octets 2 = 0 := octetAt_of_length_le (by omega)
  obtain rfl | shorter : index = 3 ∨ index < 3 := by omega
  · simp only [sextet, octetNumber, third, UInt8.toNat_zero]
    omega
  · have second : octetAt octets 1 = 0 := octetAt_of_length_le (by omega)
    obtain rfl | shortest : index = 2 ∨ index < 2 := by omega
    · simp only [sextet, octetNumber, second, third, UInt8.toNat_zero]
      omega
    · have first : octetAt octets 0 = 0 := octetAt_of_length_le (by omega)
      simp [sextet, octetNumber, first, second, third]

theorem character_of_quantumValue {character : UInt8} (few : padding ≤ 2)
    (length : octets.length = 3 - padding)
    (found : quantumValue 4 padding index character = some (sextet (octetNumber octets) index)) :
    quantumCharacter octets index = character := by
  unfold quantumCharacter
  by_cases inside : index ≤ octets.length
  · rw [quantumValue_of_lt _ (by omega)] at found
    rw [if_pos inside, (alphabet_base64Value _ _ found).2]
  · rw [quantumValue_of_ge _ (by omega)] at found
    rw [if_neg inside]
    split at found
    · rename_i padded
      exact padded.symm
    · cases found

theorem encodeQuantum_decoded (few : padding ≤ 2)
    (decoded : decodeQuantum [first, second, third, fourth] padding = some octets) :
    encodeQuantum octets = [first, second, third, fourth] := by
  obtain ⟨length, bits⟩ := decodeQuantum_some few decoded
  obtain ⟨a, b, c, d, firstValue, secondValue, thirdValue, fourthValue, num⟩ :=
    quantumBits_eq_some.mp bits
  have firstSmall := quantumValue_lt firstValue
  have secondSmall := quantumValue_lt secondValue
  have thirdSmall := quantumValue_lt thirdValue
  have fourthSmall := quantumValue_lt fourthValue
  have digits : a = sextet (octetNumber octets) 0 ∧ b = sextet (octetNumber octets) 1 ∧
      c = sextet (octetNumber octets) 2 ∧ d = sextet (octetNumber octets) 3 := by
    simp only [← num, sextet, sextetNumber]
    omega
  obtain ⟨rfl, rfl, rfl, rfl⟩ := digits
  rw [encodeQuantum_eq, ← character_of_quantumValue few length firstValue,
    ← character_of_quantumValue few length secondValue,
    ← character_of_quantumValue few length thirdValue,
    ← character_of_quantumValue few length fourthValue]
  rfl

/-! ## Whole texts -/

theorem encodeQuantum_length (octets : Octets) : (encodeQuantum octets).length = 4 := by
  simp [encodeQuantum_eq]

theorem base64Encode_quantum (nonempty : octets ≠ []) (short : octets.length ≤ 3) :
    base64Encode octets = encodeQuantum octets := by
  obtain _ | ⟨x, _ | ⟨y, _ | ⟨z, _ | ⟨more, rest⟩⟩⟩⟩ := octets
  · exact absurd rfl nonempty
  · rfl
  · rfl
  · exact List.append_nil _
  · exact absurd short (by simp only [List.length_cons]; omega)

theorem base64Encode_append (three : octets.length = 3) (more : Octets) :
    base64Encode (octets ++ more) = encodeQuantum octets ++ base64Encode more := by
  obtain _ | ⟨x, _ | ⟨y, _ | ⟨z, _ | ⟨more, rest⟩⟩⟩⟩ := octets
  · cases three
  · cases three
  · cases three
  · rfl
  · exact absurd three (by simp only [List.length_cons]; omega)

/-- Induction over octets as a text carries them: none, a last quantum of up to three, or three ahead
of more. -/
theorem quanta_induction {P : Octets → Prop} (empty : P [])
    (last : ∀ octets, octets ≠ [] → octets.length ≤ 3 → P octets)
    (more : ∀ first rest, first.length = 3 → rest ≠ [] → P rest → P (first ++ rest))
    (octets : Octets) : P octets := by
  induction size : octets.length using Nat.strong_induction_on generalizing octets with
  | _ length ih =>
    by_cases nonempty : octets = []
    · exact nonempty ▸ empty
    by_cases short : octets.length ≤ 3
    · exact last octets nonempty short
    · have restLength : (octets.drop 3).length = octets.length - 3 := List.length_drop
      have restNonempty : octets.drop 3 ≠ [] := by
        intro none
        rw [none, List.length_nil] at restLength
        omega
      rw [← List.take_append_drop 3 octets]
      apply more _ _ (by rw [List.length_take]; omega) restNonempty
      exact ih _ (by omega) _ restLength

theorem base64Encode_eq_nil : base64Encode octets = [] ↔ octets = [] := by
  have quantum (octets rest : Octets) : encodeQuantum octets ++ rest ≠ [] := by
    intro none
    have size := congrArg List.length none
    simp [encodeQuantum_length] at size
  induction octets using quanta_induction with
  | empty => simp [base64Encode]
  | last octets nonempty short =>
    rw [base64Encode_quantum nonempty short, ← List.append_nil (encodeQuantum octets)]
    exact iff_of_false (quantum octets []) nonempty
  | more first rest three nonempty ih =>
    rw [base64Encode_append three]
    exact iff_of_false (quantum first _) (by simp [nonempty])

theorem base64Encode_length (octets : Octets) :
    (base64Encode octets).length = (octets.length + 2) / 3 * 4 := by
  induction octets using quanta_induction with
  | empty => rfl
  | last octets nonempty short =>
    have positive : 0 < octets.length := List.length_pos_iff.mpr nonempty
    rw [base64Encode_quantum nonempty short, encodeQuantum_length]
    omega
  | more first rest three nonempty ih =>
    rw [base64Encode_append three, List.length_append, List.length_append, encodeQuantum_length]
    omega

def paddingOf (octets : Octets) : Nat := (3 - octets.length % 3) % 3

theorem decodeQuanta_append {quantum rest more : Octets} (four : quantum.length = 4)
    (decoded : decodeQuantum quantum (if rest = [] then padding else 0) = some octets)
    (others : decodeQuanta padding rest = .ok more) :
    decodeQuanta padding (quantum ++ rest) = .ok (octets ++ more) := by
  obtain ⟨first, second, third, fourth, rfl⟩ := List.length_eq_four.mp four
  simp only [List.cons_append, List.nil_append, decodeQuanta, decoded, others]

theorem decodeQuantum_encodeQuantum (nonempty : octets ≠ []) (short : octets.length ≤ 3) :
    decodeQuantum (encodeQuantum octets) (3 - octets.length) = some octets := by
  rw [encodeQuantum_eq]
  refine decodeQuantum_of_bits nonempty short ?_
  have val (index : Nat) (small : index < 4) :
      quantumValue 4 (3 - octets.length) index (quantumCharacter octets index) =
        some (sextet (octetNumber octets) index) := by
    unfold quantumCharacter
    by_cases inside : index ≤ octets.length
    · rw [if_pos inside, quantumValue_of_lt _ (by omega)]
      exact (base64Value_alphabet _ (Nat.mod_lt _ (by decide))).1
    · rw [if_neg inside, quantumValue_of_ge _ (by omega), if_pos rfl,
        sextet_eq_zero small (by omega)]
  have small : octetNumber octets < 16777216 := by
    have first := (octetAt octets 0).toNat_lt
    have second := (octetAt octets 1).toNat_lt
    have third := (octetAt octets 2).toNat_lt
    simp only [octetNumber]
    omega
  refine quantumBits_eq_some.mpr ⟨_, _, _, _, val 0 (by decide), val 1 (by decide),
    val 2 (by decide), val 3 (by decide), ?_⟩
  simp only [sextetNumber, sextet]
  omega

theorem decodeQuanta_base64Encode (octets : Octets) :
    decodeQuanta (paddingOf octets) (base64Encode octets) = .ok octets := by
  induction octets using quanta_induction with
  | empty => rfl
  | last octets nonempty short =>
    have positive : 0 < octets.length := List.length_pos_iff.mpr nonempty
    have padding : paddingOf octets = 3 - octets.length := by
      simp only [paddingOf]
      omega
    have decoded : decodeQuanta (3 - octets.length) (encodeQuantum octets ++ []) =
        .ok (octets ++ []) :=
      decodeQuanta_append (encodeQuantum_length octets)
        (decodeQuantum_encodeQuantum nonempty short) rfl
    rwa [List.append_nil, List.append_nil, ← base64Encode_quantum nonempty short, ← padding]
      at decoded
  | more first rest three nonempty ih =>
    have padding : paddingOf (first ++ rest) = paddingOf rest := by
      simp only [paddingOf, List.length_append, three]
      omega
    have quantum : decodeQuantum (encodeQuantum first) 0 = some first := by
      have decoded : decodeQuantum (encodeQuantum first) (3 - first.length) = some first :=
        decodeQuantum_encodeQuantum (by rintro rfl; cases three) (by omega)
      rwa [three] at decoded
    rw [base64Encode_append three, padding]
    apply decodeQuanta_append (encodeQuantum_length first) _ ih
    rw [if_neg (fun none => nonempty (base64Encode_eq_nil.mp none))]
    exact quantum

theorem suffix_append_iff {ending before text : Octets} (short : ending.length ≤ text.length) :
    ending <:+ before ++ text ↔ ending <:+ text := by
  constructor
  · intro suffix
    exact List.suffix_of_suffix_length_le suffix (List.suffix_append before text) short
  · intro suffix
    exact suffix.trans (List.suffix_append before text)

theorem suffix_iff_of_length {ending text : Octets} (length : ending.length = text.length) :
    ending <:+ text ↔ text = ending := by
  constructor
  · intro suffix
    exact (suffix.eq_of_length length).symm
  · rintro rfl
    exact List.suffix_refl _

theorem quantumCharacter_eq_pad :
    quantumCharacter octets index = base64Pad ↔ octets.length < index := by
  unfold quantumCharacter
  split
  · rename_i inside
    refine iff_of_false ?_ (by omega)
    exact (base64Value_alphabet _ (Nat.mod_lt _ (by decide))).2
  · rename_i past
    exact iff_of_true rfl (by omega)

theorem pad_suffix_encodeQuantum (octets : Octets) :
    ([base64Pad, base64Pad] <:+ encodeQuantum octets ↔ octets.length < 2) ∧
      ([base64Pad] <:+ encodeQuantum octets ↔ octets.length < 3) := by
  have quantum : encodeQuantum octets = [quantumCharacter octets 0, quantumCharacter octets 1] ++
      [quantumCharacter octets 2, quantumCharacter octets 3] := encodeQuantum_eq octets
  have last : encodeQuantum octets = [quantumCharacter octets 0, quantumCharacter octets 1,
      quantumCharacter octets 2] ++ [quantumCharacter octets 3] := encodeQuantum_eq octets
  constructor
  · rw [quantum, suffix_append_iff (by simp), suffix_iff_of_length (by simp)]
    simp only [List.cons.injEq, quantumCharacter_eq_pad, and_true]
    omega
  · rw [last, suffix_append_iff (by simp), suffix_iff_of_length (by simp)]
    simp only [List.cons.injEq, quantumCharacter_eq_pad, and_true]

theorem pad_suffix_base64Encode (octets : Octets) (nonempty : octets ≠ []) :
    ([base64Pad, base64Pad] <:+ base64Encode octets ↔ paddingOf octets = 2) ∧
      ([base64Pad] <:+ base64Encode octets ↔ paddingOf octets ≠ 0) := by
  induction octets using quanta_induction with
  | empty => exact absurd rfl nonempty
  | last octets _ short =>
    have positive : 0 < octets.length := List.length_pos_iff.mpr nonempty
    obtain ⟨two, one⟩ := pad_suffix_encodeQuantum octets
    rw [base64Encode_quantum nonempty short, two, one, paddingOf]
    omega
  | more first rest three restNonempty ih =>
    have padding : paddingOf (first ++ rest) = paddingOf rest := by
      simp only [paddingOf, List.length_append, three]
      omega
    have size : 4 ≤ (base64Encode rest).length := by
      have multiple := base64Encode_length rest
      have positive := List.length_pos_iff.mpr (mt base64Encode_eq_nil.mp restNonempty)
      omega
    rw [base64Encode_append three, padding,
      suffix_append_iff (by simp only [List.length_cons, List.length_nil]; omega),
      suffix_append_iff (by simp only [List.length_cons, List.length_nil]; omega)]
    exact ih restNonempty

theorem base64Decode_base64Encode (nonempty : octets ≠ []) :
    base64Decode (base64Encode octets) = .ok octets := by
  have whole : ¬ (base64Encode octets = [] ∨ (base64Encode octets).length % 4 ≠ 0) := by
    rw [base64Encode_eq_nil, base64Encode_length]
    simp [nonempty]
  obtain ⟨two, one⟩ := pad_suffix_base64Encode octets nonempty
  have padding : (if [base64Pad, base64Pad] <:+ base64Encode octets then 2
      else if [base64Pad] <:+ base64Encode octets then 1 else 0) = paddingOf octets := by
    have few : paddingOf octets < 3 := Nat.mod_lt _ (by decide)
    simp only [two, one]
    split
    · omega
    · split <;> omega
  unfold base64Decode
  rw [if_neg whole]
  rw [padding, decodeQuanta_base64Encode]

/-! ## From a text and back -/

theorem base64Encode_decodeQuanta (few : padding ≤ 2) (text octets : Octets)
    (whole : text.length % 4 = 0) (decoded : decodeQuanta padding text = .ok octets) :
    base64Encode octets = text := by
  fun_induction decodeQuanta padding text generalizing octets with
  | case1 first second third fourth rest failed
  | case2 first second third fourth rest quantum found why failed ih => cases decoded
  | case3 first second third fourth rest quantum found more others ih =>
    cases decoded
    have restWhole : rest.length % 4 = 0 := by
      simp only [List.length_cons] at whole
      omega
    have restText := ih more restWhole others
    by_cases last : rest = []
    · subst last
      obtain rfl : more = [] := base64Encode_eq_nil.mp restText
      obtain ⟨length, -⟩ := decodeQuantum_some few found
      have nonempty : quantum ≠ [] := by
        intro none
        rw [none, List.length_nil] at length
        omega
      rw [List.append_nil, base64Encode_quantum nonempty (by omega),
        encodeQuantum_decoded few found]
    · rw [if_neg last] at found
      obtain ⟨length, -⟩ := decodeQuantum_some (by decide) found
      rw [base64Encode_append length, encodeQuantum_decoded (by decide) found, restText]
      rfl
  | case4 text short =>
    cases decoded
    obtain _ | ⟨a, _ | ⟨b, _ | ⟨c, _ | ⟨d, rest⟩⟩⟩⟩ := text
    · rfl
    · cases whole
    · cases whole
    · cases whole
    · exact (short a b c d rest rfl).elim

/-- Base64 is a bijection between the octet strings that are not empty and the texts that decode. -/
theorem base64_bijection :
    (∀ octets : Octets, octets ≠ [] → base64Decode (base64Encode octets) = .ok octets) ∧
    (∀ text octets : Octets, base64Decode text = .ok octets →
      octets ≠ [] ∧ base64Encode octets = text) := by
  refine ⟨fun octets => base64Decode_base64Encode, ?_⟩
  intro text octets decoded
  unfold base64Decode at decoded
  split at decoded
  · cases decoded
  rename_i whole
  rw [not_or, ne_eq, Decidable.not_not] at whole
  have encoded : base64Encode octets = text := by
    refine base64Encode_decodeQuanta ?_ text octets whole.2 decoded
    split
    · decide
    · split <;> decide
  refine ⟨?_, encoded⟩
  rintro rfl
  exact whole.1 encoded.symm

/-- Four octets are two quanta, the second with two characters of padding. -/
theorem base64_fourOctets :
    base64Decode (base64Encode [0x00, 0xFF, 0x10, 0x20]) = .ok [0x00, 0xFF, 0x10, 0x20] ∧
      base64Encode [0x00, 0xFF, 0x10, 0x20] = ascii "AP8QIA==" :=
  ⟨base64_bijection.1 _ (by decide), (base64_bijection.2 _ _ (by decide +kernel)).2⟩

end KmxAio.Knx.Keyring
