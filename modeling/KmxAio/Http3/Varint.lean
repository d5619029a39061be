import KmxAio.Lib.Wire

/-!
# Variable-length integers

The two high bits of the first octet say how long the encoding is (1, 2, 4 or 8
octets), the other bits are the value, big-endian. Values are 64-bit numbers, but an
encoding has room for 62 bits: the encoder drops the two high bits of a larger
value.
-/

namespace KmxAio.Http3

open Lib.Wire

/-- How the codecs fail: `EINVAL` of the integer decoder, and the protocol's error codes. -/
inductive Failure where
  | invalidArgument
  | streamCreationError
  | frameUnexpected
  | frameError
  | idError
  | settingsError
  | missingSettings
  deriving DecidableEq

/-! ## The codec -/

variable (val : UInt64)

def varintSize : Nat :=
  if val ≤ 63 then 1
  else if val ≤ 16383 then 2
  else if val ≤ 1073741823 then 4
  else 8

def firstOctet (tag val shift : UInt64) : UInt8 := (tag ||| ((val >>> shift) &&& 0x3F)).toUInt8

def lowOctet (val shift : UInt64) : UInt8 := ((val >>> shift) &&& 0xFF).toUInt8

def encodeVarint : Octets :=
  if val ≤ 63 then [val.toUInt8]
  else if val ≤ 16383 then [firstOctet 0x40 val 8, lowOctet val 0]
  else if val ≤ 1073741823 then
    [firstOctet 0x80 val 24, lowOctet val 16, lowOctet val 8, lowOctet val 0]
  else
    [firstOctet 0xC0 val 56, lowOctet val 48, lowOctet val 40, lowOctet val 32,
      lowOctet val 24, lowOctet val 16, lowOctet val 8, lowOctet val 0]

def shiftIn (octet : UInt8) : UInt64 := (val <<< 8) ||| octet.toUInt64

def decodeVarint (payload : Octets) (offset : Nat) : Except Failure (UInt64 × Nat) :=
  if payload.length ≤ offset then .error .invalidArgument
  else
    let first := octetAt payload offset
    let length := 1 <<< (first >>> 6).toNat
    if payload.length < offset + length then .error .invalidArgument
    else
      -- the octets behind the first one, each below those before it
      .ok (((payload.drop (offset + 1)).take (length - 1)).foldl shiftIn (first &&& 0x3F).toUInt64,
        length)

def limit : Nat := 0x4000000000000000

def truncated : UInt64 := UInt64.ofNat (val.toNat % limit)

theorem truncated_toNat : (truncated val).toNat = val.toNat % limit := by
  rw [truncated, UInt64.toNat_ofNat', limit]
  omega

theorem truncated_eq_iff : truncated val = val ↔ val.toNat < limit := by
  rw [← UInt64.toNat_inj, truncated_toNat, limit]
  omega

/-! ## The octets of an encoding -/

theorem lowOctet_eq (shift : UInt64) (small : shift.toNat < 64) :
    lowOctet val shift = UInt8.ofNat (val.toNat / 2 ^ shift.toNat) := by
  have mask : ∀ num : Nat, num &&& 255 = num % 256 := fun num =>
    Nat.and_two_pow_sub_one_eq_mod num 8
  apply UInt8.toNat_inj.mp
  simp [lowOctet, Nat.mod_eq_of_lt small, Nat.shiftRight_eq_div_pow, mask]

theorem firstOctet_toNat {tag : UInt64} (kind : Nat) (tagged : tag.toNat = 64 * kind)
    (small : kind < 4) (val shift : UInt64) (shifted : shift.toNat < 64) :
    (firstOctet tag val shift).toNat = 64 * kind + val.toNat / 2 ^ shift.toNat % 64 := by
  have mask : ∀ num : Nat, num &&& 63 = num % 64 := fun num =>
    Nat.and_two_pow_sub_one_eq_mod num 6
  have join := Nat.two_pow_add_eq_or_of_lt (Nat.mod_lt (val.toNat / 2 ^ shift.toNat)
    (by decide : 0 < 2 ^ 6)) kind
  have fits : 64 * kind % 256 = 64 * kind := Nat.mod_eq_of_lt (by omega)
  simp [firstOctet, Nat.mod_eq_of_lt shifted, Nat.shiftRight_eq_div_pow, mask, tagged, fits, ← join]

/-- What an encoding is: a first octet with the length tag and the high bits, and the other octets of
the value, where the length leaves room for the part of the value that is encoded. -/
structure Shape (value : UInt64) (kind : Nat) (first : UInt8) : Prop where
  kind_lt : kind < 4
  size_eq : varintSize value = 2 ^ kind
  octets_eq : encodeVarint value = first :: toBigEndian (2 ^ kind - 1) value.toNat
  first_eq : first.toNat = 64 * kind + value.toNat / 256 ^ (2 ^ kind - 1) % 64
  fits : value.toNat % limit < 64 * 256 ^ (2 ^ kind - 1)

theorem exists_shape : ∃ kind first, Shape val kind first := by
  by_cases one : val ≤ 63
  · have small : val.toNat ≤ 63 := one
    refine ⟨0, val.toUInt8, by decide, ?_, ?_, ?_, ?_⟩
    · simp [varintSize, one]
    · simp [encodeVarint, one, toBigEndian]
    · simp
      omega
    · simp [limit]
      omega
  by_cases two : val ≤ 16383
  · have small : val.toNat ≤ 16383 := two
    refine ⟨1, firstOctet 0x40 val 8, by decide, ?_, ?_, ?_, ?_⟩
    · simp [varintSize, one, two]
    · simp [encodeVarint, one, two, toBigEndian, lowOctet_eq]
    · rw [firstOctet_toNat 1 rfl (by decide) val 8 (by decide)]
      rfl
    · simp [limit]
      omega
  by_cases four : val ≤ 1073741823
  · have small : val.toNat ≤ 1073741823 := four
    refine ⟨2, firstOctet 0x80 val 24, by decide, ?_, ?_, ?_, ?_⟩
    · simp [varintSize, one, two, four]
    · simp [encodeVarint, one, two, four, toBigEndian, lowOctet_eq, Nat.div_div_eq_div_mul]
    · rw [firstOctet_toNat 2 rfl (by decide) val 24 (by decide)]
      rfl
    · simp [limit]
      omega
  · refine ⟨3, firstOctet 0xC0 val 56, by decide, ?_, ?_, ?_, ?_⟩
    · simp [varintSize, one, two, four]
    · simp [encodeVarint, one, two, four, toBigEndian, lowOctet_eq, Nat.div_div_eq_div_mul]
    · rw [firstOctet_toNat 3 rfl (by decide) val 56 (by decide)]
      rfl
    · exact Nat.mod_lt _ (by decide)

theorem encodeVarint_length : (encodeVarint val).length = varintSize val := by
  obtain ⟨kind, first, shape⟩ := exists_shape val
  have positive := Nat.two_pow_pos kind
  rw [shape.octets_eq, shape.size_eq, List.length_cons, toBigEndian_length]
  omega

theorem varintSize_pos : 0 < varintSize val := by
  obtain ⟨kind, first, shape⟩ := exists_shape val
  exact shape.size_eq ▸ Nat.two_pow_pos kind

theorem varintSize_le : varintSize val ≤ 8 := by
  obtain ⟨kind, first, shape⟩ := exists_shape val
  rw [shape.size_eq]
  exact Nat.pow_le_pow_right (by decide) (Nat.le_of_lt_succ shape.kind_lt)

/-! ## Decoding -/

variable {val}

theorem shiftIn_toNat (octet : UInt8) (room : val.toNat < 0x100000000000000) :
    (shiftIn val octet).toNat = val.toNat * 256 + octet.toNat := by
  have join := Nat.two_pow_add_eq_or_of_lt (octet.toNat_lt : octet.toNat < 2 ^ 8) val.toNat
  have fits : val.toNat <<< 8 % UInt64.size = 256 * val.toNat := by
    rw [Nat.shiftLeft_eq, Nat.mod_eq_of_lt] <;> simp [UInt64.size] <;> omega
  simp [shiftIn, fits] at join ⊢
  omega

theorem foldl_shiftIn_toBigEndian {width : Nat} {high : UInt64} (num : Nat)
    (room : (high.toNat + 1) * 256 ^ width ≤ UInt64.size) :
    ((toBigEndian width num).foldl shiftIn high).toNat =
      high.toNat * 256 ^ width + num % 256 ^ width := by
  induction width generalizing num with
  | zero => simp [toBigEndian, Nat.mod_one]
  | succ width ih =>
    rw [pow_succ, ← Nat.mul_assoc, Nat.succ_mul] at room
    simp only [UInt64.size] at room ih
    have above := ih (num / 256) (by rw [Nat.succ_mul]; omega)
    have last : (UInt8.ofNat num).toNat = num % 256 := by simp
    rw [toBigEndian, List.foldl_append, List.foldl_cons, List.foldl_nil,
      shiftIn_toNat _ (by omega), above, last, pow_succ, Nat.mul_comm (256 ^ width) 256,
      Nat.mod_mul, ← Nat.mul_assoc, Nat.mul_right_comm]
    omega

theorem Shape.room {kind : Nat} {first : UInt8} (shape : Shape val kind first) :
    (first.toNat % 64 + 1) * 256 ^ (2 ^ kind - 1) ≤ UInt64.size := by
  have small : first.toNat % 64 + 1 ≤ 64 := Nat.mod_lt _ (by decide)
  have seven : 2 ^ kind - 1 ≤ 7 := by
    have := Nat.pow_le_pow_right (by decide : 0 < 2) (Nat.le_of_lt_succ shape.kind_lt)
    omega
  calc (first.toNat % 64 + 1) * 256 ^ (2 ^ kind - 1)
      ≤ 64 * 256 ^ 7 := Nat.mul_le_mul small (Nat.pow_le_pow_right (by decide) seven)
    _ ≤ UInt64.size := by decide

/-- The decoder reads an encoding where it stands, up to the bits the encoder has dropped. -/
theorem decodeVarint_encodeVarint (val : UInt64) (before after : Octets) :
    decodeVarint (before ++ (encodeVarint val ++ after)) before.length =
      .ok (truncated val, (encodeVarint val).length) := by
  obtain ⟨kind, first, shape⟩ := exists_shape val
  have positive := Nat.two_pow_pos kind
  have lengthEq : (encodeVarint val).length = 2 ^ kind := by
    rw [encodeVarint_length, shape.size_eq]
  have firstAt : octetAt (before ++ (encodeVarint val ++ after)) before.length = first := by
    rw [octetAt_append_right _ _ (Nat.le_refl _), Nat.sub_self, shape.octets_eq]
    rfl
  have tag : (first >>> 6).toNat = kind := by
    have first_eq := shape.first_eq
    simp [Nat.shiftRight_eq_div_pow]
    omega
  have high : (first &&& 0x3F).toUInt64.toNat = first.toNat % 64 := by
    exact Nat.and_two_pow_sub_one_eq_mod first.toNat 6
  have rest : ((before ++ (encodeVarint val ++ after)).drop (before.length + 1)).take
      (2 ^ kind - 1) = toBigEndian (2 ^ kind - 1) val.toNat := by
    rw [List.drop_append, List.drop_eq_nil_of_le (by omega), shape.octets_eq]
    simp
  rw [decodeVarint, if_neg (by simp only [List.length_append]; omega)]
  dsimp only
  rw [firstAt, tag, Nat.one_shiftLeft, if_neg (by simp only [List.length_append]; omega), rest,
    lengthEq]
  congr 2
  apply UInt64.toNat_inj.mp
  have valueEq : first.toNat % 64 * 256 ^ (2 ^ kind - 1) + val.toNat % 256 ^ (2 ^ kind - 1) =
      val.toNat % limit := by
    obtain ⟨kind_lt, _, _, first_eq, fits⟩ := shape
    obtain rfl | rfl | rfl | rfl : kind = 0 ∨ kind = 1 ∨ kind = 2 ∨ kind = 3 := by omega
    all_goals
      simp only [limit, Nat.reducePow, Nat.reduceSub] at fits ⊢
      omega
  rw [foldl_shiftIn_toBigEndian _ (high ▸ shape.room), high, valueEq, truncated_toNat]

theorem decodeVarint_bounds {payload : Octets} {offset length : Nat}
    (decoded : decodeVarint payload offset = .ok (val, length)) :
    0 < length ∧ offset + length ≤ payload.length := by
  unfold decodeVarint at decoded
  split at decoded
  · cases decoded
  dsimp only at decoded
  split at decoded
  · cases decoded
  cases decoded
  rw [Nat.one_shiftLeft] at *
  exact ⟨Nat.two_pow_pos _, by omega⟩

end KmxAio.Http3
