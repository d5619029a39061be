import Mathlib.Data.Nat.Log
import Mathlib.Tactic.Ring

/-!
# The number of slots of a channel

The requested number of slots is rounded up to a power of two, so that an index is
wrapped by masking it. The rounding fills every bit below the highest one by doubling
shifts, and adds one.
-/

namespace KmxAio.Channel

def fillBits (n : UInt64) : UInt64 :=
  let n := n ||| (n >>> 1)
  let n := n ||| (n >>> 2)
  let n := n ||| (n >>> 4)
  let n := n ||| (n >>> 8)
  let n := n ||| (n >>> 16)
  n ||| (n >>> 32)

def nextPowerOfTwo (n : UInt64) : UInt64 := if n < 2 then 2 else fillBits (n - 1) + 1

/-! ## Filling the bits below the highest one -/

/-- A bit of the value is set when one of the `width` bits of the source from there on is. -/
def Smeared (source width val : Nat) : Prop :=
  ∀ spot, val.testBit spot = true ↔ ∃ distance < width, source.testBit (spot + distance) = true

theorem smeared_self (source : Nat) : Smeared source 1 source := by
  intro spot
  constructor
  · intro set
    exact ⟨0, Nat.one_pos, set⟩
  · rintro ⟨distance, below, set⟩
    obtain rfl : distance = 0 := by omega
    exact set

theorem Smeared.double {source width val : Nat} (smeared : Smeared source width val) :
    Smeared source (width + width) (val ||| val >>> width) := by
  intro spot
  rw [Nat.testBit_or, Nat.testBit_shiftRight, Bool.or_eq_true, smeared, smeared]
  constructor
  · rintro (⟨distance, below, set⟩ | ⟨distance, below, set⟩)
    · exact ⟨distance, by omega, set⟩
    · refine ⟨width + distance, by omega, ?_⟩
      rwa [show spot + (width + distance) = width + spot + distance by omega]
  · rintro ⟨distance, below, set⟩
    rcases Nat.lt_or_ge distance width with near | far
    · exact .inl ⟨distance, near, set⟩
    · refine .inr ⟨distance - width, by omega, ?_⟩
      rwa [show width + spot + (distance - width) = spot + distance by omega]

theorem Smeared.eq_two_pow {source width val : Nat} (smeared : Smeared source width val)
    (positive : source ≠ 0) (covers : source < 2 ^ width) : val + 1 = 2 ^ (source.log2 + 1) := by
  have small : source.log2 < width := (Nat.log2_lt positive).mpr covers
  have bits : val = 2 ^ (source.log2 + 1) - 1 := by
    apply Nat.eq_of_testBit_eq
    intro spot
    rw [Nat.testBit_two_pow_sub_one, Bool.eq_iff_iff, smeared, decide_eq_true_iff]
    constructor
    · rintro ⟨distance, _, set⟩
      have bound := Nat.ge_two_pow_of_testBit set
      have low : spot + distance ≤ source.log2 := (Nat.le_log2 positive).mpr bound
      omega
    · intro below
      refine ⟨source.log2 - spot, by omega, ?_⟩
      rw [show spot + (source.log2 - spot) = source.log2 by omega]
      exact Nat.testBit_log2 positive
  rw [bits]
  exact Nat.sub_add_cancel (Nat.one_le_two_pow)

theorem fillBits_smeared (n : UInt64) : Smeared n.toNat 64 (fillBits n).toNat := by
  have one := (smeared_self n.toNat).double
  have two := one.double
  have four := two.double
  have eight := four.double
  have sixteen := eight.double
  have all := sixteen.double
  simpa [fillBits] using all

theorem fillBits_succ {n : UInt64} (positive : n.toNat ≠ 0) :
    (fillBits n).toNat + 1 = 2 ^ (n.toNat.log2 + 1) :=
  (fillBits_smeared n).eq_two_pow positive n.toNat_lt

/-- The capacity is a power of two, not below the request and at most `2 ^ 63`. -/
theorem nextPowerOfTwo_spec {n : UInt64} (bounded : n.toNat ≤ 2 ^ 63) :
    ∃ exponent, 0 < exponent ∧ exponent ≤ 63 ∧ (nextPowerOfTwo n).toNat = 2 ^ exponent ∧
      n.toNat ≤ (nextPowerOfTwo n).toNat := by
  rw [nextPowerOfTwo]
  by_cases small : n < 2
  · have below : n.toNat < 2 := small
    rw [if_pos small]
    exact ⟨1, by decide, by decide, rfl, Nat.le_of_lt below⟩
  · have atLeast : 2 ≤ n.toNat := UInt64.not_lt.mp small
    have source : (n - 1).toNat = n.toNat - 1 :=
      UInt64.toNat_sub_of_le n 1 (UInt64.le_iff_toNat_le.mpr (Nat.le_of_lt atLeast))
    have positive : (n - 1).toNat ≠ 0 := by omega
    have exponent : (n - 1).toNat.log2 < 63 := (Nat.log2_lt positive).mpr (by omega)
    have filled := fillBits_succ positive
    have bound : 2 ^ ((n - 1).toNat.log2 + 1) ≤ 2 ^ 63 := Nat.pow_le_pow_right (by decide) exponent
    have above : (n - 1).toNat < 2 ^ ((n - 1).toNat.log2 + 1) := Nat.lt_log2_self
    have val : (fillBits (n - 1) + 1).toNat = 2 ^ ((n - 1).toNat.log2 + 1) := by
      rw [UInt64.toNat_add, ← filled, Nat.mod_eq_of_lt]
      · rfl
      · simp
        omega
    rw [if_neg small]
    exact ⟨_, Nat.succ_pos _, exponent, val, by omega⟩

end KmxAio.Channel
