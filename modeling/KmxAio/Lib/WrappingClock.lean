import Mathlib.Algebra.Group.Nat.Even
import Mathlib.Tactic.Ring

/-!
# Deadlines on a clock that wraps

A 32-bit clock shows true time modulo `2 ^ 32`, and a deadline is kept as the
clock will show it. Whether it lies ahead is read off the signed difference,
which is right as long as deadline and time are less than half a turn apart.
The time that has passed is compared with a limit in the same way, and there the
limit has to be below half a turn too: a longer one is read as a negative number.
-/

namespace KmxAio.Lib.WrappingClock

/-- What the clock shows at a true time. -/
def shown (trueTime : Nat) : UInt32 := UInt32.ofNat trueTime

/-- Whether a deadline lies ahead, by the signed difference of what the clock shows. -/
def ahead (deadline now : UInt32) : Bool := decide (0 < (deadline - now).toInt32)

theorem shown_add (trueTime : Nat) (wait : UInt32) :
    shown trueTime + wait = shown (trueTime + wait.toNat) := by
  simp [shown]

theorem int32_pos_iff (val : UInt32) :
    0 < val.toInt32 ↔ 0 < val.toNat ∧ val.toNat < 2 ^ 31 := by
  rw [Int32.lt_iff_toInt_lt]
  show (0 : Int) < val.toBitVec.toInt ↔ 0 < val.toBitVec.toNat ∧ val.toBitVec.toNat < 2 ^ 31
  rw [BitVec.toInt_eq_toNat_cond]
  split <;> omega

theorem int32_nonneg_iff (val : UInt32) : 0 ≤ val.toInt32 ↔ val.toNat < 2 ^ 31 := by
  rw [Int32.le_iff_toInt_le]
  show (0 : Int) ≤ val.toBitVec.toInt ↔ val.toBitVec.toNat < 2 ^ 31
  rw [BitVec.toInt_eq_toNat_cond]
  split <;> omega

theorem ahead_iff (deadline now : Nat) :
    ahead (shown deadline) (shown now) = true ↔
      0 < ((deadline : Int) - now) % 2 ^ 32 ∧ ((deadline : Int) - now) % 2 ^ 32 < 2 ^ 31 := by
  have difference : ((shown deadline - shown now).toNat : Int) =
      ((deadline : Int) - now) % 2 ^ 32 := by
    rw [UInt32.toNat_sub]
    simp only [shown, UInt32.toNat_ofNat']
    omega
  rw [ahead, decide_eq_true_iff, int32_pos_iff, ← difference]
  omega

/-- A deadline less than half a turn in the future lies ahead. -/
theorem ahead_of_lt {deadline now : Nat} (future : now < deadline) (near : deadline < now + 2 ^ 31) :
    ahead (shown deadline) (shown now) = true := by
  rw [ahead_iff]
  omega

/-- A deadline in the past does not lie ahead, up to half a turn, and again after every whole one. -/
theorem not_ahead_of_le {deadline now : Nat} (past : deadline ≤ now)
    (near : (now - deadline) % 2 ^ 32 ≤ 2 ^ 31) : ahead (shown deadline) (shown now) = false := by
  rw [← Bool.not_eq_true, ahead_iff]
  omega

theorem toInt32_le_iff (limit val : UInt32) (small : val.toNat < 2 ^ 31) :
    limit.toInt32 ≤ val.toInt32 ↔ limit.toNat ≤ val.toNat ∨ 2 ^ 31 ≤ limit.toNat := by
  rw [Int32.le_iff_toInt_le]
  show limit.toBitVec.toInt ≤ val.toBitVec.toInt ↔
    limit.toBitVec.toNat ≤ val.toBitVec.toNat ∨ 2 ^ 31 ≤ limit.toBitVec.toNat
  have below : val.toBitVec.toNat < 2 ^ 31 := small
  rw [BitVec.toInt_eq_toNat_cond, BitVec.toInt_eq_toNat_cond]
  split <;> split <;> omega

theorem shown_sub_toNat {since now : Nat} (past : since ≤ now) (near : now - since < 2 ^ 31) :
    (shown now - shown since).toNat = now - since := by
  rw [UInt32.toNat_sub]
  simp only [shown, UInt32.toNat_ofNat']
  omega

/-- A limit the time passed is compared with is met when it is, and always when it is half a turn or
more. -/
theorem passed_iff {since now : Nat} (past : since ≤ now) (near : now - since < 2 ^ 31)
    (limit : UInt32) :
    limit.toInt32 ≤ (shown now - shown since).toInt32 ↔
      limit.toNat ≤ now - since ∨ 2 ^ 31 ≤ limit.toNat := by
  have elapsed := shown_sub_toNat past near
  rw [toInt32_le_iff _ _ (by rw [elapsed]; exact near), elapsed]

/-- What happens when the comparison says so happens when the limit is met, exactly for a limit below
half a turn. -/
theorem exact_iff_short {happens : Prop} {limit passed : Nat} (near : passed < 2 ^ 31)
    (compared : happens ↔ limit ≤ passed ∨ 2 ^ 31 ≤ limit) :
    (happens ↔ limit ≤ passed) ↔ limit < 2 ^ 31 := by
  rw [compared]
  omega

end KmxAio.Lib.WrappingClock
