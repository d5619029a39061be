import Mathlib.Data.Int.Basic

/-!
# The clock servo

The first measurement steps the clock when it is off by more than a millisecond; each later one
adjusts its frequency. The quotient and the remainder of the step are rounded toward zero, so a
step back has a remainder below zero unless it is a number of whole seconds.
-/

namespace KmxAio.Avb

def nanosecondsPerSecond : Int := 1000000000

/-- What the kernel is asked for: a step in seconds and nanoseconds, or a frequency. -/
inductive ClockAdjustment where
  | setOffset (tvSec tvUsec : Int)
  | frequency (freq : Int64)
  deriving DecidableEq

structure PiServo where
  initialized : Bool := false
  synced : Bool := false
  integral : Float := 0
  lastOffset : Int := 0

namespace PiServo

def kp : Float := 0.7
def ki : Float := 0.3
def initialStepThresholdNs : Int := 1000000
def frequencyAdjustScale : Float := 65.536
def syncLockThresholdNs : Int := 1000

def stepClock (deltaNs : Int) : ClockAdjustment :=
  .setOffset (deltaNs.tdiv nanosecondsPerSecond) (deltaNs.tmod nanosecondsPerSecond)

def update (servo : PiServo) (offsetNs pathDelayNs : Int) : PiServo × Option ClockAdjustment :=
  let corrected := offsetNs - pathDelayNs
  if servo.initialized = false then
    ({ servo with initialized := true, integral := 0, lastOffset := corrected },
      if initialStepThresholdNs < corrected ∨ corrected < -initialStepThresholdNs then
        some (stepClock (-corrected))
      else none)
  else
    let integral := servo.integral + Float.ofInt corrected * ki
    let adjNsPerS := Float.ofInt corrected * kp + integral
    ({ servo with
        integral := integral
        lastOffset := corrected
        synced := -syncLockThresholdNs < corrected ∧ corrected < syncLockThresholdNs },
      some (.frequency (adjNsPerS * frequencyAdjustScale).toInt64))

theorem tmod_nonneg_iff (delta : Int) :
    0 ≤ delta.tmod nanosecondsPerSecond ↔ 0 ≤ delta ∨ nanosecondsPerSecond ∣ delta := by
  constructor
  · intro nonneg
    by_contra neither
    rw [not_or, Int.not_le] at neither
    have opposite := Int.tmod_nonneg nanosecondsPerSecond (by omega : 0 ≤ -delta)
    rw [Int.neg_tmod] at opposite
    exact neither.2 (Int.dvd_of_tmod_eq_zero (by omega))
  · rintro (forward | whole)
    · exact Int.tmod_nonneg _ forward
    · exact Int.le_of_eq (Int.tmod_eq_zero_of_dvd whole).symm

/-- A step of the clock adds up to minus the corrected offset. It is one the kernel takes exactly if
the clock is not ahead, or is ahead by whole seconds. -/
theorem step_valid_iff (servo : PiServo) (offsetNs pathDelayNs tvSec tvUsec : Int)
    (steps : (servo.update offsetNs pathDelayNs).2 = some (.setOffset tvSec tvUsec)) :
    tvSec * nanosecondsPerSecond + tvUsec = -(offsetNs - pathDelayNs) ∧
      (0 ≤ tvUsec ∧ tvUsec < nanosecondsPerSecond ↔
        offsetNs - pathDelayNs ≤ 0 ∨ nanosecondsPerSecond ∣ offsetNs - pathDelayNs) := by
  unfold update at steps
  dsimp only at steps
  split at steps
  · dsimp only at steps
    split at steps
    · cases steps
      refine ⟨Int.tdiv_mul_add_tmod _ _, ?_⟩
      have below := Int.tmod_lt_of_pos (-(offsetNs - pathDelayNs))
        (by decide : 0 < nanosecondsPerSecond)
      rw [and_iff_left below, tmod_nonneg_iff, Int.neg_nonneg, Int.dvd_neg]
    · cases steps
  · cases steps

/-- The clock is behind. -/
theorem step_forward_valid :
    (update {} (-2500000000) 0).2 = some (.setOffset 2 500000000) ∧
      (0 ≤ (500000000 : Int) ∧ (500000000 : Int) < nanosecondsPerSecond) := by
  have steps : (update {} (-2500000000) 0).2 = some (.setOffset 2 500000000) := by decide
  exact ⟨steps, (step_valid_iff {} _ _ _ _ steps).2.mpr (.inl (by decide))⟩

/-- The clock is ahead. -/
theorem step_back_invalid :
    (update {} 2500000000 0).2 = some (.setOffset (-2) (-500000000)) ∧ ¬ 0 ≤ (-500000000 : Int) := by
  decide

end PiServo

end KmxAio.Avb
