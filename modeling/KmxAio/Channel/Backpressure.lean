import KmxAio.Channel.Spsc

/-! Calls of `try_push` that nothing interrupts, against the high watermark. -/

namespace KmxAio.Channel

open Lib.Run

namespace SpscChannel

variable {α : Type} (channel : SpscChannel α)

def occupancy : UInt64 := (channel.head - channel.tail) &&& channel.mask

def producerCredits : UInt64 :=
  if channel.highWatermark ≤ channel.occupancy then 0
  else channel.highWatermark - channel.occupancy

def throttledNow : Bool :=
  computeThrottled channel.occupancy channel.lowWatermark channel.highWatermark channel.throttled

def canSend : Bool :=
  if channel.throttledNow then false else decide (channel.occupancy < channel.usableCapacity)

/-- The events of a whole call, which are no more than eight of the producer. -/
def pushEvents (val : α) : List (Event α) := .tryPush val :: List.replicate 8 .producer

/-- `try_push` returned true. -/
def accepts (val : α) : Prop := (run step channel (pushEvents val)).pushed ≠ channel.pushed

variable {channel}

/-- As many elements are queued as the ring takes. -/
theorem Holds.full_of_occupied (holds : channel.Holds)
    (occupied : channel.usableCapacity ≤ channel.occupancy) :
    (channel.head + 1) &&& channel.mask = channel.tail := by
  obtain ⟨exponent, -, power⟩ := holds.capacity_eq
  have positive : 0 < channel.capacity.toNat := power ▸ Nat.two_pow_pos exponent
  have usable : channel.usableCapacity.toNat = channel.capacity.toNat - 1 :=
    UInt64.toNat_sub_of_le _ _ (UInt64.le_iff_toNat_le.mpr positive)
  have last := holds.and_mask_toNat (channel.head - channel.tail)
  have below := Nat.mod_lt (channel.head - channel.tail).toNat positive
  have reached : channel.usableCapacity.toNat ≤
      ((channel.head - channel.tail) &&& channel.mask).toNat := occupied
  have divides : channel.capacity.toNat ∣ (channel.head - channel.tail).toNat + 1 := by
    refine ⟨(channel.head - channel.tail).toNat / channel.capacity.toNat + 1, ?_⟩
    have split := Nat.div_add_mod (channel.head - channel.tail).toNat channel.capacity.toNat
    rw [Nat.mul_succ]
    omega
  have head : channel.head.toNat =
      ((channel.head - channel.tail).toNat + channel.tail.toNat) % 2 ^ 64 := by
    rw [← UInt64.toNat_add, UInt64.sub_add_cancel]
  have index : channel.head.toNat = channel.head.toNat % channel.capacity.toNat := by
    rw [holds.head_eq, Nat.mod_mod]
  have tail : channel.tail.toNat % channel.capacity.toNat = channel.tail.toNat := by
    rw [holds.tail_eq, Nat.mod_mod]
  apply UInt64.toNat_inj.mp
  rw [holds.next_index index, head, Nat.add_mod, Nat.mod_mod_of_dvd _ holds.capacity_dvd,
    ← Nat.add_mod, Nat.add_right_comm, Nat.add_mod, Nat.mod_eq_zero_of_dvd divides, Nat.zero_add,
    Nat.mod_mod, tail]

theorem throttled_of_high (marks : channel.lowWatermark < channel.highWatermark)
    (high : channel.highWatermark ≤ channel.occupancy) : channel.throttledNow = true := by
  have above : ¬ channel.occupancy ≤ channel.lowWatermark :=
    UInt64.not_le.mpr (UInt64.lt_of_lt_of_le marks high)
  rw [throttledNow, computeThrottled, if_neg above, if_pos high]

theorem refused_of_throttled (idle : channel.producer = .idle) (val : α)
    (throttled : (channel.head + 1) &&& channel.mask ≠ channel.tail → channel.throttledNow = true) :
    ¬ channel.accepts val := by
  rw [accepts, not_not, pushEvents, run_cons, step, tryPush, idle]
  simp only [List.replicate, run_cons, run_nil]
  by_cases full : (channel.head + 1) &&& channel.mask = channel.tail
  · have first : step { channel with producer := .loadTail val channel.head } .producer =
        { channel with producer := .idle } := if_pos full
    rw [first]
    rfl
  · have first : step { channel with producer := .loadTail val channel.head } .producer =
        { channel with producer := .loadLow val channel.head channel.tail } := if_neg full
    let slot : PushSlot :=
      ⟨channel.head, channel.occupancy, channel.lowWatermark, channel.highWatermark⟩
    have loaded : step (step { channel with producer := .loadLow val channel.head channel.tail }
        .producer) .producer = { channel with producer := .loadThrottled val slot } := rfl
    have decided : step { channel with producer := .loadThrottled val slot } .producer =
        if true ≠ channel.throttled then
          { channel with producer := .storeThrottled val slot true }
        else { channel with producer := .idle } := by
      show (if channel.throttledNow ≠ channel.throttled then
          { channel with producer := .storeThrottled val slot channel.throttledNow }
        else { channel with producer := acquired val slot channel.throttledNow }) = _
      rw [throttled full]
      rfl
    rw [first, loaded, decided]
    split <;> rfl

end SpscChannel

open SpscChannel

/-- The channel is one that a run of its events leads to. -/
def Reached {α : Type} (channel : SpscChannel α) : Prop :=
  ∃ minCapacity events, minCapacity.toNat ≤ 2 ^ 63 ∧ channel = run step (create minCapacity) events

/-- Whatever has happened on a channel, while the watermarks in effect differ `try_push` succeeds only
below the high one, and without credits nothing can be sent; so too if the high watermark is the
usable capacity. -/
theorem high_watermark_bounds {α : Type} (channel : SpscChannel α) (idle : channel.producer = .idle)
    (marks : channel.lowWatermark < channel.highWatermark ∨
      Reached channel ∧ channel.highWatermark = channel.usableCapacity) (val : α) :
    (channel.accepts val → channel.occupancy < channel.highWatermark) ∧
      (channel.producerCredits = 0 → channel.canSend = false ∧ ¬ channel.accepts val) := by
  -- at the high watermark the throttle is up, or the ring is full
  have stopped : channel.highWatermark ≤ channel.occupancy →
      channel.canSend = false ∧ ¬ channel.accepts val := by
    intro high
    rcases marks with marks | ⟨⟨minCapacity, events, bounded, reached⟩, top⟩
    · have throttled := throttled_of_high marks high
      rw [canSend, if_pos throttled]
      exact ⟨rfl, refused_of_throttled idle val fun _ => throttled⟩
    · have holds : channel.Holds := reached ▸ (run_holds bounded events).1
      rw [top] at high
      refine ⟨?_, refused_of_throttled idle val (absurd (holds.full_of_occupied high))⟩
      rw [canSend, decide_eq_false (UInt64.not_lt.mpr high), ite_self]
  refine ⟨fun accepted => ?_, fun spent => stopped ?_⟩
  · by_contra high
    exact (stopped (UInt64.not_lt.mp high)).2 accepted
  · by_contra below
    have less : channel.occupancy.toNat < channel.highWatermark.toNat := UInt64.not_le.mp below
    have difference := UInt64.toNat_sub_of_le channel.highWatermark channel.occupancy
      (UInt64.le_of_lt less)
    rw [producerCredits, if_neg below] at spent
    rw [spent, UInt64.toNat_zero] at difference
    omega

/-- The channel after the watermarks are set and two elements are pushed. -/
def twoPushed (config : BackpressureConfig) : SpscChannel Nat :=
  run SpscChannel.step (SpscChannel.create 4)
    ([.setBackpressure 0 config, .setter 0, .setter 0, .setter 0, .setter 0, .setter 0] ++
      SpscChannel.pushEvents 1 ++ SpscChannel.pushEvents 2)

theorem high_watermark_bounds_two : ¬ (twoPushed ⟨1, 2⟩).accepts 3 :=
  ((high_watermark_bounds (twoPushed ⟨1, 2⟩) (by decide +kernel) (.inl (by decide +kernel)) 3).2
    (by decide +kernel)).2

/-- With one number for both watermarks the push at the high one succeeds. -/
theorem pushed_without_credits :
    (twoPushed ⟨2, 2⟩).producerCredits = 0 ∧ (twoPushed ⟨2, 2⟩).canSend = true ∧
      (twoPushed ⟨2, 2⟩).accepts 3 := by
  unfold accepts
  decide +kernel

end KmxAio.Channel
