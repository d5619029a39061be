import KmxAio.Knx.Secure.RoutingReplay

/-!
# How fresh a routing frame has to be

The timer of a secure router is the clock plus a difference. Between a reset and the
answer to a synchronisation request the difference only grows, so on a clock that
does not go back the timer does not either. Clock and difference together are never
below zero, where the timer would read zero. From half of the range of the clock on
their sum is a negative number, and the timer reads zero again.
-/

namespace KmxAio.Knx.Secure

open Lib Lib.Run Lib.Wire

/-! ## The clock difference -/

/-- Below this time the clock and a difference of six octets make a signed number. -/
def clockLimit : Nat := 2 ^ 63 - 2 ^ 48

theorem bmod_of_signed {value : Int} (low : -2 ^ 63 ≤ value) (high : value < 2 ^ 63) :
    value.bmod (2 ^ 64) = value :=
  Int.bmod_eq_of_le_mul_two (by omega) (by omega)

theorem signed_of_lt {value : UInt64} (small : value.toNat < 2 ^ 63) : signed value = value.toNat := by
  rw [signed, ← Int64.toInt_toBitVec, UInt64.toBitVec_toInt64,
    BitVec.toInt_eq_toNat_of_lt (by simpa using Nat.mul_lt_mul_of_pos_left small Nat.two_pos)]
  rfl

namespace RoutingTimerState

variable (state : RoutingTimerState)

theorem timerValue_toNat (nowMs : UInt64) : ((state.timerValue nowMs).toNat : Int) =
    max 0 (min (nowMs.toInt64 + state.clockDifference).toInt maxSequence) := by
  dsimp only [timerValue]
  rw [UInt64.toNat_ofNat_of_lt']
  · omega
  · show _ < 2 ^ 64
    unfold maxSequence
    omega

theorem timerValue_lt (nowMs : UInt64) : (state.timerValue nowMs).toNat < 2 ^ 63 := by
  have value := state.timerValue_toNat nowMs
  unfold maxSequence at value
  omega

theorem signed_timerValue (nowMs : UInt64) :
    signed (state.timerValue nowMs) = (state.timerValue nowMs).toNat :=
  signed_of_lt (state.timerValue_lt nowMs)

/-- The difference of a timer whose clock is below the limit. -/
structure Moderate (state : RoutingTimerState) : Prop where
  low : -(clockLimit : Int) < state.clockDifference.toInt
  high : state.clockDifference.toInt ≤ maxSequence

variable {state}

theorem Moderate.timerValue (moderate : state.Moderate) {nowMs : UInt64}
    (early : nowMs.toNat < clockLimit) : ((state.timerValue nowMs).toNat : Int) =
    max 0 (min (nowMs.toNat + state.clockDifference.toInt) maxSequence) := by
  obtain ⟨low, high⟩ := moderate
  unfold clockLimit maxSequence at *
  have clock : nowMs.toInt64.toInt = nowMs.toNat := signed_of_lt (by omega)
  rw [timerValue_toNat, Int64.toInt_add, clock, bmod_of_signed (by omega) (by omega)]
  rfl

/-- A frame moves the timer forward to its own time. -/
theorem Moderate.advance (moderate : state.Moderate) {nowMs timerValue : UInt64}
    (early : nowMs.toNat < clockLimit) (fits : timerValue.toNat ≤ maxSequence) :
    (state.advance (signed (state.timerValue nowMs)) (signed timerValue)).clockDifference.toInt =
      state.clockDifference.toInt + max 0 (timerValue.toNat -
        max 0 (min (nowMs.toNat + state.clockDifference.toInt) maxSequence)) := by
  have value := moderate.timerValue early
  obtain ⟨low, high⟩ := moderate
  rw [signed_timerValue, value]
  unfold clockLimit maxSequence at *
  rw [signed_of_lt (by omega), RoutingTimerState.advance]
  split
  · omega
  · show (state.clockDifference + Int64.ofInt _).toInt = _
    have step : (Int64.ofInt ((timerValue.toNat : Int) -
        max 0 (min (nowMs.toNat + state.clockDifference.toInt) (2 ^ 48 - 1 : Nat)))).toInt =
        timerValue.toNat -
          max 0 (min (nowMs.toNat + state.clockDifference.toInt) (2 ^ 48 - 1 : Nat)) :=
      Int64.toInt_ofInt.trans (bmod_of_signed (by omega) (by omega))
    rw [Int64.toInt_add, step, bmod_of_signed (by omega) (by omega)]
    omega

theorem advance_tolerance (state : RoutingTimerState) (localValue received : Int) :
    SameTolerance state (state.advance localValue received) := by
  unfold RoutingTimerState.advance
  split <;> exact ⟨rfl, rfl⟩

theorem onWrapper_clockDifference (state : RoutingTimerState) (nowMs : UInt64)
    (wrap : RoutingFrameIdentity) (drawn : Drawn) :
    (state.onWrapper nowMs wrap drawn).1.clockDifference =
      if (state.onWrapper nowMs wrap drawn).2 = .accepted then
        (state.advance (signed (state.timerValue nowMs)) (signed wrap.timerValue)).clockDifference
      else state.clockDifference := by
  unfold onWrapper
  split
  · rfl
  split
  · rfl
  · split
    · split <;> rfl
    · rw [if_pos rfl]
      dsimp only [remember, RoutingTimerState.advance]
      split <;> split <;> rfl

theorem onWrapper_refused_counted (state : RoutingTimerState) (nowMs : UInt64)
    (wrap : RoutingFrameIdentity) (drawn : Drawn)
    (refused : (state.onWrapper nowMs wrap drawn).2 ≠ .accepted) :
    (state.onWrapper nowMs wrap drawn).1.counters =
        { state.counters with replays := state.counters.replays + 1 } ∨
      (state.onWrapper nowMs wrap drawn).1.counters =
        { state.counters with duplicates := state.counters.duplicates + 1 } := by
  unfold onWrapper at refused ⊢
  split at refused
  · rename_i unsynchronised
    rw [if_pos unsynchronised]
    exact .inl rfl
  · rename_i synchronised
    rw [if_neg synchronised]
    split at refused
    · rename_i held
      rw [if_pos held]
      exact .inr rfl
    · rename_i absent
      rw [if_neg absent]
      split at refused
      · rename_i late
        rw [if_pos late]
        split <;> exact .inl rfl
      · exact absurd rfl refused

end RoutingTimerState

open RoutingTimerState

/-! ## Runs on a clock that does not go back -/

def TimerCall.nowMs : TimerCall → Option UInt64
  | .beginSynchronisation nowMs _ => some nowMs
  | .onTimerNotify nowMs _ _ => some nowMs
  | .onWrapper nowMs _ _ => some nowMs
  | .onOutgoingWrapper nowMs _ => some nowMs
  | .rememberSent _ => none
  | .takeDueNotify nowMs _ => some nowMs
  | .noteRefused _ => none

inductive TimerEvent where
  | call (made : TimerCall)
  | reset

def TimerEvent.nowMs : TimerEvent → Option UInt64
  | .call made => made.nowMs
  | .reset => none

def TimerEvent.heard : TimerEvent → Option RoutingFrameIdentity
  | .call (.onTimerNotify _ notify _) => some notify
  | .call (.onWrapper _ wrap _) => some wrap
  | _ => none

def RoutingTimerState.take (state : RoutingTimerState) : TimerEvent → RoutingTimerState
  | .call made => (TimerLog.step { state := state } made).state
  | .reset => state.reset

structure ClockedTimer where
  state : RoutingTimerState
  clockMs : UInt64 := 0

namespace ClockedTimer

variable (timer : ClockedTimer) (event : TimerEvent)

def step : ClockedTimer :=
  { state := timer.state.take event
    clockMs := event.nowMs.getD timer.clockMs }

/-- The clock does not go back and stays below its limit, and a frame is stamped with six octets. -/
def Forward : Prop :=
  timer.clockMs ≤ event.nowMs.getD timer.clockMs ∧
    (event.nowMs.getD timer.clockMs).toNat < clockLimit ∧
    ∀ frame ∈ event.heard, frame.timerValue.toNat ≤ maxSequence

instance (timer : ClockedTimer) (event : TimerEvent) : Decidable (timer.Forward event) :=
  inferInstanceAs (Decidable (_ ∧ _ ∧ _))

variable (state : RoutingTimerState)

/-- Neither a reset nor the answer to a synchronisation request. -/
def Continued : TimerEvent → Prop
  | .reset => False
  | .call (.onTimerNotify _ notify _) => state.answersRequest notify = false
  | _ => True

instance (state : RoutingTimerState) : (event : TimerEvent) → Decidable (Continued state event)
  | .reset => .isFalse id
  | .call (.onTimerNotify _ _ _) => inferInstanceAs (Decidable (_ = _))
  | .call (.beginSynchronisation ..) | .call (.onWrapper ..) | .call (.onOutgoingWrapper ..)
  | .call (.rememberSent ..) | .call (.takeDueNotify ..) | .call (.noteRefused ..) => .isTrue trivial

def Continues : Prop :=
  timer.Forward event ∧ Continued timer.state event

instance (timer : ClockedTimer) (event : TimerEvent) : Decidable (timer.Continues event) :=
  inferInstanceAs (Decidable (_ ∧ _))

variable {timer} {event}

theorem take_onWrapper (nowMs : UInt64) (wrap : RoutingFrameIdentity) (drawn : Drawn) :
    state.take (.call (.onWrapper nowMs wrap drawn)) = (state.onWrapper nowMs wrap drawn).1 := by
  dsimp only [take, TimerLog.step]
  split <;> (rename_i returned; rw [returned])

theorem take_tolerance (event : TimerEvent) :
    state.SameTolerance (state.take event) := by
  cases event with
  | reset => exact ⟨rfl, rfl⟩
  | call made =>
    cases made with
    | onTimerNotify nowMs notify drawn =>
      change SameTolerance state (state.onTimerNotify nowMs notify drawn)
      unfold onTimerNotify
      split
      · exact ⟨rfl, rfl⟩
      dsimp only
      split
      · obtain ⟨latency, syncLatency⟩ := state.advance_tolerance (signed (state.timerValue nowMs))
          (signed notify.timerValue)
        exact ⟨latency, syncLatency⟩
      · split <;> exact ⟨rfl, rfl⟩
    | onWrapper nowMs wrap drawn =>
      rw [take_onWrapper]
      unfold onWrapper
      split
      · exact ⟨rfl, rfl⟩
      split
      · exact ⟨rfl, rfl⟩
      · dsimp only
        split
        · split <;> exact ⟨rfl, rfl⟩
        · split
          · obtain ⟨latency, syncLatency⟩ :=
              (state.reschedule nowMs none drawn.delay).advance_tolerance
                (signed (state.timerValue nowMs)) (signed wrap.timerValue)
            exact ⟨latency, syncLatency⟩
          · obtain ⟨latency, syncLatency⟩ := state.advance_tolerance
              (signed (state.timerValue nowMs)) (signed wrap.timerValue)
            exact ⟨latency, syncLatency⟩
    | beginSynchronisation nowMs drawn =>
      exact (state.beginSynchronisation_kept nowMs drawn).toSameTolerance
    | onOutgoingWrapper nowMs drawn =>
      exact (state.onOutgoingWrapper_kept nowMs drawn).toSameTolerance
    | takeDueNotify nowMs drawn => exact (state.takeDueNotify_kept nowMs drawn).toSameTolerance
    | rememberSent frame | noteRefused why => exact ⟨rfl, rfl⟩

/-- Only a frame that is heard moves the timer, by advancing it to its own time. -/
theorem take_clockDifference {state : RoutingTimerState} (continued : Continued state event) :
    (state.take event).clockDifference = state.clockDifference ∨
      ∃ nowMs, event.nowMs = some nowMs ∧ ∃ frame ∈ event.heard,
        (state.take event).clockDifference = (state.advance (signed (state.timerValue nowMs))
          (signed frame.timerValue)).clockDifference := by
  cases event with
  | reset => exact continued.elim
  | call made =>
    cases made with
    | onTimerNotify nowMs notify drawn =>
      have unanswered : state.answersRequest notify = false := continued
      have taken : state.take (.call (.onTimerNotify nowMs notify drawn)) = _ :=
        if_neg (by simp [unanswered])
      rw [taken]
      dsimp only
      split_ifs
      · exact .inr ⟨nowMs, rfl, notify, rfl, rfl⟩
      · exact .inl rfl
      · exact .inl rfl
    | onWrapper nowMs wrap drawn =>
      have changed := state.onWrapper_clockDifference nowMs wrap drawn
      rw [take_onWrapper]
      split_ifs at changed
      · exact .inr ⟨nowMs, rfl, wrap, rfl, changed⟩
      · exact .inl changed
    | beginSynchronisation nowMs drawn =>
      exact .inl (state.beginSynchronisation_kept nowMs drawn).difference
    | onOutgoingWrapper nowMs drawn =>
      exact .inl (state.onOutgoingWrapper_kept nowMs drawn).difference
    | takeDueNotify nowMs drawn => exact .inl (state.takeDueNotify_kept nowMs drawn).difference
    | rememberSent frame | noteRefused why => exact .inl rfl

/-- The clock and the difference are not below zero together. -/
structure Grounded (timer : ClockedTimer) : Prop where
  early : timer.clockMs.toNat < clockLimit
  low : 0 ≤ timer.clockMs.toNat + timer.state.clockDifference.toInt
  high : timer.state.clockDifference.toInt ≤ maxSequence

theorem Grounded.moderate (grounded : timer.Grounded) : timer.state.Moderate := by
  obtain ⟨early, low, high⟩ := grounded
  exact ⟨by omega, high⟩

/-- As long as the timer is neither reset nor answered, its difference does not shrink. -/
theorem Grounded.continued (grounded : timer.Grounded) (forward : timer.Forward event)
    (continued : Continued timer.state event) :
    timer.state.clockDifference.toInt ≤ (timer.step event).state.clockDifference.toInt ∧
      (timer.step event).Grounded := by
  obtain ⟨onward, early, stamped⟩ := forward
  rw [UInt64.le_iff_toNat_le] at onward
  have low := grounded.low
  have high := grounded.high
  rcases take_clockDifference continued with same | ⟨nowMs, time, frame, heard, advanced⟩
  · have kept : (timer.step event).state.clockDifference.toInt =
        timer.state.clockDifference.toInt := congrArg _ same
    refine ⟨kept.ge, early, ?_, kept.trans_le high⟩
    show 0 ≤ ((event.nowMs.getD timer.clockMs).toNat : Int) + _
    omega
  · have fits := stamped frame heard
    have clock : (timer.step event).clockMs = nowMs := by rw [step, time]; rfl
    rw [time, Option.getD_some] at onward early
    have moved := (congrArg Int64.toInt advanced).trans (grounded.moderate.advance early fits)
    change (timer.step event).state.clockDifference.toInt = _ at moved
    refine ⟨by omega, clock ▸ early, ?_, ?_⟩ <;> rw [moved]
    · rw [clock]
      omega
    · omega

theorem step_grounded (grounded : timer.Grounded) (forward : timer.Forward event) :
    (timer.step event).Grounded := by
  by_cases continued : Continued timer.state event
  · exact (grounded.continued forward continued).2
  obtain ⟨onward, early, stamped⟩ := forward
  cases event with
  | reset => exact ⟨early, Int.natCast_nonneg _, Int.natCast_nonneg maxSequence⟩
  | call made =>
    cases made with
    | onTimerNotify nowMs notify drawn =>
      have answered : timer.state.answersRequest notify = true := by
        simpa [Continued] using continued
      have fits := stamped notify rfl
      have before : nowMs.toNat < clockLimit := early
      unfold clockLimit at before
      unfold maxSequence at fits
      have set : (timer.state.onTimerNotify nowMs notify drawn).clockDifference.toInt =
          notify.timerValue.toNat - nowMs.toNat := by
        have received : notify.timerValue.toInt64.toInt = notify.timerValue.toNat :=
          signed_of_lt (by omega)
        have clock : nowMs.toInt64.toInt = nowMs.toNat := signed_of_lt (by omega)
        rw [onTimerNotify, if_pos answered]
        show (notify.timerValue.toInt64 - nowMs.toInt64).toInt = _
        rw [Int64.toInt_sub, received, clock, bmod_of_signed] <;> omega
      refine ⟨early, ?_, ?_⟩
      · show 0 ≤ (nowMs.toNat : Int) +
          (timer.state.onTimerNotify nowMs notify drawn).clockDifference.toInt
        omega
      · show (timer.state.onTimerNotify nowMs notify drawn).clockDifference.toInt ≤ maxSequence
        unfold maxSequence
        omega
    | _ => exact absurd trivial continued

theorem run_tolerance (timer : ClockedTimer) (events : List TimerEvent) :
    timer.state.SameTolerance (run step timer events).state := by
  induction events generalizing timer with
  | nil => exact ⟨rfl, rfl⟩
  | cons event rest ih =>
    obtain ⟨latency, syncLatency⟩ := take_tolerance timer.state event
    obtain ⟨laterLatency, laterSync⟩ := ih (timer.step event)
    exact ⟨laterLatency.trans latency, laterSync.trans syncLatency⟩

theorem run_forward {events : List TimerEvent} (grounded : timer.Grounded)
    (continues : Admissible step Continues timer events) :
    timer.clockMs ≤ (run step timer events).clockMs ∧
      timer.state.clockDifference.toInt ≤ (run step timer events).state.clockDifference.toInt ∧
      (run step timer events).Grounded := by
  induction events generalizing timer with
  | nil => exact ⟨UInt64.le_refl _, Int.le_refl _, grounded⟩
  | cons event rest ih =>
    obtain ⟨⟨forward, continued⟩, later⟩ := continues
    obtain ⟨grown, after⟩ := grounded.continued forward continued
    obtain ⟨clock, difference, last⟩ := ih after later
    exact ⟨UInt64.le_trans forward.1 clock, Int.le_trans grown difference, last⟩

end ClockedTimer

open ClockedTimer

def WrapperFields.identity (fields : WrapperFields) : RoutingFrameIdentity :=
  ⟨UInt64.ofNat (decodeSequence fields.sequence), fields.serialNumber, fields.messageTag⟩

theorem decodeSequence_le (sequence : OctetArray 6) : decodeSequence sequence ≤ maxSequence := by
  have small := ofBigEndian_lt sequence.toList
  rw [List.Vector.toList_length] at small
  exact Nat.le_sub_one_of_lt small

theorem WrapperFields.identity_toNat (fields : WrapperFields) :
    fields.identity.timerValue.toNat = decodeSequence fields.sequence := by
  refine UInt64.toNat_ofNat_of_lt' (Nat.lt_of_le_of_lt (decodeSequence_le _) ?_)
  decide

/-- Whatever a timer went through on a clock that does not go back and stays below its limit, as long
as it is neither reset nor answered its value does not go back, and nothing is accepted that is a
latency tolerance older than a wrapper it has accepted. A wrapper that is not accepted leaves the
value as it is, and is counted once. -/
theorem routing_freshness (latencyToleranceMs duplicateCacheEntries : UInt16)
    (serialNumber : SerialNumber) (past : List TimerEvent)
    (forward : Admissible step ClockedTimer.Forward
      { state := .make latencyToleranceMs serialNumber duplicateCacheEntries } past) :
    let timer := run step
      { state := .make latencyToleranceMs serialNumber duplicateCacheEntries } past
    (∀ later, Admissible step ClockedTimer.Continues timer later →
      ∀ earlierMs laterMs, earlierMs ≤ laterMs → laterMs.toNat < clockLimit →
        timer.state.timerValue earlierMs ≤ (run step timer later).state.timerValue laterMs) ∧
    (∀ nowMs (wrap : WrapperFields) drawn, timer.clockMs ≤ nowMs → nowMs.toNat < clockLimit →
      (timer.state.onWrapper nowMs wrap.identity drawn).2 = .accepted →
      ∀ later, Admissible step ClockedTimer.Continues
          (timer.step (.call (.onWrapper nowMs wrap.identity drawn))) later →
        let after := run step
          (timer.step (.call (.onWrapper nowMs wrap.identity drawn))) later
        ∀ laterMs (old : WrapperFields) laterDrawn,
          after.clockMs ≤ laterMs → laterMs.toNat < clockLimit →
          old.identity.timerValue.toNat + latencyToleranceMs.toNat ≤
            wrap.identity.timerValue.toNat →
          (after.state.onWrapper laterMs old.identity laterDrawn).2 ≠ .accepted) ∧
    ∀ nowMs (wrap : WrapperFields) drawn,
      (timer.state.onWrapper nowMs wrap.identity drawn).2 ≠ .accepted →
      (∀ timeMs, (timer.state.onWrapper nowMs wrap.identity drawn).1.timerValue timeMs =
        timer.state.timerValue timeMs) ∧
      ((timer.state.onWrapper nowMs wrap.identity drawn).1.counters =
          { timer.state.counters with replays := timer.state.counters.replays + 1 } ∨
        (timer.state.onWrapper nowMs wrap.identity drawn).1.counters =
          { timer.state.counters with duplicates := timer.state.counters.duplicates + 1 }) := by
  intro timer
  have grounded : timer.Grounded :=
    invariant_run (fun _ _ before ahead => step_grounded before ahead)
      ⟨show (0 : UInt64).toNat < clockLimit by decide, Int.le_refl 0, Int.natCast_nonneg _⟩ forward
  refine ⟨fun later continues earlierMs laterMs ordered early => ?_, ?_,
    fun nowMs wrap drawn refused => ?_⟩
  · obtain ⟨-, grown, after⟩ := run_forward grounded continues
    rw [UInt64.le_iff_toNat_le] at ordered ⊢
    have before := grounded.moderate.timerValue (Nat.lt_of_le_of_lt ordered early)
    have value := after.moderate.timerValue early
    omega
  · intro nowMs wrap drawn ahead early accepted later continues after laterMs old laterDrawn onward
      lateEarly aged again
    have fits := decodeSequence_le wrap.sequence
    rw [← wrap.identity_toNat] at fits
    have forwarded : timer.Forward (.call (.onWrapper nowMs wrap.identity drawn)) := by
      refine ⟨ahead, early, ?_⟩
      rintro _ ⟨⟩
      exact fits
    obtain ⟨clock, difference, last⟩ := run_forward (step_grounded grounded forwarded) continues
    have carried : wrap.identity.timerValue.toNat ≤ (after.state.timerValue laterMs).toNat := by
      have value : ((after.state.timerValue laterMs).toNat : Int) =
          max 0 (min (laterMs.toNat + after.state.clockDifference.toInt) maxSequence) :=
        last.moderate.timerValue lateEarly
      have low := grounded.low
      change (timer.state.take _).clockDifference.toInt ≤ after.state.clockDifference.toInt
        at difference
      rw [take_onWrapper, timer.state.onWrapper_clockDifference, if_pos accepted,
        grounded.moderate.advance early fits] at difference
      rw [UInt64.le_iff_toNat_le] at ahead clock onward
      change nowMs.toNat ≤ after.clockMs.toNat at clock
      omega
    have tolerance : after.state.latencyMs = latencyToleranceMs.toNat :=
      ((run_tolerance _ later).latency.trans
        (take_tolerance timer.state _).latency).trans
        (run_tolerance _ past).latency
    obtain ⟨-, -, inTime⟩ := (after.state.onWrapper_accepted_iff _ _ _).mp again
    rw [behind, decide_eq_false_iff_not, signed_timerValue, signed_of_lt, tolerance] at inTime
    · omega
    · unfold maxSequence at fits
      omega
  · have still := timer.state.onWrapper_clockDifference nowMs wrap.identity drawn
    rw [if_neg refused] at still
    refine ⟨fun timeMs => ?_,
      timer.state.onWrapper_refused_counted nowMs wrap.identity drawn refused⟩
    unfold timerValue
    rw [still]

theorem otherSerial_length : ([0x00, 0xFA, 0x00, 0x00, 0x00, 0x02] : Octets).length = 6 := rfl

theorem otherTag_length : ([0xB1, 0xB2] : Octets).length = 2 := rfl

def otherSerial : SerialNumber := ⟨[0x00, 0xFA, 0x00, 0x00, 0x00, 0x02], otherSerial_length⟩

def otherFields (timerValue : Nat) : WrapperFields :=
  { sessionId := 0
    sequence := numberArray 6 timerValue
    serialNumber := otherSerial
    messageTag := ⟨[0xB1, 0xB2], otherTag_length⟩ }

def unansweredEvents : List TimerEvent :=
  [.call (.beginSynchronisation 0 {}), .call (.takeDueNotify 4000 {})]

/-- A wrapper that is half a second ahead is accepted, pulls the timer forward and leaves nothing
acceptable that is a second older; such a wrapper moves nothing. -/
theorem aheadWrapper_fresh :
    let timer := run step { state := routerTimer 64 } unansweredEvents
    let after := timer.step (.call (.onWrapper 4000 (otherFields 4500).identity {}))
    (timer.state.onWrapper 4000 (otherFields 4500).identity {}).2 = .accepted ∧
      timer.state.timerValue 4000 ≤ after.state.timerValue 4000 ∧
      (after.state.onWrapper 4000 (otherFields 3500).identity {}).2 ≠ .accepted ∧
      (timer.state.onWrapper 4000 (otherFields 3000).identity {}).1.timerValue 4000 =
        timer.state.timerValue 4000 := by
  intro timer after
  obtain ⟨monotone, fresh, still⟩ := routing_freshness 1000 64 (routerTimer 64).serialNumber
    unansweredEvents (by decide +kernel)
  have accepted : (timer.state.onWrapper 4000 (otherFields 4500).identity {}).2 = .accepted := by
    decide +kernel
  refine ⟨accepted, ?_, ?_, ?_⟩
  · exact monotone [.call (.onWrapper 4000 (otherFields 4500).identity {})]
      ⟨⟨by decide +kernel, trivial⟩, trivial⟩ 4000 4000 (UInt64.le_refl _) (by decide)
  · exact fresh 4000 (otherFields 4500) {} (by decide +kernel) (by decide) accepted [] trivial 4000
      (otherFields 3500) {} (by decide +kernel) (by decide) (by decide +kernel)
  · exact (still 4000 (otherFields 3000) {} (by decide +kernel)).1 4000

/-- Half of the range of the clock later the timer has gone back to zero, and accepts a wrapper that
is a latency tolerance older than one it has accepted. -/
theorem timer_gone_back :
    let timer := run step { state := routerTimer 1 }
      (unansweredEvents ++ [.call (.onWrapper 4000 (otherFields 4500).identity {})])
    timer.state.timerValue 4000 = 4500 ∧ timer.state.timerValue 0x8000000000000000 = 0 ∧
      (timer.state.onWrapper 0x8000000000000000 (otherFields 3500).identity {}).2 = .accepted := by
  decide +kernel

end KmxAio.Knx.Secure
