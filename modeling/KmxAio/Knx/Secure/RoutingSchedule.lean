import KmxAio.Knx.Secure.RoutingFreshness

/-!
# When a router notifies the group of its timer

A router has at most one notification scheduled, a periodic one or an update for a
router whose timer is behind, at a deadline drawn within the delays of its role. One
lemma says what a call can make of the schedule; what holds of the deadlines and of
pending updates along a run follows from it.
-/

namespace KmxAio.Knx.Secure

open Lib Lib.Run Lib.Wire

namespace RoutingTimerState

/-- The next notification was scheduled at this time, within the delays of the role held. -/
def ScheduledAt (state : RoutingTimerState) (nowMs : UInt64) : Prop :=
  ∃ delay : Nat, state.notifyDeadlineMs = some (nowMs + UInt64.ofNat delay) ∧
    (state.delayBounds state.scheduledUpdate.isSome).1 ≤ delay ∧
    delay ≤ (state.delayBounds state.scheduledUpdate.isSome).2

structure SameSchedule (before after : RoutingTimerState) : Prop where
  update : after.scheduledUpdate = before.scheduledUpdate
  deadline : after.notifyDeadlineMs = before.notifyDeadlineMs

theorem sameSchedule_refl (state : RoutingTimerState) : SameSchedule state state := ⟨rfl, rfl⟩

/-! ## Drawing a deadline -/

variable {state : RoutingTimerState}

theorem delayBounds_ordered (tolerant : 0 ≤ state.syncLatencyMs) (update : Bool) :
    0 < (state.delayBounds update).1 ∧
      (state.delayBounds update).1 ≤ (state.delayBounds update).2 := by
  unfold delayBounds keeperUpdateNotifyMinMs keeperPeriodicNotifyMinMs
  dsimp only
  split_ifs <;> omega

theorem delayBounds_le (tolerant : 0 ≤ state.syncLatencyMs) (update : Bool) :
    (state.delayBounds update).2 ≤ keeperPeriodicNotifyMinMs + 14 * state.syncLatencyMs := by
  unfold delayBounds keeperUpdateNotifyMinMs keeperPeriodicNotifyMinMs
  dsimp only
  split_ifs <;> omega

theorem randomBetween_bounds {minimum maximum : Int} (positive : 0 ≤ minimum)
    (ordered : minimum ≤ maximum) (octets : Option (OctetArray 4)) :
    minimum ≤ randomBetween octets minimum maximum ∧
      randomBetween octets minimum maximum ≤ maximum := by
  cases octets with
  | none =>
    dsimp only [randomBetween]
    omega
  | some octets =>
    have below : arrayNumber octets % ((maximum - minimum).toNat + 1) <
        (maximum - minimum).toNat + 1 := Nat.mod_lt _ (Nat.succ_pos _)
    dsimp only [randomBetween]
    omega

theorem reschedule_scheduled (tolerant : 0 ≤ state.syncLatencyMs)
    (nowMs : UInt64) (update : Option TimerNotifyRequest) (octets : Option (OctetArray 4)) :
    (state.reschedule nowMs update octets).ScheduledAt nowMs := by
  obtain ⟨positive, ordered⟩ := delayBounds_ordered tolerant update.isSome
  exact ⟨_, rfl, randomBetween_bounds positive.le ordered octets⟩

theorem finishSynchronisation_scheduled
    (tolerant : 0 ≤ state.syncLatencyMs) (nowMs : UInt64) (octets : Option (OctetArray 4)) :
    (state.finishSynchronisation nowMs octets).ScheduledAt nowMs := by
  refine reschedule_scheduled ?_ nowMs none octets
  exact tolerant

variable {nowMs : UInt64}

/-- No delay leads from this time past the last one there is. -/
def Timely (state : RoutingTimerState) (nowMs : UInt64) : Prop :=
  nowMs.toNat + (keeperPeriodicNotifyMinMs + 14 * state.syncLatencyMs) < 2 ^ 64

instance (state : RoutingTimerState) (nowMs : UInt64) : Decidable (state.Timely nowMs) :=
  inferInstanceAs (Decidable (_ < _))

theorem ScheduledAt.deadline_gt (scheduled : state.ScheduledAt nowMs)
    (tolerant : 0 ≤ state.syncLatencyMs) (timely : state.Timely nowMs) :
    ∃ deadline, state.notifyDeadlineMs = some deadline ∧ nowMs < deadline := by
  obtain ⟨delay, deadline, least, most⟩ := scheduled
  obtain ⟨positive, -⟩ := delayBounds_ordered tolerant state.scheduledUpdate.isSome
  have longest := delayBounds_le tolerant state.scheduledUpdate.isSome
  refine ⟨_, deadline, UInt64.lt_iff_toNat_lt.mpr ?_⟩
  unfold Timely at timely
  rw [UInt64.toNat_add, UInt64.toNat_ofNat', Nat.mod_eq_of_lt (by omega), Nat.mod_eq_of_lt (by omega)]
  omega

/-! ## What a call makes of the schedule -/

variable (state)

def RanOut (nowMs : UInt64) : Prop :=
  state.synchronisationTag.isSome = true ∧ nowMs ≥ state.synchronisationDeadlineMs

/-- A synchronisation ends when its request is answered and when it runs out. -/
def EndsSynchronisation : TimerEvent → Prop
  | .call (.onTimerNotify _ notify _) => state.answersRequest notify = true
  | .call (.takeDueNotify nowMs _) => state.RanOut nowMs
  | _ => False

/-- A notification within the synchronisation tolerance takes the place of the one scheduled. -/
def Replaces : TimerEvent → Prop
  | .call (.onTimerNotify nowMs notify _) =>
    signed notify.timerValue > signed (state.timerValue nowMs) - state.syncLatencyMs
  | _ => False

def sentBy : TimerEvent → Option TimerNotifyRequest
  | .call (.takeDueNotify nowMs drawn) => (state.takeDueNotify nowMs drawn).2
  | _ => none

inductive ScheduleChange (state : RoutingTimerState) (event : TimerEvent)
    (after : RoutingTimerState) : Prop where
  | kept (same : SameSchedule state after)
  | free (nowMs : UInt64) (time : event.nowMs = some nowMs) (scheduled : after.ScheduledAt nowMs)
      (none : state.scheduledUpdate = none)
  | dropped (nowMs : UInt64) (time : event.nowMs = some nowMs) (scheduled : after.ScheduledAt nowMs)
      (none : after.scheduledUpdate = none)
      (cause : state.Replaces event ∨ state.EndsSynchronisation event ∨
        state.sentBy event = state.scheduledUpdate)
  | reset (reset : event = .reset) (update : after.scheduledUpdate = none)
      (deadline : after.notifyDeadlineMs = none)

variable {state}

theorem dueRequest_schedule (state : RoutingTimerState) (drawn : Drawn) :
    (state.dueRequest drawn).1.synchronisationTag = state.synchronisationTag ∧
      (state.dueRequest drawn).1.synchronisationDeadlineMs = state.synchronisationDeadlineMs ∧
      ∀ update, state.scheduledUpdate = some update → (state.dueRequest drawn).2 = update := by
  unfold dueRequest
  split
  · rename_i update pending
    refine ⟨rfl, rfl, fun other same => ?_⟩
    rw [pending] at same
    exact Option.some.inj same
  · rename_i free
    refine ⟨?_, ?_, fun update pending => ?_⟩
    · cases drawn.tag <;> rfl
    · cases drawn.tag <;> rfl
    · rw [free] at pending
      cases pending

/-- The timer after the notification that was due: it keeps the time from now on. -/
def notified (state : RoutingTimerState) (nowMs : UInt64) (drawn : Drawn) : RoutingTimerState :=
  ({ (state.dueRequest drawn).1 with timekeeper := true }.reschedule nowMs none
    drawn.delay).withCounters fun counters =>
      { counters with timerNotificationsSent := counters.timerNotificationsSent + 1 }

theorem notified_scheduled (tolerant : 0 ≤ state.syncLatencyMs) (nowMs : UInt64) (drawn : Drawn) :
    (state.notified nowMs drawn).ScheduledAt nowMs := by
  have tolerates : 0 ≤ (state.dueRequest drawn).1.syncLatencyMs := by
    rw [(state.dueRequest_kept drawn).syncLatency]
    exact tolerant
  exact @reschedule_scheduled { (state.dueRequest drawn).1 with timekeeper := true } tolerates nowMs
    none drawn.delay

theorem endUnanswered_ranOut (ranOut : state.RanOut nowMs) (drawn : Drawn) :
    state.endUnanswered nowMs drawn =
      { state with timekeeper := true }.finishSynchronisation nowMs drawn.finishing :=
  if_pos ranOut

theorem endUnanswered_waiting (waiting : ¬ state.RanOut nowMs) (drawn : Drawn) :
    state.endUnanswered nowMs drawn = state :=
  if_neg waiting

/-- When a synchronisation that has run out is over, there is nothing due, or the notification
scheduled is sent. -/
theorem takeDueNotify_cases (state : RoutingTimerState) (nowMs : UInt64) (drawn : Drawn) :
    (∀ deadline, (state.endUnanswered nowMs drawn).notifyDeadlineMs = some deadline →
        nowMs < deadline) ∧
        state.takeDueNotify nowMs drawn = (state.endUnanswered nowMs drawn, none) ∨
      (∃ deadline, (state.endUnanswered nowMs drawn).notifyDeadlineMs = some deadline ∧
        deadline ≤ nowMs) ∧
        state.takeDueNotify nowMs drawn = ((state.endUnanswered nowMs drawn).notified nowMs drawn,
          some ((state.endUnanswered nowMs drawn).dueRequest drawn).2) := by
  unfold takeDueNotify
  dsimp only
  cases due : (state.endUnanswered nowMs drawn).notifyDeadlineMs with
  | none =>
    refine .inl ⟨fun deadline set => ?_, rfl⟩
    cases set
  | some deadline =>
    dsimp only
    split_ifs with early
    · refine .inl ⟨fun other same => ?_, rfl⟩
      cases same
      exact early
    · exact .inr ⟨⟨deadline, rfl, UInt64.not_lt.mp early⟩, rfl⟩

section

variable (tolerant : 0 ≤ state.syncLatencyMs)

include tolerant

theorem onTimerNotify_schedule (nowMs : UInt64) (notify : RoutingFrameIdentity) (drawn : Drawn) :
    state.ScheduleChange (.call (.onTimerNotify nowMs notify drawn))
      (state.onTimerNotify nowMs notify drawn) := by
  unfold onTimerNotify
  by_cases answered : state.answersRequest notify = true
  · rw [if_pos answered]
    refine .dropped nowMs rfl (finishSynchronisation_scheduled ?_ nowMs drawn.finishing) rfl
      (.inr (.inl answered))
    exact tolerant
  dsimp only
  split_ifs with close late
  · refine .dropped nowMs rfl (reschedule_scheduled ?_ nowMs none drawn.delay) rfl (.inl close)
    show 0 ≤ (state.advance _ _).syncLatencyMs
    rw [(state.advance_tolerance _ _).syncLatency]
    exact tolerant
  · exact .free nowMs rfl (reschedule_scheduled tolerant nowMs _ drawn.delay)
      (Option.isNone_iff_eq_none.mp late.2)
  · exact .kept (sameSchedule_refl state)

theorem endUnanswered_tolerant (nowMs : UInt64) (drawn : Drawn) :
    0 ≤ (state.endUnanswered nowMs drawn).syncLatencyMs := by
  unfold endUnanswered
  split <;> exact tolerant

theorem takeDueNotify_schedule (nowMs : UInt64) (drawn : Drawn) :
    state.ScheduleChange (.call (.takeDueNotify nowMs drawn))
      (state.takeDueNotify nowMs drawn).1 := by
  have notifies := notified_scheduled (endUnanswered_tolerant tolerant nowMs drawn) nowMs drawn
  by_cases ranOut : state.RanOut nowMs
  · obtain ⟨-, nothing⟩ | ⟨-, sent⟩ := state.takeDueNotify_cases nowMs drawn
    · rw [nothing, endUnanswered_ranOut ranOut]
      refine .dropped nowMs rfl (finishSynchronisation_scheduled ?_ nowMs drawn.finishing) rfl
        (.inr (.inl ranOut))
      exact tolerant
    · rw [sent]
      exact .dropped nowMs rfl notifies rfl (.inr (.inl ranOut))
  · obtain ⟨-, nothing⟩ | ⟨-, sent⟩ := state.takeDueNotify_cases nowMs drawn
    · rw [nothing, endUnanswered_waiting ranOut]
      exact .kept (sameSchedule_refl state)
    · cases pending : state.scheduledUpdate with
      | none =>
        rw [sent]
        exact .free nowMs rfl notifies pending
      | some update =>
        have due := (state.dueRequest_schedule drawn).2.2 update pending
        have told : state.sentBy (.call (.takeDueNotify nowMs drawn)) = state.scheduledUpdate := by
          rw [sentBy, sent, endUnanswered_waiting ranOut, due, pending]
        rw [sent]
        exact .dropped nowMs rfl notifies rfl (.inr (.inr told))

theorem take_schedule (event : TimerEvent) : state.ScheduleChange event (state.take event) := by
  cases event with
  | reset => exact .reset rfl rfl rfl
  | call made =>
    cases made with
    | onTimerNotify nowMs notify drawn => exact onTimerNotify_schedule tolerant nowMs notify drawn
    | onWrapper nowMs wrap drawn =>
      rw [ClockedTimer.take_onWrapper]
      unfold onWrapper
      split
      · exact .kept ⟨rfl, rfl⟩
      split
      · exact .kept ⟨rfl, rfl⟩
      by_cases late : state.behind nowMs wrap.timerValue = true
      · split_ifs with none
        · exact .free nowMs rfl (reschedule_scheduled tolerant nowMs _ drawn.delay)
            (Option.isNone_iff_eq_none.mp none)
        · exact .kept ⟨rfl, rfl⟩
      · rw [if_neg late]
        split_ifs with close
        · refine .free nowMs rfl ?_ (Option.isNone_iff_eq_none.mp close.2)
          unfold advance
          split <;> exact reschedule_scheduled tolerant nowMs none drawn.delay
        · unfold advance
          split <;> exact .kept ⟨rfl, rfl⟩
    | takeDueNotify nowMs drawn => exact takeDueNotify_schedule tolerant nowMs drawn
    | beginSynchronisation nowMs drawn =>
      refine .kept ⟨?_, ?_⟩
      · cases drawn with
        | mk finishing tag delay => cases tag <;> rfl
      · cases drawn with
        | mk finishing tag delay => cases tag <;> rfl
    | onOutgoingWrapper nowMs drawn =>
      dsimp only [take, TimerLog.step, onOutgoingWrapper]
      split_ifs with none
      · exact .free nowMs rfl (reschedule_scheduled tolerant nowMs _ drawn.delay)
          (Option.isNone_iff_eq_none.mp none)
      · exact .kept ⟨rfl, rfl⟩
    | rememberSent frame | noteRefused why => exact .kept ⟨rfl, rfl⟩

end

/-! ## Runs -/

/-- What holds of every timer: a tolerance is not negative, and a pending update has a deadline. -/
structure Sound (state : RoutingTimerState) : Prop where
  tolerant : 0 ≤ state.syncLatencyMs
  timed : ∀ update, state.scheduledUpdate = some update →
    ∃ deadline, state.notifyDeadlineMs = some deadline

theorem Sound.take (sound : state.Sound) (event : TimerEvent) : (state.take event).Sound := by
  refine ⟨?_, fun update pending => ?_⟩
  · rw [(ClockedTimer.take_tolerance state event).syncLatency]
    exact sound.tolerant
  cases take_schedule sound.tolerant event with
  | kept same =>
    rw [same.update] at pending
    rw [same.deadline]
    exact sound.timed update pending
  | free nowMs time scheduled none =>
    obtain ⟨delay, deadline, -⟩ := scheduled
    exact ⟨_, deadline⟩
  | dropped nowMs time scheduled none cause =>
    rw [none] at pending
    cases pending
  | reset reset update deadline =>
    rw [update] at pending
    cases pending

theorem run_sound (sound : state.Sound) (events : List TimerEvent) :
    (run RoutingTimerState.take state events).Sound :=
  invariant_run (fun _ event sound _ => sound.take event) sound
    (admissible_of_events (fun _ _ => trivial : ∀ event ∈ events, True))

/-! ### The next deadline -/

theorem lt_nextDeadlineMs (before : nowMs < neverMs)
    (notify : ∀ deadline, state.notifyDeadlineMs = some deadline → nowMs < deadline)
    (waiting : ¬ state.RanOut nowMs) : nowMs < state.nextDeadlineMs := by
  have scheduled : nowMs < state.notifyDeadlineMs.getD neverMs := by
    cases set : state.notifyDeadlineMs with
    | none => exact before
    | some deadline => exact notify deadline set
  dsimp only [nextDeadlineMs]
  split_ifs with asked
  · exact UInt64.not_le.mp fun expired => waiting ⟨asked.1, expired⟩
  · exact scheduled

theorem takeDueNotify_early (early : nowMs < state.nextDeadlineMs) (drawn : Drawn) :
    state.takeDueNotify nowMs drawn = (state, none) := by
  have notYet : nowMs < state.notifyDeadlineMs.getD neverMs ∧ ¬ state.RanOut nowMs := by
    dsimp only [nextDeadlineMs] at early
    split_ifs at early with asked
    · exact ⟨UInt64.lt_trans early asked.2, fun ranOut => UInt64.not_lt.mpr ranOut.2 early⟩
    · refine ⟨early, fun ranOut => asked ⟨ranOut.1, ?_⟩⟩
      exact UInt64.lt_of_le_of_lt ranOut.2 early
  obtain ⟨-, nothing⟩ | ⟨⟨deadline, set, due⟩, -⟩ := state.takeDueNotify_cases nowMs drawn
  · rwa [endUnanswered_waiting notYet.2] at nothing
  · rw [endUnanswered_waiting notYet.2] at set
    rw [set] at notYet
    exact absurd notYet.1 (UInt64.not_lt.mpr due)

theorem takeDueNotify_later (sound : state.Sound) (timely : state.Timely nowMs) (drawn : Drawn) :
    nowMs < (state.takeDueNotify nowMs drawn).1.nextDeadlineMs := by
  have tolerant := sound.tolerant
  have before : nowMs < neverMs := by
    unfold Timely keeperPeriodicNotifyMinMs at timely
    refine UInt64.lt_iff_toNat_lt.mpr ?_
    show nowMs.toNat < 2 ^ 64 - 1
    omega
  have waiting : ¬ (state.endUnanswered nowMs drawn).RanOut nowMs := by
    by_cases ranOut : state.RanOut nowMs
    · rw [endUnanswered_ranOut ranOut]
      rintro ⟨asked, -⟩
      cases asked
    · rwa [endUnanswered_waiting ranOut]
  have ended := endUnanswered_tolerant tolerant nowMs drawn
  obtain ⟨later, nothing⟩ | ⟨-, sent⟩ := state.takeDueNotify_cases nowMs drawn
  · rw [nothing]
    exact lt_nextDeadlineMs before later waiting
  · rw [sent]
    refine lt_nextDeadlineMs before (fun deadline set => ?_) fun ranOut => waiting ?_
    · have kept := (state.endUnanswered_kept nowMs drawn).trans (dueRequest_kept _ drawn)
      have longest : ((state.endUnanswered nowMs drawn).notified nowMs drawn).Timely nowMs := by
        unfold Timely at timely ⊢
        rwa [show ((state.endUnanswered nowMs drawn).notified nowMs drawn).syncLatencyMs =
          state.syncLatencyMs from kept.syncLatency]
      obtain ⟨other, same, later⟩ := (notified_scheduled ended nowMs drawn).deadline_gt
        (kept.syncLatency ▸ tolerant) longest
      cases same.symm.trans set
      exact later
    · obtain ⟨tag, deadline, -⟩ := (state.endUnanswered nowMs drawn).dueRequest_schedule drawn
      have asked : ((state.endUnanswered nowMs drawn).dueRequest drawn).1.synchronisationTag.isSome =
        true := ranOut.1
      have reached : nowMs ≥ ((state.endUnanswered nowMs drawn).dueRequest
        drawn).1.synchronisationDeadlineMs := ranOut.2
      rw [tag] at asked
      rw [deadline] at reached
      exact ⟨asked, reached⟩

end RoutingTimerState

open RoutingTimerState

/-! ### Pending updates -/

/-- A timer, and the notifications it gave out to be sent. -/
structure NotifyLog where
  state : RoutingTimerState
  sent : List TimerNotifyRequest := []

namespace NotifyLog

def step (log : NotifyLog) (event : TimerEvent) : NotifyLog :=
  { state := log.state.take event
    sent := log.sent ++ (log.state.sentBy event).toList }

def Undisturbed (log : NotifyLog) (event : TimerEvent) : Prop :=
  event ≠ .reset ∧ ¬ log.state.Replaces event ∧ ¬ log.state.EndsSynchronisation event

variable {log : NotifyLog} {event : TimerEvent} {update : TimerNotifyRequest}

theorem mem_sent_run (sent : update ∈ log.sent) (events : List TimerEvent) :
    update ∈ (run step log events).sent := by
  induction events generalizing log with
  | nil => exact sent
  | cons event rest ih => exact ih (List.mem_append_left _ sent)

section

variable {deadline : UInt64} (sound : log.state.Sound)
  (pending : log.state.scheduledUpdate = some update)
  (set : log.state.notifyDeadlineMs = some deadline)

include sound pending set

theorem run_pending {events : List TimerEvent}
    (undisturbed : Admissible step Undisturbed log events) :
    update ∈ (run step log events).sent ∨
      (run step log events).state.scheduledUpdate = some update ∧
        (run step log events).state.notifyDeadlineMs = some deadline ∧
        ∀ nowMs drawn, .call (.takeDueNotify nowMs drawn) ∈ events → nowMs < deadline := by
  induction events generalizing log with
  | nil =>
    refine .inr ⟨pending, set, fun nowMs drawn listed => ?_⟩
    cases listed
  | cons event rest ih =>
    obtain ⟨here, later⟩ := undisturbed
    obtain sent | ⟨still, kept, early⟩ : update ∈ (log.step event).sent ∨ (log.step
        event).state.scheduledUpdate = some update ∧ (log.step event).state.notifyDeadlineMs = some
        deadline ∧ ∀ nowMs drawn, event = .call (.takeDueNotify nowMs drawn) → nowMs < deadline :=
        by
      obtain ⟨unreset, unreplaced, unended⟩ := here
      cases take_schedule sound.tolerant event with
      | kept same =>
        refine .inr ⟨same.update.trans pending, same.deadline.trans set, ?_⟩
        rintro nowMs drawn rfl
        have waiting : log.state.endUnanswered nowMs drawn = log.state :=
          endUnanswered_waiting unended drawn
        obtain ⟨later, -⟩ | ⟨-, sent⟩ := log.state.takeDueNotify_cases nowMs drawn
        · exact later deadline ((congrArg _ waiting).trans set)
        · have dropped : (log.state.takeDueNotify nowMs drawn).1.scheduledUpdate = none := by
            rw [sent]
            rfl
          have still : (log.state.takeDueNotify nowMs drawn).1.scheduledUpdate = some update :=
            same.update.trans pending
          rw [dropped] at still
          cases still
      | free nowMs time scheduled none =>
        rw [pending] at none
        cases none
      | dropped nowMs time scheduled none cause =>
        rcases cause with replaced | ended | sent
        · exact absurd replaced unreplaced
        · exact absurd ended unended
        · refine .inl (List.mem_append_right _ ?_)
          rw [sent, pending]
          exact List.mem_singleton_self update
      | reset reset none deadline => exact absurd reset unreset
    · exact .inl (mem_sent_run sent rest)
    · rcases ih (sound.take event) still kept later with sent | ⟨last, final, before⟩
      · exact .inl sent
      · refine .inr ⟨last, final, fun nowMs drawn listed => ?_⟩
        rcases List.mem_cons.mp listed with first | second
        · exact early nowMs drawn first.symm
        · exact before nowMs drawn second

end

end NotifyLog

/-- Whatever a timer went through: nothing is taken before the next deadline, and the one after that
lies ahead; an update is made pending only where none is; a pending update is sent by the first look
at or after its deadline unless it is replaced, the synchronisation ends or the timer is reset; and a
deadline that is set lies within the delays of the role held, those of a follower beginning a
synchronisation tolerance after those of a timekeeper have ended. -/
theorem notify_schedule (latencyToleranceMs duplicateCacheEntries : UInt16)
    (serialNumber : SerialNumber) (past : List TimerEvent) :
    let state := run take
      (.make latencyToleranceMs serialNumber duplicateCacheEntries) past
    (∀ nowMs drawn,
      (nowMs < state.nextDeadlineMs → state.takeDueNotify nowMs drawn = (state, none)) ∧
      (state.Timely nowMs → nowMs < (state.takeDueNotify nowMs drawn).1.nextDeadlineMs)) ∧
    (∀ event update, (state.take event).scheduledUpdate = some update →
      state.scheduledUpdate = some update ∨ state.scheduledUpdate = none) ∧
    (∀ update, state.scheduledUpdate = some update →
      ∃ deadline, state.notifyDeadlineMs = some deadline ∧
        ∀ later, Admissible NotifyLog.step NotifyLog.Undisturbed { state := state } later →
          let log := run NotifyLog.step { state := state } later
          update ∈ log.sent ∨
            log.state.scheduledUpdate = some update ∧ log.state.notifyDeadlineMs = some deadline ∧
              ∀ nowMs drawn, .call (.takeDueNotify nowMs drawn) ∈ later → nowMs < deadline) ∧
    (∀ event, state.SameSchedule (state.take event) ∨ event = .reset ∨
      ∃ nowMs, event.nowMs = some nowMs ∧ (state.take event).ScheduledAt nowMs) ∧
    ∀ update, ({ state with timekeeper := false }.delayBounds update).1 =
      ({ state with timekeeper := true }.delayBounds update).2 + state.syncLatencyMs := by
  intro state
  have makeSound : (make latencyToleranceMs serialNumber duplicateCacheEntries).Sound := by
    refine ⟨?_, fun update pending => by cases pending⟩
    show (0 : Int) ≤ (latencyToleranceMs.toNat + 5) / 10
    omega
  have sound : state.Sound := run_sound makeSound past
  refine ⟨fun nowMs drawn => ⟨?_, ?_⟩, fun event update after => ?_, fun update pending => ?_,
    fun event => ?_, fun update => rfl⟩
  · exact fun early => takeDueNotify_early early drawn
  · exact fun timely => takeDueNotify_later sound timely drawn
  · cases take_schedule sound.tolerant event with
    | kept same => exact .inl (same.update.symm.trans after)
    | free nowMs time scheduled none => exact .inr none
    | dropped nowMs time scheduled none cause | reset reset none deadline =>
      rw [none] at after
      cases after
  · obtain ⟨deadline, set⟩ := sound.timed update pending
    exact ⟨deadline, set, fun later undisturbed =>
      NotifyLog.run_pending sound pending set undisturbed⟩
  · cases take_schedule sound.tolerant event with
    | kept same => exact .inl same
    | free nowMs time scheduled none | dropped nowMs time scheduled none cause =>
      exact .inr (.inr ⟨nowMs, time, scheduled⟩)
    | reset reset none deadline => exact .inr (.inl reset)

def behindEvents : List TimerEvent :=
  unansweredEvents ++ [.call (.onWrapper 4000 (otherFields 2000).identity {})]

def behindUpdate : TimerNotifyRequest :=
  ⟨(otherFields 2000).serialNumber, (otherFields 2000).messageTag⟩

/-- A pending update is dropped by a reset, and never sent. Where nothing is scheduled the next
deadline is the last time there is, which does not lie after itself. -/
theorem resetUpdate_dropped :
    let state := run take (routerTimer 64) behindEvents
    state.scheduledUpdate = some behindUpdate ∧ state.notifyDeadlineMs = some 4100 ∧
      (state.take .reset).scheduledUpdate = none ∧
      ((state.take .reset).takeDueNotify 4100 {}).2 = none ∧
      ((routerTimer 64).takeDueNotify 0xFFFFFFFFFFFFFFFF {}).1.nextDeadlineMs =
        0xFFFFFFFFFFFFFFFF := by
  decide +kernel

/-- Without the reset nothing happens until a tenth of a second later, when the update is sent, and
the next deadline lies ahead. -/
theorem behindUpdate_sent :
    let state := run take (routerTimer 64) behindEvents
    state.takeDueNotify 4099 {} = (state, none) ∧
      behindUpdate ∈ (run NotifyLog.step { state := state } [.call (.takeDueNotify 4100 {})]).sent ∧
      4100 < (state.takeDueNotify 4100 {}).1.nextDeadlineMs := by
  intro state
  obtain ⟨taken, -, pending, -, -⟩ :=
    notify_schedule 1000 64 (routerTimer 64).serialNumber behindEvents
  refine ⟨(taken 4099 {}).1 (by decide +kernel), ?_, (taken 4100 {}).2 (by decide +kernel)⟩
  obtain ⟨deadline, set, kept⟩ := pending behindUpdate (by decide +kernel)
  have due : state.notifyDeadlineMs = some 4100 := by decide +kernel
  have undisturbed : NotifyLog.Undisturbed { state := state } (.call (.takeDueNotify 4100 {})) := by
    refine ⟨?_, id, fun expired => ?_⟩
    · simp
    have asked : state.synchronisationTag.isSome = true := expired.1
    cases asked
  rcases kept [.call (.takeDueNotify 4100 {})] ⟨undisturbed, trivial⟩ with sent | ⟨-, -, early⟩
  · exact sent
  · have before := early 4100 {} (List.mem_singleton_self _)
    cases due.symm.trans set
    exact absurd before (Nat.lt_irrefl _)

theorem take_unsynchronised (state : RoutingTimerState) (event : TimerEvent)
    (unsynchronised : state.synchronised = false) (goesOn : ¬ state.EndsSynchronisation event) :
    (state.take event).synchronised = false := by
  cases event with
  | reset => rfl
  | call made =>
    cases made with
    | onTimerNotify nowMs notify drawn =>
      have other : ¬ state.answersRequest notify = true := goesOn
      dsimp only [take, TimerLog.step, onTimerNotify, advance]
      split_ifs <;> exact unsynchronised
    | takeDueNotify nowMs drawn =>
      have same : state.endUnanswered nowMs drawn = state := if_neg goesOn
      dsimp only [take, TimerLog.step, takeDueNotify, dueRequest, randomTag]
      rw [same]
      repeat' split
      all_goals exact unsynchronised
    | beginSynchronisation nowMs drawn => rfl
    | onWrapper nowMs wrap drawn =>
      rw [ClockedTimer.take_onWrapper, onWrapper, if_pos (by simp [unsynchronised])]
      exact unsynchronised
    | onOutgoingWrapper nowMs drawn =>
      dsimp only [take, TimerLog.step, onOutgoingWrapper]
      split_ifs <;> exact unsynchronised
    | rememberSent frame | noteRefused why => exact unsynchronised

/-- Until a synchronisation ends, an unsynchronised router takes no wrapper. -/
theorem unsynchronised_refuses {state : RoutingTimerState} {events : List TimerEvent}
    (unsynchronised : state.synchronised = false)
    (pending : Admissible take (fun state event => ¬ state.EndsSynchronisation event) state events)
    (nowMs : UInt64) (wrap : RoutingFrameIdentity) (drawn : Drawn) :
    ((run take state events).onWrapper nowMs wrap drawn).2 = .unsynchronised := by
  have still : (run take state events).synchronised = false :=
    invariant_run take_unsynchronised unsynchronised pending
  exact congrArg Prod.snd (if_pos (by simp [still]))

/-- A router waits for the answer to its request: a notification that is none, a wrapper and a look
at the schedule go by, and the next wrapper is refused too. -/
theorem unsynchronised_refuses_waiting :
    let events := [.call (.beginSynchronisation 0 {}), .call (.onTimerNotify 3000 otherWrapper {}),
      .call (.onWrapper 3010 otherWrapper {}), .call (.takeDueNotify 3299 {})]
    (run take (routerTimer 1) events).synchronisationTag.isSome = true ∧
      ((run take (routerTimer 1) events).onWrapper 3300 otherWrapper {}).2 = .unsynchronised := by
  intro events
  refine ⟨by decide +kernel, ?_⟩
  refine @unsynchronised_refuses (routerTimer 1) events rfl
    ⟨id, fun answered => ?_, id, fun ranOut => ?_, trivial⟩ 3300 otherWrapper {}
  · have other : ((routerTimer 1).take (.call (.beginSynchronisation 0 {}))).answersRequest
        otherWrapper = false := by decide +kernel
    cases other.symm.trans answered
  · exact absurd ranOut.2 (by decide +kernel)

end KmxAio.Knx.Secure
