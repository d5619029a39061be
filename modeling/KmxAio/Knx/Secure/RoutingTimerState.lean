import KmxAio.Lib.RingBuffer
import KmxAio.Knx.Secure.Session

/-!
# The secure routing timer

Every secure router keeps a millisecond timer, stamps each wrapper it sends with
it, and accepts a received wrapper whose timer value is not too far behind its
own and which it does not remember. TIMER_NOTIFY frames keep the timers of a
group together. The time is an argument of every call, and so is what the
entropy source answers. Times are 64-bit numbers, and the timer is computed from
signed ones.
-/

namespace KmxAio.Knx.Secure

open Lib Lib.Wire

def keeperPeriodicNotifyMinMs : Nat := 10000
def keeperUpdateNotifyMinMs : Nat := 100

def neverMs : UInt64 := 0xFFFFFFFFFFFFFFFF

structure RoutingFrameIdentity where
  timerValue : UInt64
  serialNumber : SerialNumber
  messageTag : MessageTag
  deriving DecidableEq

inductive WrapperVerdict where
  | accepted
  | duplicate
  | outdated
  | unsynchronised
  deriving DecidableEq

/-- Why a routing frame was refused before it reached the timer. -/
inductive Refusal where
  | authentication
  | unencrypted
  | service
  deriving DecidableEq

structure TimerNotifyRequest where
  serialNumber : SerialNumber
  messageTag : MessageTag
  deriving DecidableEq

/-- What the entropy source answers during one call: the delay drawn when a synchronisation ends,
a message tag, and the delay drawn for the next notification. -/
structure Drawn where
  finishing : Option (OctetArray 4) := none
  tag : Option MessageTag := none
  delay : Option (OctetArray 4) := none

/-- The signed number a 64-bit number is cast to. -/
def signed (value : UInt64) : Int := value.toInt64.toInt

structure RoutingTimerState where
  serialNumber : SerialNumber
  latencyMs : Int
  syncLatencyMs : Int
  clockDifference : Int64 := 0
  synchronised : Bool := false
  timekeeper : Bool := false
  synchronisationTag : Option MessageTag := none
  synchronisationDeadlineMs : UInt64 := 0
  scheduledUpdate : Option TimerNotifyRequest := none
  notifyDeadlineMs : Option UInt64 := none
  cache : RingBuffer RoutingFrameIdentity
  fallbackTag : UInt16 := 0
  counters : Statistics := {}

namespace RoutingTimerState

def make (latencyToleranceMs : UInt16) (serialNumber : SerialNumber)
    (duplicateCacheEntries : UInt16) : RoutingTimerState where
  serialNumber := serialNumber
  latencyMs := latencyToleranceMs.toNat
  syncLatencyMs := (latencyToleranceMs.toNat + 5) / 10
  cache := RingBuffer.empty (max duplicateCacheEntries.toNat 1) (by omega)

variable (state : RoutingTimerState) (nowMs : UInt64)

def timerValue : UInt64 :=
  let value := nowMs.toInt64 + state.clockDifference
  UInt64.ofNat (max 0 (min value.toInt maxSequence)).toNat

/-- The shortest and the longest delay before the next notification. A follower waits past the
whole range of a timekeeper. -/
def delayBounds (update : Bool) : Int × Int :=
  let keeperMinimum : Int := if update then keeperUpdateNotifyMinMs else keeperPeriodicNotifyMinMs
  let keeperMaximum := keeperMinimum + (if update then 1 else 3) * state.syncLatencyMs
  if state.timekeeper then (keeperMinimum, keeperMaximum)
  else (keeperMaximum + state.syncLatencyMs, keeperMaximum + 11 * state.syncLatencyMs)

variable (octets : Option (OctetArray 4)) (drawn : Drawn)

def randomBetween (minimum maximum : Int) : Nat :=
  match octets with
  | none => minimum.toNat
  | some octets => minimum.toNat + arrayNumber octets % ((maximum - minimum).toNat + 1)

def reschedule (update : Option TimerNotifyRequest) (octets : Option (OctetArray 4)) :
    RoutingTimerState :=
  let (minimum, maximum) := state.delayBounds update.isSome
  { state with
    scheduledUpdate := update
    notifyDeadlineMs := some (nowMs + UInt64.ofNat (randomBetween octets minimum maximum)) }

/-- A tag is only a name for a message, so a counter serves when no tag could be drawn. -/
def randomTag (tag : Option MessageTag) :
    RoutingTimerState × MessageTag :=
  match tag with
  | some tag => (state, tag)
  | none =>
    let fallbackTag := state.fallbackTag + 1
    ({ state with fallbackTag := fallbackTag }, numberArray 2 fallbackTag.toNat)

def beginSynchronisation : RoutingTimerState × TimerNotifyRequest :=
  let wait := (keeperUpdateNotifyMinMs : Int) + 12 * state.syncLatencyMs + 2 * state.latencyMs
  let (state, tag) := state.randomTag drawn.tag
  ({ state with
      synchronised := false
      synchronisationTag := some tag
      synchronisationDeadlineMs := nowMs + UInt64.ofNat wait.toNat
      counters := { state.counters with
        timerNotificationsSent := state.counters.timerNotificationsSent + 1 } },
    ⟨state.serialNumber, tag⟩)

def finishSynchronisation : RoutingTimerState :=
  { state with synchronisationTag := none, synchronised := true }.reschedule nowMs none octets

def advance (localValue received : Int) : RoutingTimerState :=
  if received ≤ localValue then state
  else
    { state with
      clockDifference := state.clockDifference + Int64.ofInt (received - localValue)
      counters := { state.counters with
        timerAdjustments := state.counters.timerAdjustments + 1 } }

/-- Whether a notification echoes the serial number and the tag of the pending request. -/
def answersRequest (notify : RoutingFrameIdentity) : Bool :=
  notify.serialNumber == state.serialNumber && state.synchronisationTag == some notify.messageTag

def onTimerNotify (notify : RoutingFrameIdentity) (drawn : Drawn) : RoutingTimerState :=
  if state.answersRequest notify then
    { state with
      clockDifference := notify.timerValue.toInt64 - nowMs.toInt64
      counters := { state.counters with
        timerAdjustments := state.counters.timerAdjustments + 1 } }.finishSynchronisation nowMs
          drawn.finishing
  else
    let localValue := signed (state.timerValue nowMs)
    let received := signed notify.timerValue
    if received > localValue - state.syncLatencyMs then
      -- another router keeps the time
      { state.advance localValue received with timekeeper := false }.reschedule nowMs none drawn.delay
    else if received ≤ localValue - state.latencyMs ∧ state.scheduledUpdate.isNone then
      state.reschedule nowMs (some ⟨notify.serialNumber, notify.messageTag⟩) drawn.delay
    else state

def remembered (frame : RoutingFrameIdentity) : Bool :=
  state.cache.slots.contains frame

def remember (frame : RoutingFrameIdentity) : RoutingTimerState :=
  { state with cache := state.cache.push frame }

def withCounters (update : Statistics → Statistics) :
    RoutingTimerState :=
  { state with counters := update state.counters }

def behind (timerValue : UInt64) : Bool :=
  decide (signed timerValue ≤ signed (state.timerValue nowMs) - state.latencyMs)

def onWrapper (wrap : RoutingFrameIdentity) (drawn : Drawn) :
    RoutingTimerState × WrapperVerdict :=
  if ¬ state.synchronised then
    (state.withCounters fun counters => { counters with replays := counters.replays + 1 },
      .unsynchronised)
  else if state.remembered wrap then
    (state.withCounters fun counters => { counters with duplicates := counters.duplicates + 1 },
      .duplicate)
  else
    let localValue := signed (state.timerValue nowMs)
    let received := signed wrap.timerValue
    if state.behind nowMs wrap.timerValue then
      let scheduled :=
        if state.scheduledUpdate.isNone then
          state.reschedule nowMs (some ⟨wrap.serialNumber, wrap.messageTag⟩) drawn.delay
        else state
      (scheduled.withCounters fun counters => { counters with replays := counters.replays + 1 },
        .outdated)
    else
      let scheduled :=
        if received > localValue - state.syncLatencyMs ∧ state.scheduledUpdate.isNone then
          state.reschedule nowMs none drawn.delay
        else state
      ((scheduled.advance localValue received).remember wrap, .accepted)

def onOutgoingWrapper : RoutingTimerState × UInt64 :=
  let state := if state.scheduledUpdate.isNone then state.reschedule nowMs none drawn.delay else state
  (state, state.timerValue nowMs)

/-- Nobody answered in time, so this router keeps the time from now on. -/
def endUnanswered : RoutingTimerState :=
  if state.synchronisationTag.isSome ∧ nowMs ≥ state.synchronisationDeadlineMs then
    { state with timekeeper := true }.finishSynchronisation nowMs drawn.finishing
  else state

/-- The notification that is due: the scheduled update, or a periodic one under a new tag. -/
def dueRequest : RoutingTimerState × TimerNotifyRequest :=
  match state.scheduledUpdate with
  | some update => (state, update)
  | none =>
    let (state, tag) := state.randomTag drawn.tag
    (state, ⟨state.serialNumber, tag⟩)

def takeDueNotify : RoutingTimerState × Option TimerNotifyRequest :=
  let state := state.endUnanswered nowMs drawn
  match state.notifyDeadlineMs with
  | none => (state, none)
  | some deadline =>
    if nowMs < deadline then (state, none)
    else
      let (state, req) := state.dueRequest drawn
      (({ state with timekeeper := true }.reschedule nowMs none drawn.delay).withCounters
        fun counters =>
          { counters with timerNotificationsSent := counters.timerNotificationsSent + 1 },
        some req)

def nextDeadlineMs : UInt64 :=
  let notify := state.notifyDeadlineMs.getD neverMs
  if state.synchronisationTag.isSome ∧ state.synchronisationDeadlineMs < notify then
    state.synchronisationDeadlineMs
  else notify

def reset : RoutingTimerState :=
  { state with
    clockDifference := 0
    synchronised := false
    timekeeper := false
    synchronisationTag := none
    synchronisationDeadlineMs := 0
    scheduledUpdate := none
    notifyDeadlineMs := none
    cache := state.cache.clear }

def noteRefused (why : Refusal) : RoutingTimerState :=
  state.withCounters fun counters =>
    match why with
    | .authentication =>
      { counters with authenticationFailures := counters.authenticationFailures + 1 }
    | .unencrypted => { counters with unencryptedRefused := counters.unencryptedRefused + 1 }
    | .service => { counters with refusedServices := counters.refusedServices + 1 }

end RoutingTimerState

end KmxAio.Knx.Secure
