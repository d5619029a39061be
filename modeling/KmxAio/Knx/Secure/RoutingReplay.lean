import KmxAio.Lib.Run
import KmxAio.Knx.Secure.RoutingTimerState

/-!
# Repeats on a secure routing group

The timer drops a wrapper it remembers, and it remembers as many of the wrappers
it accepted or sent as its cache has entries. A repeat is therefore caught while
the cache still holds it, or once its timer value has left the latency window;
between the two it is accepted again.
-/

namespace KmxAio.Knx.Secure

open Lib Lib.Run Lib.Wire

namespace RoutingTimerState

/-! ## What the calls keep -/

structure SameTolerance (before after : RoutingTimerState) : Prop where
  latency : after.latencyMs = before.latencyMs
  syncLatency : after.syncLatencyMs = before.syncLatencyMs

/-- Nothing that the value of the timer depends on has changed. -/
structure SameClock (before after : RoutingTimerState) : Prop extends
    SameTolerance before after where
  difference : after.clockDifference = before.clockDifference

structure Kept (before after : RoutingTimerState) : Prop extends SameClock before after where
  cache : after.cache = before.cache

theorem Kept.trans {before between after : RoutingTimerState} (first : Kept before between)
    (second : Kept between after) : Kept before after :=
  ⟨⟨⟨second.latency.trans first.latency, second.syncLatency.trans first.syncLatency⟩,
    second.difference.trans first.difference⟩, second.cache.trans first.cache⟩

variable (state : RoutingTimerState) (nowMs : UInt64) (drawn : Drawn)

theorem kept_refl : Kept state state := ⟨⟨⟨rfl, rfl⟩, rfl⟩, rfl⟩

theorem randomTag_kept (tag : Option MessageTag) : Kept state (state.randomTag tag).1 := by
  cases tag <;> exact ⟨⟨⟨rfl, rfl⟩, rfl⟩, rfl⟩

theorem beginSynchronisation_kept : Kept state (state.beginSynchronisation nowMs drawn).1 :=
  (randomTag_kept state drawn.tag).trans ⟨⟨⟨rfl, rfl⟩, rfl⟩, rfl⟩

theorem onOutgoingWrapper_kept : Kept state (state.onOutgoingWrapper nowMs drawn).1 := by
  unfold onOutgoingWrapper
  split
  · exact ⟨⟨⟨rfl, rfl⟩, rfl⟩, rfl⟩
  · exact kept_refl state

theorem dueRequest_kept : Kept state (state.dueRequest drawn).1 := by
  unfold dueRequest
  split
  · exact kept_refl state
  · exact randomTag_kept state drawn.tag

theorem endUnanswered_kept : Kept state (state.endUnanswered nowMs drawn) := by
  unfold endUnanswered
  split <;> exact ⟨⟨⟨rfl, rfl⟩, rfl⟩, rfl⟩

theorem takeDueNotify_kept : Kept state (state.takeDueNotify nowMs drawn).1 := by
  have ended := endUnanswered_kept state nowMs drawn
  unfold takeDueNotify
  dsimp only
  split
  · exact ended
  split
  · exact ended
  · exact (ended.trans (dueRequest_kept _ drawn)).trans ⟨⟨⟨rfl, rfl⟩, rfl⟩, rfl⟩

theorem advance_cache (localValue received : Int) :
    (state.advance localValue received).cache = state.cache := by
  unfold advance
  split <;> rfl

theorem onTimerNotify_cache (notify : RoutingFrameIdentity) (drawn : Drawn) :
    (state.onTimerNotify nowMs notify drawn).cache = state.cache := by
  unfold onTimerNotify
  split
  · rfl
  dsimp only
  split
  · exact advance_cache state _ _
  · split <;> rfl

def Delivers (state : RoutingTimerState) (nowMs : UInt64) (wrap : RoutingFrameIdentity) : Prop :=
  state.synchronised = true ∧ wrap ∉ state.cache.slots ∧ state.behind nowMs wrap.timerValue = false

theorem onWrapper_accepted_iff (wrap : RoutingFrameIdentity) (drawn : Drawn) :
    (state.onWrapper nowMs wrap drawn).2 = .accepted ↔ state.Delivers nowMs wrap := by
  unfold onWrapper Delivers remembered
  split
  · rename_i unsynchronised
    simp [unsynchronised]
  · rename_i synchronised
    have isSynchronised : state.synchronised = true := by simpa using synchronised
    split
    · rename_i held
      have member : wrap ∈ state.cache.slots := by simpa using held
      simp [member]
    · rename_i absent
      have missing : wrap ∉ state.cache.slots := by simpa using absent
      split
      · rename_i late
        simp [late]
      · rename_i inTime
        simp [isSynchronised, missing, inTime]

theorem onWrapper_cache (wrap : RoutingFrameIdentity) (drawn : Drawn) :
    (state.onWrapper nowMs wrap drawn).1.cache =
      if (state.onWrapper nowMs wrap drawn).2 = .accepted then state.cache.push wrap
      else state.cache := by
  unfold onWrapper
  split
  · rfl
  split
  · rfl
  · dsimp only
    split
    · split <;> rfl
    · unfold remember
      rw [advance_cache]
      split <;> rfl

end RoutingTimerState

/-! ## Runs between two resets -/

/-- A call on the timer, with the time and what the entropy source answers. -/
inductive TimerCall where
  | beginSynchronisation (nowMs : UInt64) (drawn : Drawn)
  | onTimerNotify (nowMs : UInt64) (notify : RoutingFrameIdentity) (drawn : Drawn)
  | onWrapper (nowMs : UInt64) (wrapper : RoutingFrameIdentity) (drawn : Drawn)
  | onOutgoingWrapper (nowMs : UInt64) (drawn : Drawn)
  | rememberSent (frame : RoutingFrameIdentity)
  | takeDueNotify (nowMs : UInt64) (drawn : Drawn)
  | noteRefused (reason : Refusal)

/-- A wrapper the timer was told to remember: one it accepted, or one its owner sent. -/
structure Remembered where
  identity : RoutingFrameIdentity
  accepted : Bool
  deriving DecidableEq

/-- A timer with everything it accepted and everything that was sent, in order. -/
structure TimerLog where
  state : RoutingTimerState
  history : List Remembered := []

variable (log : TimerLog)

def TimerLog.step : TimerCall → TimerLog
  | .beginSynchronisation nowMs drawn =>
    { log with state := (log.state.beginSynchronisation nowMs drawn).1 }
  | .onTimerNotify nowMs notify drawn =>
    { log with state := log.state.onTimerNotify nowMs notify drawn }
  | .onWrapper nowMs wrap drawn =>
    match log.state.onWrapper nowMs wrap drawn with
    | (state, .accepted) => ⟨state, log.history ++ [⟨wrap, true⟩]⟩
    | (state, _) => { log with state := state }
  | .onOutgoingWrapper nowMs drawn =>
    { log with state := (log.state.onOutgoingWrapper nowMs drawn).1 }
  | .rememberSent frame => ⟨log.state.remember frame, log.history ++ [⟨frame, false⟩]⟩
  | .takeDueNotify nowMs drawn => { log with state := (log.state.takeDueNotify nowMs drawn).1 }
  | .noteRefused why => { log with state := log.state.noteRefused why }

def TimerLog.identities : List RoutingFrameIdentity :=
  log.history.map Remembered.identity

/-- The entries about the router's own wrappers. -/
def Remembered.sent (entry : Remembered) : Bool := !entry.accepted

variable (known : Remembered → Bool)

/-- Nothing was accepted that a `known` earlier entry is about: with every entry known, that had
been accepted or sent before. -/
def TimerLog.NoRepeat : Prop :=
  log.history.Pairwise fun earlier later =>
    known earlier = true → later.accepted = true → earlier.identity ≠ later.identity

instance (log : TimerLog) : Decidable (log.NoRepeat known) :=
  inferInstanceAs (Decidable (List.Pairwise _ log.history))

/-- A wrapper that a `known` entry is about is still among the last identities, as many as the
cache has entries, or the timer does not deliver it whatever the cache holds. -/
def Retained : TimerCall → Prop
  | .onWrapper nowMs wrap _ =>
    (∃ entry ∈ log.history, known entry = true ∧ entry.identity = wrap) →
      wrap ∈ log.identities.rtake log.state.cache.size ∨ log.state.synchronised = false ∨
        log.state.behind nowMs wrap.timerValue = true
  | _ => True

instance (log : TimerLog) (call : TimerCall) : Decidable (Retained log known call) :=
  match call with
  | .onWrapper .. => inferInstanceAs (Decidable (_ → _))
  | .beginSynchronisation .. | .onTimerNotify .. | .onOutgoingWrapper .. | .rememberSent .. |
    .takeDueNotify .. | .noteRefused .. => .isTrue trivial

/-- What a call adds to the history: nothing, or one wrapper, which the cache then holds. -/
inductive TimerLog.Adds (log after : TimerLog) : Option Remembered → Prop where
  | nothing (history : after.history = log.history) (cache : after.state.cache = log.state.cache) :
      Adds log after none
  | one (entry : Remembered) (history : after.history = log.history ++ [entry])
      (cache : after.state.cache = log.state.cache.push entry.identity) :
      Adds log after (some entry)

def addedBy : TimerCall → Option Remembered
  | .onWrapper nowMs wrap drawn =>
    if (log.state.onWrapper nowMs wrap drawn).2 = .accepted then some ⟨wrap, true⟩ else none
  | .rememberSent frame => some ⟨frame, false⟩
  | _ => none

variable (call : TimerCall)

theorem step_adds : log.Adds (log.step call) (addedBy log call) := by
  cases call with
  | beginSynchronisation nowMs drawn =>
    exact .nothing rfl (log.state.beginSynchronisation_kept nowMs drawn).cache
  | onTimerNotify nowMs notify drawn =>
    exact .nothing rfl (log.state.onTimerNotify_cache nowMs notify drawn)
  | onOutgoingWrapper nowMs drawn =>
    exact .nothing rfl (log.state.onOutgoingWrapper_kept nowMs drawn).cache
  | takeDueNotify nowMs drawn => exact .nothing rfl (log.state.takeDueNotify_kept nowMs drawn).cache
  | noteRefused why => exact .nothing rfl rfl
  | rememberSent frame => exact .one ⟨frame, false⟩ rfl rfl
  | onWrapper nowMs wrap drawn =>
    have cache := log.state.onWrapper_cache nowMs wrap drawn
    dsimp only [addedBy, TimerLog.step]
    obtain ⟨state, verdict, returned⟩ :
        ∃ state verdict, log.state.onWrapper nowMs wrap drawn = (state, verdict) :=
      ⟨_, _, rfl⟩
    rw [returned] at cache ⊢
    cases verdict with
    | accepted => exact .one ⟨wrap, true⟩ rfl cache
    | duplicate | outdated | unsynchronised => exact .nothing rfl cache

def TimerLog.Recorded : Prop := log.state.cache.Records log.identities

theorem recorded_step (recorded : log.Recorded) : (log.step call).Recorded := by
  have adds := step_adds log call
  generalize addedBy log call = added at adds
  unfold TimerLog.Recorded TimerLog.identities at recorded ⊢
  cases adds with
  | nothing hist cache => rwa [hist, cache]
  | one entry hist cache =>
    rw [hist, cache, List.map_append]
    exact recorded.push entry.identity

theorem noRepeat_added {log after : TimerLog} {added : Option Remembered}
    (adds : log.Adds after added) :
    after.NoRepeat known ↔ log.NoRepeat known ∧
      ∀ entry, added = some entry → entry.accepted = true →
        ¬ ∃ earlier ∈ log.history, known earlier = true ∧ earlier.identity = entry.identity := by
  unfold TimerLog.NoRepeat
  cases adds with
  | nothing hist cache => simp [hist]
  | one entry hist cache =>
    rw [hist, List.pairwise_append]
    simp only [List.pairwise_singleton, List.mem_singleton, forall_eq, true_and,
      Option.some.injEq, forall_eq', not_exists, not_and]
    refine and_congr_right fun _ => ?_
    constructor
    · intro apart accepted earlier present among
      exact apart earlier present among accepted
    · intro apart earlier present among accepted
      exact apart accepted earlier present among

/-- A step repeats nothing exactly when the wrapper it is given, if it is a known one, is retained. -/
theorem noRepeat_step_iff (recorded : log.Recorded) (noRepeat : log.NoRepeat known) :
    (log.step call).NoRepeat known ↔ Retained log known call := by
  rw [noRepeat_added known (step_adds log call)]
  cases call with
  | onWrapper nowMs wrap drawn =>
    have held := recorded.mem_iff wrap
    have accepts := log.state.onWrapper_accepted_iff nowMs wrap drawn
    simp only [addedBy, Retained, noRepeat, true_and]
    by_cases accepted : (log.state.onWrapper nowMs wrap drawn).2 = .accepted
    · obtain ⟨synchronised, missing, inTime⟩ := accepts.mp accepted
      rw [held] at missing
      simp [accepted, synchronised, missing, inTime]
    · have refused := fun delivers => accepted (accepts.mpr delivers)
      simp only [accepted, if_false]
      refine iff_of_true nofun fun _ => ?_
      by_contra escaped
      push Not at escaped
      obtain ⟨missing, synchronised, inTime⟩ := escaped
      refine refused ⟨by simpa using synchronised, ?_, by simpa using inTime⟩
      rwa [held]
  | rememberSent frame | beginSynchronisation nowMs drawn | onTimerNotify nowMs notify drawn
  | onOutgoingWrapper nowMs drawn | takeDueNotify nowMs drawn | noteRefused why =>
    simp [addedBy, Retained, noRepeat]

/-- From a timer that remembers nothing yet, a run accepts no wrapper that a known entry is about
exactly when every wrapper it is given is retained: for all that was accepted or sent before, and
for the router's own traffic alone. -/
theorem no_repeat_iff_retained (state : RoutingTimerState) (calls : List TimerCall)
    (unused : state.cache.slots = []) :
    (run TimerLog.step ⟨state, []⟩ calls).NoRepeat known ↔
      Admissible TimerLog.step (Retained · known) ⟨state, []⟩ calls := by
  refine holds_iff_admissible recorded_step ?_ (noRepeat_step_iff · known) ?_ ?_
  · intro log call still
    exact ((noRepeat_added known (step_adds log call)).mp still).1
  · exact RingBuffer.records_nil unused
  · exact List.Pairwise.nil

/-! ## A group of two routers -/

def routerTimer (duplicateCacheEntries : UInt16) : RoutingTimerState :=
  RoutingTimerState.make 1000 ⟨[0x00, 0xFA, 0x00, 0x00, 0x00, 0x01], rfl⟩ duplicateCacheEntries

def ownWrapper : RoutingFrameIdentity :=
  ⟨4000, ⟨[0x00, 0xFA, 0x00, 0x00, 0x00, 0x01], rfl⟩, ⟨[0xA1, 0xA2], rfl⟩⟩

def otherWrapper : RoutingFrameIdentity :=
  ⟨4010, ⟨[0x00, 0xFA, 0x00, 0x00, 0x00, 0x02], rfl⟩, ⟨[0xB1, 0xB2], rfl⟩⟩

/-- Nobody answers the synchronisation request. The router sends, hears the other one, and gets its
own wrapper back within the latency tolerance. -/
def reflectedCalls : List TimerCall :=
  [.beginSynchronisation 0 {}, .takeDueNotify 4000 {}, .onOutgoingWrapper 4000 {},
    .rememberSent ownWrapper, .onWrapper 4010 otherWrapper {}, .onWrapper 4020 ownWrapper {}]

theorem no_repeat_iff_retained_reflected :
    Admissible TimerLog.step (Retained · Remembered.sent) ⟨routerTimer 2, []⟩ reflectedCalls ∧
      ((run TimerLog.step ⟨routerTimer 2, []⟩ reflectedCalls).NoRepeat Remembered.sent ↔
        Admissible TimerLog.step (Retained · Remembered.sent) ⟨routerTimer 2, []⟩
          reflectedCalls) :=
  ⟨by decide +kernel, no_repeat_iff_retained Remembered.sent (routerTimer 2) reflectedCalls rfl⟩

/-- A cache of one entry has forgotten the own wrapper by then: the router accepts it. -/
theorem own_wrapper_accepted :
    (run TimerLog.step ⟨routerTimer 1, []⟩ reflectedCalls).history =
        [⟨ownWrapper, false⟩, ⟨otherWrapper, true⟩, ⟨ownWrapper, true⟩] ∧
      ¬ (run TimerLog.step ⟨routerTimer 1, []⟩ reflectedCalls).NoRepeat Remembered.sent := by
  decide +kernel

end KmxAio.Knx.Secure
