import Mathlib.Logic.Function.Basic
import KmxAio.Lib.Run
import KmxAio.Readiness.Executor

/-!
# Readiness that nobody waits for yet

A coroutine tries its operation, sees that it would block, and then subscribes. The
event loop runs on its own thread and hands an event to whoever is subscribed at
that moment. Between the two steps of the coroutine an event can arrive and be
dispatched to nobody, and since descriptors are registered edge-triggered no other
one follows.
-/

namespace KmxAio.Readiness

open Lib.Run Function

structure EventMask where
  input : Bool := false
  output : Bool := false
  error : Bool := false
  hangup : Bool := false
  deriving DecidableEq

def EventMask.readable (mask : EventMask) : Bool := mask.input || mask.error || mask.hangup

def EventMask.writable (mask : EventMask) : Bool := mask.output || mask.error || mask.hangup

def EventMask.including (mask : EventMask) : EventType → EventMask
  | .read => { mask with input := true }
  | .write => { mask with output := true }

structure PollEvent where
  fd : Fd
  events : EventMask
  deriving DecidableEq

def PollEvent.keys (event : PollEvent) : List EventKey :=
  (if event.events.readable then [⟨event.fd, .read⟩] else []) ++
    (if event.events.writable then [⟨event.fd, .write⟩] else [])

inductive Activity where
  /-- It runs, and may try any operation. -/
  | idle
  /-- It saw that an operation would block and has not called `wait_io` yet. -/
  | blocked (key : EventKey)
  /-- It is parked in `wait_io`. -/
  | parked (key : EventKey)
  /-- It was handed to the scheduler and will try its operation again. -/
  | scheduled (key : EventKey)
  deriving DecidableEq

structure Coroutine where
  handle : Nat
  activity : Activity := .idle
  deriving DecidableEq

structure System where
  executor : Executor := {}
  /-- How much of an operation would succeed: octets, space or connections. -/
  available : EventKey → Nat
  /-- The events the kernel has queued. -/
  queued : List PollEvent := []
  /-- The keys of the events the loop has taken that are still to be dispatched. -/
  dispatching : List EventKey := []
  coroutines : List Coroutine

inductive SystemEvent where
  /-- Something new arrives for a key, and the kernel queues an event for it. -/
  | arrive (key : EventKey) (amount : Nat) (others : EventMask)
  /-- `epoll_wait` returns events. -/
  | take (count : Nat)
  /-- The loop dispatches the next key. -/
  | dispatch
  /-- A coroutine tries an operation, which takes up to an amount when it succeeds. -/
  | attempt (handle : Nat) (key : EventKey) (amount : Nat)
  /-- A coroutine that saw its operation would block calls `wait_io`. -/
  | wait (handle : Nat)

namespace System

variable (sys : System) (handle : Nat) (key : EventKey)

def activityOf : Option Activity :=
  (sys.coroutines.find? (·.handle = handle)).map (·.activity)

def setActivity (activity : Activity) (coroutines : List Coroutine) : List Coroutine :=
  coroutines.map (fun coroutine =>
    if coroutine.handle = handle then { coroutine with activity := activity } else coroutine)

/-- A coroutine that runs tries what it likes, one that was resumed what it waited for. -/
def mayAttempt : Bool :=
  sys.activityOf handle = some .idle ∨ sys.activityOf handle = some (.scheduled key)

def arrive (amount : Nat) (others : EventMask) : System :=
  { sys with
    available := update sys.available key (sys.available key + amount)
    queued := sys.queued ++ [⟨key.fd, others.including key.type⟩] }

/-- The loop waits again only once it has dispatched what it took. -/
def take (count : Nat) : System :=
  if sys.dispatching = [] then
    { sys with
      queued := sys.queued.drop count
      dispatching := (sys.queued.take count).flatMap PollEvent.keys }
  else sys

def dispatch : System :=
  match sys.dispatching with
  | [] => sys
  | key :: rest =>
    match sys.executor.resumeIfFound key with
    | (executor, none) => { sys with executor := executor, dispatching := rest }
    | (executor, some waiter) =>
      { sys with
        executor := executor
        dispatching := rest
        coroutines := setActivity waiter.handle (.scheduled key) sys.coroutines }

def attempt (amount : Nat) : System :=
  if sys.mayAttempt handle key then
    if sys.available key = 0 then
      { sys with coroutines := setActivity handle (.blocked key) sys.coroutines }
    else
      { sys with
        available := update sys.available key (sys.available key - amount)
        coroutines := setActivity handle .idle sys.coroutines }
  else sys

/-- A wait that is refused returns to the coroutine as cancelled. -/
def wait : System :=
  match sys.activityOf handle with
  | some (.blocked key) =>
    match sys.executor.subscribe key { handle := handle } with
    | (executor, true) =>
      { sys with
        executor := executor
        coroutines := setActivity handle (.parked key) sys.coroutines }
    | (executor, false) =>
      { sys with
        executor := executor
        coroutines := setActivity handle .idle sys.coroutines }
  | _ => sys

def step : SystemEvent → System
  | .arrive key amount others => sys.arrive key amount others
  | .take count => sys.take count
  | .dispatch => sys.dispatch
  | .attempt handle key amount => sys.attempt handle key amount
  | .wait handle => sys.wait handle

variable (handles : List Nat)

variable (available : EventKey → Nat)

/-- Some coroutines that run, over descriptors in any state and no event queued. -/
def start : System :=
  { available := available, coroutines := handles.map (fun handle => ⟨handle, .idle⟩) }

/-! ## Lost readiness -/

/-- The operation would succeed, no event of the descriptor is on its way, and a coroutine is parked
for it. -/
def Lost : Prop :=
  0 < sys.available key ∧ (∀ event ∈ sys.queued, event.fd ≠ key.fd) ∧
    (∀ pending ∈ sys.dispatching, pending.fd ≠ key.fd) ∧
    ∃ entry ∈ sys.executor.subscribers, entry.key = key

instance (sys : System) (key : EventKey) : Decidable (sys.Lost key) :=
  inferInstanceAs (Decidable (_ ∧ _ ∧ _ ∧ _))

def Wanted : Prop :=
  (∃ entry ∈ sys.executor.subscribers, entry.key = key) ∨
    ∃ coroutine ∈ sys.coroutines, coroutine.activity = .blocked key

def Announced : Prop :=
  key ∈ sys.dispatching ∨ ∃ event ∈ sys.queued, key ∈ event.keys

def Noticed : Prop :=
  ∀ key, sys.Wanted key → 0 < sys.available key → sys.Announced key

/-- When an event is dispatched, no coroutine is between seeing that the operation would block and
its subscription, and at most one is subscribed. -/
def Settled : SystemEvent → Prop
  | .dispatch => ∀ key ∈ sys.dispatching.head?,
      (∀ coroutine ∈ sys.coroutines, coroutine.activity ≠ .blocked key) ∧
        (sys.executor.queue key).length ≤ 1
  | _ => True

instance (sys : System) (event : SystemEvent) : Decidable (sys.Settled event) :=
  match event with
  | .dispatch => inferInstanceAs (Decidable (∀ key ∈ sys.dispatching.head?, _ ∧ _))
  | .arrive .. | .take _ | .attempt .. | .wait _ => inferInstanceAs (Decidable True)

/-! ## Steps -/

variable {key} {handle} {activity : Activity} {coroutines : List Coroutine}

section

variable
  (blocked : ∃ coroutine ∈ setActivity handle activity coroutines, coroutine.activity = .blocked key)

include blocked

theorem blocked_of_setActivity :
    activity = .blocked key ∨ ∃ coroutine ∈ coroutines, coroutine.activity = .blocked key := by
  obtain ⟨coroutine, listed, isBlocked⟩ := blocked
  obtain ⟨old, present, rfl⟩ := List.mem_map.mp listed
  split at isBlocked
  · exact .inl isBlocked
  · exact .inr ⟨old, present, isBlocked⟩

theorem blocked_of_unblocked (unblocked : activity ≠ .blocked key) :
    ∃ coroutine ∈ coroutines, coroutine.activity = .blocked key :=
  (blocked_of_setActivity blocked).resolve_left unblocked

end

variable {sys}

section

variable (noticed : sys.Noticed)

include noticed

theorem Noticed.mono {after : System}
    (wanted : ∀ key, after.Wanted key → 0 < after.available key → sys.Wanted key)
    (less : ∀ key, after.available key ≤ sys.available key)
    (announced : ∀ key, sys.Announced key → after.Announced key) : after.Noticed := by
  intro key isWanted positive
  exact announced key (noticed key (wanted key isWanted positive)
    (Nat.lt_of_lt_of_le positive (less key)))

theorem Noticed.arrive (key : EventKey) (amount : Nat) (others : EventMask) :
    (sys.arrive key amount others).Noticed := by
  intro other wanted positive
  unfold System.arrive at positive
  dsimp only at positive
  by_cases same : other = key
  · subst same
    refine .inr ⟨_, List.mem_append_right _ (List.mem_singleton_self _), ?_⟩
    obtain ⟨fd, type⟩ := other
    cases type with
    | read => simp [PollEvent.keys, EventMask.including, EventMask.readable]
    | write => simp [PollEvent.keys, EventMask.including, EventMask.writable]
  · rw [update_of_ne same] at positive
    rcases noticed other wanted positive with dispatching | ⟨event, queued, covers⟩
    · exact .inl dispatching
    · exact .inr ⟨event, List.mem_append_left _ queued, covers⟩

theorem Noticed.take (count : Nat) : (sys.take count).Noticed := by
  unfold System.take
  split
  · rename_i finished
    refine noticed.mono (fun _ wanted _ => wanted) (fun _ => Nat.le_refl _) ?_
    rintro key (dispatching | ⟨event, queued, covers⟩)
    · rw [finished] at dispatching
      cases dispatching
    · rw [← List.take_append_drop count sys.queued] at queued
      rcases List.mem_append.mp queued with taken | left
      · exact .inl (List.mem_flatMap.mpr ⟨event, taken, covers⟩)
      · exact .inr ⟨event, left, covers⟩
  · exact noticed

theorem Noticed.attempt (handle : Nat) (key : EventKey) (amount : Nat) :
    (sys.attempt handle key amount).Noticed := by
  unfold System.attempt
  split
  · split
    · rename_i nothing
      refine noticed.mono ?_ (fun _ => Nat.le_refl _) (fun _ announced => announced)
      rintro other (subscribed | blocked) positive
      · exact .inl subscribed
      · rcases blocked_of_setActivity blocked with itself | earlier
        · cases itself
          dsimp only at positive
          omega
        · exact .inr earlier
    · refine noticed.mono ?_ (fun other => ?_) (fun _ announced => announced)
      · rintro other (subscribed | still) _
        · exact .inl subscribed
        · exact .inr (blocked_of_unblocked still nofun)
      · dsimp only
        by_cases same : other = key
        · subst same
          rw [update_self]
          exact Nat.sub_le _ _
        · rw [update_of_ne same]
  · exact noticed

theorem Noticed.wait (handle : Nat) : (sys.wait handle).Noticed := by
  unfold System.wait
  split
  · rename_i key current
    have blocked : ∃ coroutine ∈ sys.coroutines, coroutine.activity = (Activity.blocked key) := by
      obtain ⟨coroutine, found, same⟩ := Option.map_eq_some_iff.mp current
      exact ⟨coroutine, List.mem_of_find?_eq_some found, same⟩
    unfold Executor.subscribe
    split_ifs
    · refine noticed.mono ?_ (fun _ => Nat.le_refl _) (fun _ announced => announced)
      rintro other (subscribed | still) _
      · exact .inl subscribed
      · exact .inr (blocked_of_unblocked still nofun)
    · refine noticed.mono ?_ (fun _ => Nat.le_refl _) (fun _ announced => announced)
      rintro other (⟨entry, stored, same⟩ | still) _
      · rcases List.mem_append.mp stored with old | new
        · exact .inl ⟨entry, old, same⟩
        · rw [List.mem_singleton.mp new] at same
          exact .inr (same ▸ blocked)
      · exact .inr (blocked_of_unblocked still nofun)
  · exact noticed

theorem Noticed.dispatch (settled : sys.Settled .dispatch) : sys.dispatch.Noticed := by
  unfold System.dispatch
  split
  · exact noticed
  rename_i key rest pending
  obtain ⟨unblocked, single⟩ := settled key (by rw [pending]; rfl)
  -- events of other keys stay on their way
  have remaining : ∀ other, other ≠ key → sys.Announced other →
      other ∈ rest ∨ ∃ event ∈ sys.queued, other ∈ event.keys := by
    rintro other different (dispatching | queued)
    · rw [pending] at dispatching
      exact .inl ((List.mem_cons.mp dispatching).resolve_left different)
    · exact .inr queued
  rcases sys.executor.resumeIfFound_cases key with
    ⟨nobody, unlike⟩ | ⟨before, waiter, after, split, earlier, found⟩
  · rw [nobody]
    intro other wanted positive
    have different : other ≠ key := by
      rintro rfl
      rcases wanted with ⟨entry, stored, same⟩ | ⟨coroutine, listed, blocked⟩
      · exact unlike entry stored same
      · exact unblocked coroutine listed blocked
    exact remaining other different (noticed other wanted positive)
  · rw [found]
    have alone : ∀ entry ∈ after, entry.key ≠ key := by
      intro entry stored same
      rw [Executor.queue_of_split split earlier, List.length_cons] at single
      have others : entry.waiter ∈
          (⟨before ++ after, sys.executor.cancelledFds⟩ : Executor).queue key :=
        List.mem_map_of_mem (List.mem_filter.mpr
          ⟨List.mem_append_right _ stored, decide_eq_true same⟩)
      exact absurd (List.length_pos_of_mem others) (by omega)
    intro other wanted positive
    have was : sys.Wanted other ∧ other ≠ key := by
      rcases wanted with ⟨entry, stored, rfl⟩ | blocked
      · rcases List.mem_append.mp stored with first | second
        · exact ⟨.inl ⟨entry, split ▸ List.mem_append_left _ first, rfl⟩, earlier entry first⟩
        · exact ⟨.inl ⟨entry, split ▸ List.mem_append_right _ (List.mem_cons_of_mem _ second), rfl⟩,
            alone entry second⟩
      · obtain ⟨coroutine, listed, isBlocked⟩ := blocked_of_unblocked blocked nofun
        refine ⟨.inr ⟨coroutine, listed, isBlocked⟩, ?_⟩
        rintro rfl
        exact unblocked coroutine listed isBlocked
    exact remaining other was.2 (noticed other was.1 positive)

theorem Noticed.step (event : SystemEvent) (settled : sys.Settled event) :
    (sys.step event).Noticed := by
  cases event with
  | arrive key amount others => exact noticed.arrive key amount others
  | take count => exact noticed.take count
  | dispatch => exact noticed.dispatch settled
  | attempt handle key amount => exact noticed.attempt handle key amount
  | wait handle => exact noticed.wait handle

end

theorem start_noticed :
    (start handles available).Noticed := by
  rintro key (⟨entry, stored, -⟩ | ⟨coroutine, listed, blocked⟩) _
  · cases stored
  · obtain ⟨handle, -, rfl⟩ := List.mem_map.mp listed
    cases blocked

/-- In every run in which no event is dispatched while a coroutine is about to subscribe to it or
more than one is subscribed, no readiness is ever lost. -/
theorem no_readiness_lost
    (events : List SystemEvent)
    (settled : Admissible step Settled (start handles available) events) (key : EventKey) :
    ¬ (run step (start handles available) events).Lost key := by
  have noticed := invariant_run (fun _ event noticed allowed => noticed.step event allowed)
      (start_noticed handles available) settled
  rintro ⟨positive, unqueued, undispatched, subscribed⟩
  rcases noticed key (.inl subscribed) positive with dispatching | ⟨event, queued, covers⟩
  · exact undispatched key dispatching rfl
  · refine unqueued event queued ?_
    rcases List.mem_append.mp covers with reading | writing
    · split at reading
      · rw [List.mem_singleton.mp reading]
      · cases reading
    · split at writing
      · rw [List.mem_singleton.mp writing]
      · cases writing

def readingFive : EventKey := ⟨5, .read⟩

def readTwice : List SystemEvent :=
  [.attempt 0 readingFive 1, .wait 0, .arrive readingFive 1 {}, .take 8, .dispatch,
    .attempt 0 readingFive 1, .attempt 0 readingFive 1, .wait 0]

theorem no_readiness_lost_twice :
    (run step (start [0] fun _ => 0) readTwice).executor.queue readingFive = [⟨0, false, 0⟩] ∧
      ¬ (run step (start [0] fun _ => 0) readTwice).Lost readingFive :=
  ⟨by decide, no_readiness_lost [0] (fun _ => 0) readTwice (by decide) readingFive⟩

/-- The event of what arrives is dispatched before the coroutine subscribes: it parks with data to
read and nothing to wake it. -/
theorem readiness_lost_before_subscription : (run step (start [0] fun _ => 0)
      [.attempt 0 readingFive 1, .arrive readingFive 1 {}, .take 8, .dispatch, .wait 0]).Lost
      readingFive := by
  decide

end System

end KmxAio.Readiness
