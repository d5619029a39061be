import KmxAio.Lib.Run
import Mathlib.Data.List.Basic

/-!
# Notifications of a SOME/IP subscription

A notification is queued in the runtime until a call of `next` moves what is queued there into the
queue of the subscription and returns the first. Both queues drop their oldest notification when
they are full, and each has its own count of what it dropped. The runtime, with its count, lives
from one opening of the subscription to the next closing.
-/

namespace KmxAio.SomeIp

open KmxAio.Lib.Run

variable {Notification : Type}

structure Queue (Notification : Type) where
  events : List Notification := []
  dropped : Nat := 0
  deriving DecidableEq

namespace Queue

variable (capacity : Nat)

/-- The loop that makes room in a full queue. -/
def evict : List Notification → Nat → Queue Notification
  | [], dropped => ⟨[], dropped⟩
  | first :: rest, dropped =>
    if capacity ≤ rest.length + 1 then evict rest (dropped + 1) else ⟨first :: rest, dropped⟩

/-- What `enqueue` does with the queue of the subscription and `store_notification` with that of the
runtime. -/
def store (queue : Queue Notification) (note : Notification) : Queue Notification :=
  if capacity = 0 then { queue with dropped := queue.dropped + 1 }
  else
    let room := evict capacity queue.events queue.dropped
    { room with events := room.events ++ [note] }

theorem evict_conserves (events : List Notification) (dropped : Nat) :
    (evict capacity events dropped).events.Sublist events ∧
      (evict capacity events dropped).events.length + (evict capacity events dropped).dropped =
        events.length + dropped := by
  induction events generalizing dropped with
  | nil => exact ⟨.refl [], rfl⟩
  | cons first rest ih =>
    unfold evict
    split
    · obtain ⟨kept, counted⟩ := ih (dropped + 1)
      refine ⟨kept.cons first, ?_⟩
      rw [counted, List.length_cons]
      omega
    · exact ⟨.refl _, rfl⟩

theorem store_conserves (queue : Queue Notification) (note : Notification) :
    (store capacity queue note).events.Sublist (queue.events ++ [note]) ∧
      (store capacity queue note).events.length +
          (store capacity queue note).dropped =
        queue.events.length + queue.dropped + 1 := by
  unfold store
  split
  · exact ⟨List.sublist_append_left .., by simp only; omega⟩
  · obtain ⟨kept, counted⟩ := evict_conserves capacity queue.events queue.dropped
    refine ⟨kept.append_right [note], ?_⟩
    simp only [List.length_append, List.length_singleton]
    omega

end Queue

/-- How starting the runtime and subscribing turn out. -/
inductive Opening where
  | succeeds
  | startFails
  | requestFails
  deriving DecidableEq

/-- `accepted` and `returned` are what the runtime accepted and `next` returned since the last
opening, and `droppedBefore` is the count of the subscription at that time. -/
structure Subscription (Notification : Type) where
  capacity : Nat
  opened : Bool := false
  draining : Bool := false
  queue : Queue Notification := {}
  runtime : Option (Queue Notification) := none
  accepted : List Notification := []
  returned : List Notification := []
  droppedBefore : Nat := 0
  deriving DecidableEq

inductive SubscriptionEvent (Notification : Type) where
  | openWith (opening : Opening)
  | close
  | next
  | drain
  | notify (notification : Notification)
  deriving DecidableEq

namespace Subscription

variable (sub : Subscription Notification)

def droppedEvents : Nat :=
  sub.queue.dropped + (sub.runtime.map Queue.dropped).getD 0

def openWith : Opening → Subscription Notification
  | .startFails => { sub with runtime := some {} }
  | .requestFails => { sub with runtime := none }
  | .succeeds =>
    { sub with
      opened := true
      runtime := some {}
      accepted := []
      returned := []
      droppedBefore := sub.queue.dropped }

def close : Subscription Notification :=
  { sub with
    opened := false
    queue := { sub.queue with events := [] }
    runtime := none }

/-- The end of `next`: the first notification is returned, or none if nothing was kept. -/
def takeFirst : Subscription Notification :=
  match sub.queue.events with
  | [] => { sub with draining := false }
  | first :: rest =>
    { sub with
      draining := false
      queue := { sub.queue with events := rest }
      returned := sub.returned ++ [first] }

/-- One `next_event` of the runtime and one `enqueue`; without an event the loop ends with `stop`. -/
def moveOne (stop : Subscription Notification) : Subscription Notification :=
  match sub.runtime with
  | some { events := first :: rest, dropped } =>
    { sub with
      draining := true
      runtime := some ⟨rest, dropped⟩
      queue := sub.queue.store sub.capacity first }
  | _ => stop

/-- A call of `next` that empties the runtime is not interrupted by another call. -/
def step : SubscriptionEvent Notification → Subscription Notification
  | .openWith opening =>
    if sub.draining ∨ sub.opened then sub
    else sub.openWith opening
  | .close =>
    if sub.draining ∨ sub.opened = false then sub
    else sub.close
  | .next =>
    if sub.draining ∨ sub.opened = false then sub
    else if sub.queue.events = [] then sub.moveOne sub
    else sub.takeFirst
  | .drain =>
    if sub.draining then sub.moveOne sub.takeFirst else sub
  | .notify note =>
    match sub.opened, sub.runtime with
    | true, some runtime =>
      { sub with
        runtime := some (runtime.store sub.capacity note)
        accepted := sub.accepted ++ [note] }
    | _, _ => sub

/-- The runtime has dropped nothing when it is closed. -/
def CountKept : SubscriptionEvent Notification → Prop
  | .close => ∀ runtime, sub.runtime = some runtime → runtime.dropped = 0
  | _ => True

variable {sub} {runtime : Queue Notification}

/-- What was returned and what is queued are accepted notifications in their order, and the rest of
them were counted. -/
structure Live (sub : Subscription Notification) (runtime : Queue Notification) :
    Prop where
  present : sub.runtime = some runtime
  ordered : (sub.returned ++ sub.queue.events ++ runtime.events).Sublist sub.accepted
  counted : sub.returned.length + sub.queue.events.length +
    runtime.events.length + sub.droppedEvents = sub.accepted.length + sub.droppedBefore

structure Closed (sub : Subscription Notification) : Prop where
  closed : sub.opened = false
  idle : sub.draining = false
  empty : sub.queue.events = []
  dropped : sub.droppedEvents = sub.queue.dropped

def Conserved (sub : Subscription Notification) : Prop :=
  sub.Closed ∨ sub.opened = true ∧ ∃ runtime, sub.Live runtime

/-- The subscription stays live, and counts no less than before. -/
def Grows (before after : Subscription Notification) : Prop :=
  after.opened = before.opened ∧ (∃ runtime, after.Live runtime) ∧
    before.droppedEvents ≤ after.droppedEvents

theorem Live.takeFirst (live : sub.Live runtime) :
    sub.Grows sub.takeFirst := by
  obtain ⟨present, ordered, counted⟩ := live
  unfold Subscription.takeFirst
  split
  · exact ⟨rfl, ⟨runtime, present, ordered, counted⟩, Nat.le_refl _⟩
  · rename_i first rest line
    refine ⟨rfl, ⟨runtime, present, by simpa [line] using ordered, ?_⟩, Nat.le_refl _⟩
    simp only [line, droppedEvents, List.length_append, List.length_cons, List.length_nil]
      at counted ⊢
    omega

theorem Live.moveOne (live : sub.Live runtime) {stop : Subscription Notification}
    (stopped : sub.Grows stop) : sub.Grows (sub.moveOne stop) := by
  obtain ⟨present, ordered, counted⟩ := live
  obtain ⟨events, dropped⟩ := runtime
  cases events with
  | nil => simpa only [Subscription.moveOne, present] using stopped
  | cons first rest =>
    simp only [Subscription.moveOne, present]
    obtain ⟨kept, sum⟩ := Queue.store_conserves sub.capacity sub.queue first
    have shorter := kept.length_le
    refine ⟨rfl, ⟨_, rfl, ?_, ?_⟩, ?_⟩
    · refine ((kept.append_left _).append_right rest).trans ?_
      simpa using ordered
    · simp only [droppedEvents, present, Option.map_some, Option.getD_some, List.length_cons]
        at counted ⊢
      omega
    · simp only [droppedEvents, present, Option.map_some, Option.getD_some,
        List.length_append, List.length_singleton] at shorter ⊢
      omega

theorem Live.notify (live : sub.Live runtime) (opened : sub.opened = true) (note : Notification) :
    sub.Grows (sub.step (.notify note)) := by
  obtain ⟨present, ordered, counted⟩ := live
  simp only [step, opened, present]
  obtain ⟨kept, sum⟩ := Queue.store_conserves sub.capacity runtime note
  have shorter := kept.length_le
  refine ⟨opened.symm, ⟨_, rfl, ?_, ?_⟩, ?_⟩
  · refine (kept.append_left _).trans ?_
    rw [← List.append_assoc]
    exact ordered.append_right _
  · simp only [droppedEvents, present, Option.map_some, Option.getD_some, List.length_append,
      List.length_singleton] at counted ⊢
    omega
  · simp only [droppedEvents, present, Option.map_some, Option.getD_some,
      List.length_append, List.length_singleton] at shorter ⊢
    omega

theorem Closed.openWith (closed : sub.Closed) (opening : Opening) :
    (sub.openWith opening).Conserved ∧
      sub.droppedEvents ≤ (sub.openWith opening).droppedEvents := by
  obtain ⟨shut, idle, empty, dropped⟩ := closed
  rw [dropped]
  cases opening with
  | succeeds =>
    refine ⟨.inr ⟨rfl, _, rfl, ?_, ?_⟩, Nat.le_refl _⟩
    · simp [Subscription.openWith, empty]
    · simp [Subscription.openWith, empty, droppedEvents]
  | startFails => exact ⟨.inl ⟨shut, idle, empty, rfl⟩, Nat.le_refl _⟩
  | requestFails => exact ⟨.inl ⟨shut, idle, empty, rfl⟩, Nat.le_refl _⟩

theorem Conserved.step (conserved : sub.Conserved) (event : SubscriptionEvent Notification) :
    (sub.step event).Conserved ∧ (sub.CountKept event →
      sub.droppedEvents ≤ (sub.step event).droppedEvents) := by
  have stays : ∀ after, sub = after → after.Conserved ∧
      (sub.CountKept event → sub.droppedEvents ≤ after.droppedEvents) := by
    rintro _ rfl
    exact ⟨conserved, fun _ => Nat.le_refl _⟩
  rcases conserved with closed | ⟨opened, runtime, live⟩
  · have shut := closed.closed
    have idle := closed.idle
    cases event with
    | openWith opening =>
      have result := closed.openWith opening
      simp only [Subscription.step, shut, idle, Bool.false_eq_true, or_self, if_false]
      exact ⟨result.1, fun _ => result.2⟩
    | close | next | drain => exact stays _ (by simp [Subscription.step, shut, idle])
    | notify note => exact stays _ (by simp [Subscription.step, shut])
  · have grown : ∀ after, sub.Grows after → after.Conserved ∧
        (sub.CountKept event → sub.droppedEvents ≤ after.droppedEvents) :=
      fun after ⟨still, alive, more⟩ => ⟨.inr ⟨still.trans opened, alive⟩, fun _ => more⟩
    cases event with
    | openWith opening => exact stays _ (by simp [Subscription.step, opened])
    | notify note => exact grown _ (live.notify opened note)
    | drain =>
      simp only [Subscription.step]
      split
      · exact grown _ (live.moveOne live.takeFirst)
      · exact stays _ rfl
    | next =>
      simp only [Subscription.step]
      split
      · exact stays _ rfl
      split
      · exact grown _ (live.moveOne ⟨rfl, ⟨runtime, live⟩, Nat.le_refl _⟩)
      · exact grown _ live.takeFirst
    | close =>
      simp only [Subscription.step]
      split
      · exact stays _ rfl
      rename_i able
      simp only [opened, Bool.true_eq_false, or_false, Bool.not_eq_true] at able
      refine ⟨.inl ⟨rfl, able, rfl, rfl⟩, fun kept => ?_⟩
      simp [droppedEvents, live.present, kept runtime live.present, Subscription.close]

theorem conserved_run (conserved : sub.Conserved) (events : List (SubscriptionEvent Notification)) :
    (run step sub events).Conserved :=
  invariant_run (fun _ event conserved _ => (conserved.step event).1) conserved
    (admissible_of_events fun _ _ => trivial)

/-- While the subscription is open, every accepted notification was returned, in order, or is queued,
or was counted, each once; and the count does not decrease as long as the runtime is not closed
after it dropped something. -/
theorem notifications_conserved (capacity : Nat)
    (events later : List (SubscriptionEvent Notification)) :
    let sub := run step ({ capacity } : Subscription Notification) events
    (sub.opened = true → ∃ runtime, sub.Live runtime) ∧
      (Admissible step CountKept sub later →
        sub.droppedEvents ≤ (run step sub later).droppedEvents) := by
  intro sub
  have conserved : sub.Conserved := conserved_run (.inl ⟨rfl, rfl, rfl, rfl⟩) events
  constructor
  · intro opened
    rcases conserved with closed | ⟨_, live⟩
    · cases closed.closed.symm.trans opened
    · exact live
  · clear_value sub
    induction later generalizing sub with
    | nil => exact fun _ => Nat.le_refl _
    | cons event rest ih =>
      rintro ⟨kept, admissible⟩
      obtain ⟨next, more⟩ := conserved.step event
      exact Nat.le_trans (more kept) (ih _ next admissible)

theorem notifications_conserved_two :
    (run step ({ capacity := 1 } : Subscription Nat)
      [.openWith .succeeds, .notify 7, .next, .notify 8, .drain, .drain]).returned = [8] ∧
    ∃ runtime, (run step ({ capacity := 1 } : Subscription Nat)
      [.openWith .succeeds, .notify 7, .next, .notify 8, .drain, .drain]).Live runtime :=
  ⟨by decide, (notifications_conserved 1
    [.openWith .succeeds, .notify 7, .next, .notify 8, .drain, .drain] []).1 (by decide)⟩

/-- A notification the runtime dropped is forgotten when the subscription is closed. -/
theorem dropped_count_decreases :
    (run step ({ capacity := 1 } : Subscription Nat)
      [.openWith .succeeds, .notify 7, .notify 8]).droppedEvents = 1 ∧
    (run step ({ capacity := 1 } : Subscription Nat)
      [.openWith .succeeds, .notify 7, .notify 8, .close]).droppedEvents = 0 := by
  decide

end Subscription

end KmxAio.SomeIp
