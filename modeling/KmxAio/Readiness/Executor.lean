import Mathlib.Data.Finset.Basic

/-!
# The waiters of the readiness executor

A coroutine that finds its operation would block stores itself with the executor,
under the descriptor and the event it waits for, and is taken out again by an event,
by its deadline, or by a cancellation of the descriptor. Each of the functions here
is one section under the lock of the executor; the handles it takes out are resumed
after the lock is released.
-/

namespace KmxAio.Readiness

abbrev Fd := Int

inductive EventType where
  | read
  | write
  deriving DecidableEq

structure EventKey where
  fd : Fd
  type : EventType
  deriving DecidableEq

/-- A suspended coroutine: its handle, whether its frame has a flag for a passed deadline, and the
deadline, which is zero for a wait without one. -/
structure Waiter where
  handle : Nat
  timed : Bool := false
  deadlineMs : UInt32 := 0
  deriving DecidableEq

structure Subscription where
  key : EventKey
  waiter : Waiter
  deriving DecidableEq

/-- The queues of all keys as one list in arrival order, and the descriptors whose waits are
cancelled. -/
structure Executor where
  subscribers : List Subscription := []
  cancelledFds : Finset Fd := ∅
  deriving DecidableEq

namespace Executor

variable (executor : Executor) (key : EventKey)

def queue : List Waiter :=
  (executor.subscribers.filter (·.key = key)).map (·.waiter)

def subscribe (entry : Waiter) : Executor × Bool :=
  if key.fd ∈ executor.cancelledFds then (executor, false)
  else ({ executor with subscribers := executor.subscribers ++ [⟨key, entry⟩] }, true)

def resumeIfFound : Executor × Option Waiter :=
  match executor.subscribers.find? (·.key = key) with
  | none => (executor, none)
  | some first =>
    ({ executor with subscribers := executor.subscribers.eraseP (·.key = key) }, some first.waiter)

end Executor

def Waiter.expired (waiter : Waiter) (nowMs : UInt32) : Bool :=
  waiter.deadlineMs ≠ 0 ∧ (nowMs - waiter.deadlineMs).toInt32 ≥ 0

namespace Executor

variable (executor : Executor)

def expireWaiters (nowMs : UInt32) : Executor × List Waiter :=
  ({ executor with
      subscribers := executor.subscribers.filter (fun entry => !entry.waiter.expired nowMs) },
    (executor.subscribers.filter (fun entry => entry.waiter.expired nowMs)).map (·.waiter))

/-- Takes every waiter of a descriptor, those for reading first, and marks the descriptor when the
cancellation is to be remembered. -/
def cancelWaiters (fd : Fd) (remember : Bool) : Executor × List Waiter :=
  ({ subscribers := executor.subscribers.filter (fun entry => entry.key.fd ≠ fd)
     cancelledFds :=
       if remember then insert fd executor.cancelledFds else executor.cancelledFds },
    executor.queue ⟨fd, .read⟩ ++ executor.queue ⟨fd, .write⟩)

def cancelIo (fd : Fd) : Executor × List Waiter :=
  executor.cancelWaiters fd true

def unregisterFd (fd : Fd) : Executor × List Waiter :=
  executor.cancelWaiters fd false

def registerFd (fd : Fd) : Executor :=
  { executor with cancelledFds := executor.cancelledFds.erase fd }

theorem resumeIfFound_cases (executor : Executor) (key : EventKey) :
    (executor.resumeIfFound key = (executor, none) ∧
        ∀ entry ∈ executor.subscribers, entry.key ≠ key) ∨
      ∃ before waiter after, executor.subscribers = before ++ ⟨key, waiter⟩ :: after ∧
        (∀ entry ∈ before, entry.key ≠ key) ∧
        executor.resumeIfFound key =
          ({ executor with subscribers := before ++ after }, some waiter) := by
  unfold resumeIfFound
  cases found : executor.subscribers.find? (·.key = key) with
  | none =>
    refine .inl ⟨rfl, fun entry stored same => ?_⟩
    exact List.find?_eq_none.mp found entry stored (decide_eq_true same)
  | some first =>
    obtain ⟨named, before, after, split, unlike⟩ := List.find?_eq_some_iff_append.mp found
    have keyed : first.key = key := of_decide_eq_true named
    have others : ∀ entry ∈ before, entry.key ≠ key := by
      intro entry stored same
      have differs := unlike entry stored
      simp [same] at differs
    refine .inr ⟨before, first.waiter, after, ?_, others, ?_⟩
    · rw [split, ← keyed]
    · have erased : (first :: after).eraseP (fun entry => decide (entry.key = key)) = after :=
        List.eraseP_cons_of_pos named
      rw [split, List.eraseP_append_right _ (by simpa using others), erased]

theorem queue_of_append {before after : List Subscription} {cancelledFds : Finset Fd}
    {key : EventKey} (unlike : ∀ entry ∈ before, entry.key ≠ key) :
    (⟨before ++ after, cancelledFds⟩ : Executor).queue key =
      (⟨after, cancelledFds⟩ : Executor).queue key := by
  have none : before.filter (·.key = key) = [] := by
    simpa [List.filter_eq_nil_iff] using unlike
  rw [queue, queue, List.filter_append, none, List.nil_append]

theorem queue_of_split {executor : Executor} {key : EventKey} {waiter : Waiter}
    {before after : List Subscription}
    (split : executor.subscribers = before ++ ⟨key, waiter⟩ :: after)
    (unlike : ∀ entry ∈ before, entry.key ≠ key) :
    executor.queue key =
      waiter :: (⟨before ++ after, executor.cancelledFds⟩ : Executor).queue key := by
  obtain ⟨subscribers, cancelledFds⟩ := executor
  dsimp only at split
  rw [split, queue_of_append unlike, queue_of_append unlike]
  simp [queue]

end Executor

end KmxAio.Readiness
