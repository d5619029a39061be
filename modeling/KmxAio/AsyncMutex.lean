import KmxAio.Lib.Run
import Mathlib.Data.List.Basic

/-!
# The mutex of coroutines

A coroutine that finds the mutex held joins a queue; whoever gives the mutex up hands it to the
first in the queue and resumes that coroutine. Every call changes the mutex in one locked step, so
a run is any sequence of such steps, those of a resumed coroutine included.
-/

namespace KmxAio

open KmxAio.Lib.Run

variable {Coroutine : Type}

structure AsyncMutex (Coroutine : Type) where
  held : Bool := false
  holder : Option Coroutine := none
  waiters : List Coroutine := []
  deriving DecidableEq

namespace AsyncMutex

variable (mutex : AsyncMutex Coroutine)

def tryLock : AsyncMutex Coroutine × Bool :=
  if mutex.held then (mutex, false) else ({ mutex with held := true, holder := none }, true)

/-- Whether the coroutine stays suspended. -/
def acquireOrEnqueue (handle : Coroutine) : AsyncMutex Coroutine × Bool :=
  if mutex.held then ({ mutex with waiters := mutex.waiters ++ [handle] }, true)
  else ({ mutex with held := true, holder := some handle }, false)

/-- The coroutine to resume, if one was waiting. -/
def unlock : AsyncMutex Coroutine × Option Coroutine :=
  match mutex.waiters with
  | [] => ({ mutex with held := false, holder := none }, none)
  | next :: waiters => ({ mutex with holder := some next, waiters := waiters }, some next)

/-- The mutex, who has obtained it and not given it up (a coroutine through `lock`, nobody named
through `try_lock`), and the coroutines that ever queued and that were granted it from the queue. -/
structure System (Coroutine : Type) where
  mutex : AsyncMutex Coroutine := {}
  owners : List (Option Coroutine) := []
  queued : List Coroutine := []
  granted : List Coroutine := []
  deriving DecidableEq

inductive Event (Coroutine : Type) where
  | lock (handle : Coroutine)
  | tryLock
  | unlock (owner : Option Coroutine)
  deriving DecidableEq

namespace System

variable [DecidableEq Coroutine]

/-- A coroutine that does not suspend, a successful `try_lock` and a resumed coroutine own it. -/
def step (sys : System Coroutine) : Event Coroutine → System Coroutine
  | .lock handle =>
    match sys.mutex.acquireOrEnqueue handle with
    | (mutex, true) => { sys with mutex := mutex, queued := sys.queued ++ [handle] }
    | (mutex, false) => { sys with mutex := mutex, owners := sys.owners ++ [some handle] }
  | .tryLock =>
    match sys.mutex.tryLock with
    | (mutex, true) => { sys with mutex := mutex, owners := sys.owners ++ [none] }
    | (mutex, false) => { sys with mutex := mutex }
  | .unlock owner =>
    match sys.mutex.unlock with
    | (mutex, none) => { sys with mutex := mutex, owners := sys.owners.erase owner }
    | (mutex, some next) =>
      { sys with
        mutex := mutex
        owners := sys.owners.erase owner ++ [some next]
        granted := sys.granted ++ [next] }

/-- Only an owner calls `unlock`. -/
def Permitted (sys : System Coroutine) : Event Coroutine → Prop
  | .unlock owner => owner ∈ sys.owners
  | _ => True

structure Fair (sys : System Coroutine) : Prop where
  owners : sys.owners = if sys.mutex.held then [sys.mutex.holder] else []
  free : sys.mutex.held = false → sys.mutex.holder = none ∧ sys.mutex.waiters = []
  order : sys.granted ++ sys.mutex.waiters = sys.queued

variable {sys : System Coroutine}

theorem Fair.lock (fair : sys.Fair) (handle : Coroutine) :
    (sys.step (.lock handle)).Fair := by
  obtain ⟨owners, free, order⟩ := fair
  simp only [step, acquireOrEnqueue]
  cases held : sys.mutex.held with
  | true =>
    rw [held] at owners
    exact ⟨owners, fun notHeld => (by cases notHeld), by simp [← order]⟩
  | false =>
    rw [held] at owners
    exact ⟨by simp [owners], fun notHeld => (by cases notHeld), order⟩

theorem Fair.tryLock (fair : sys.Fair) : (sys.step .tryLock).Fair := by
  obtain ⟨owners, free, order⟩ := fair
  simp only [step, AsyncMutex.tryLock]
  cases held : sys.mutex.held with
  | true => exact ⟨owners, free, order⟩
  | false =>
    rw [held] at owners
    exact ⟨by simp [owners], fun notHeld => (by cases notHeld), order⟩

theorem Fair.unlock (fair : sys.Fair) {owner : Option Coroutine}
    (owned : owner ∈ sys.owners) : (sys.step (.unlock owner)).Fair := by
  obtain ⟨owners, free, order⟩ := fair
  have held : sys.mutex.held = true := by
    by_contra notHeld
    simp [owners, notHeld] at owned
  rw [held, if_pos rfl] at owners
  rw [owners, List.mem_singleton] at owned
  simp only [step, AsyncMutex.unlock]
  cases line : sys.mutex.waiters with
  | nil =>
    rw [line] at order
    exact ⟨by simp [owners, owned], fun _ => ⟨rfl, rfl⟩, order⟩
  | cons next waiters =>
    refine ⟨by simp [owners, owned, held], fun notHeld => ?_, by simp [← order, line]⟩
    cases held.symm.trans notHeld

theorem Fair.run {events : List (Event Coroutine)}
    (permitted : Admissible step Permitted ({} : System Coroutine) events) :
    (run step {} events).Fair := by
  refine invariant_run ?_ ⟨rfl, fun _ => ⟨rfl, rfl⟩, rfl⟩ permitted
  intro sys event fair allowed
  cases event with
  | lock handle => exact fair.lock handle
  | tryLock => exact fair.tryLock
  | unlock owner => exact fair.unlock allowed

/-- After every run there is at most one owner, the mutex is held exactly while there is one and
names it, the queue is served in its order, and while it is not empty no newcomer gets ahead. -/
theorem mutex_handed_over_fairly (events : List (Event Coroutine))
    (permitted : Admissible step Permitted ({} : System Coroutine) events) :
    let sys := run step ({} : System Coroutine) events
    sys.owners.length ≤ 1 ∧ (sys.mutex.held = true ↔ sys.owners ≠ []) ∧
      sys.mutex.holder = sys.owners.head?.join ∧
      sys.granted ++ sys.mutex.waiters = sys.queued ∧
      (sys.mutex.waiters ≠ [] → sys.mutex.tryLock = (sys.mutex, false) ∧
        ∀ handle, sys.mutex.acquireOrEnqueue handle =
          ({ sys.mutex with waiters := sys.mutex.waiters ++ [handle] }, true)) := by
  intro sys
  obtain ⟨owners, free, order⟩ : sys.Fair := Fair.run permitted
  cases held : sys.mutex.held with
  | true =>
    rw [held, if_pos rfl] at owners
    rw [owners]
    refine ⟨Nat.le_refl 1, by simp, rfl, order, fun _ => ?_⟩
    exact ⟨by simp [AsyncMutex.tryLock, held], by simp [acquireOrEnqueue, held]⟩
  | false =>
    rw [held, if_neg Bool.false_ne_true] at owners
    obtain ⟨nobody, empty⟩ := free held
    rw [owners]
    exact ⟨Nat.zero_le 1, by simp, nobody, order, fun waited => absurd empty waited⟩

theorem mutex_handed_over_fairly_twice :
    (run step ({} : System Nat)
      [.lock 1, .lock 2, .tryLock, .unlock (some 1), .unlock (some 2)]).granted = [2] ∧
    (run step ({} : System Nat)
      [.lock 1, .lock 2, .tryLock, .unlock (some 1), .unlock (some 2)]).owners.length ≤ 1 :=
  ⟨by decide, (@mutex_handed_over_fairly Nat _
    [.lock 1, .lock 2, .tryLock, .unlock (some 1), .unlock (some 2)]
    ⟨trivial, trivial, trivial, List.mem_singleton_self _, List.mem_singleton_self _, trivial⟩).1⟩

end System

end AsyncMutex

end KmxAio
