import KmxAio.Lib.Run

/-!
# The thread-pool scheduler

Workers take tasks from a queue under a lock and run them without it. A worker destroys its task
before it drops the count of active workers, and tells the callers of the idle wait when nothing was
left. Every section under the lock is one step, in any order with those of the other threads. A
blocked thread may wake at any time, so that a blocked worker is one that finds no task.
-/

namespace KmxAio

open Lib.Run

/-- Where a worker is. -/
inductive WorkerPosition where
  | looking
  | running (task : Nat)
  | returned (task : Nat)
  | dropping
  | notifying
  deriving DecidableEq

namespace WorkerPosition

/-- Between taking a task and dropping the count. -/
def busy : WorkerPosition → Bool
  | looking | notifying => false
  | _ => true

/-- Until the task is destroyed, with what it captured. -/
def keeps (task : Nat) (position : WorkerPosition) : Bool :=
  position = running task ∨ position = returned task

theorem busy_of_keeps {task : Nat} {position : WorkerPosition}
    (keeps : position.keeps task = true) : position.busy = true := by
  rcases of_decide_eq_true keeps with rfl | rfl <;> rfl

end WorkerPosition

/-- The tasks are numbered as they are queued. The lists of tasks and the counts of returns record
what happened. -/
structure Scheduler where
  workers : List WorkerPosition
  queue : List Nat := []
  active : Nat := 0
  blocked : Nat → Bool := fun _ => false
  spawned : Nat := 0
  taken : List Nat := []
  destroyed : List Nat := []
  returns : Nat → Nat := fun _ => 0

inductive Thread where
  | worker (index : Nat)
  | caller (index : Nat)

inductive SchedulerEvent where
  | spawn
  /-- The next step of a worker. -/
  | work (index : Nat)
  /-- The call, and each time the caller looks again. -/
  | waitUntilIdle (thread : Thread)

namespace Scheduler

variable (sched : Scheduler)

def spawn : Scheduler :=
  { sched with queue := sched.queue ++ [sched.spawned], spawned := sched.spawned + 1 }

def idle : Bool := sched.queue = [] ∧ sched.active = 0

def waitUntilIdle : Thread → Scheduler
  | .worker _ => sched
  | .caller index =>
    if sched.idle then
      { sched with
        blocked := Function.update sched.blocked index false
        returns := Function.update sched.returns index (sched.returns index + 1) }
    else { sched with blocked := Function.update sched.blocked index true }

def moves (index : Nat) (position : WorkerPosition) : Scheduler :=
  { sched with workers := sched.workers.set index position }

def runWorker (index : Nat) : WorkerPosition → Scheduler
  | .looking =>
    match sched.queue with
    | [] => sched
    | task :: rest =>
      { sched.moves index (.running task) with
        queue := rest, active := sched.active + 1, taken := sched.taken ++ [task] }
  -- what a task throws is logged
  | .running task => sched.moves index (.returned task)
  | .returned task =>
    { sched.moves index .dropping with destroyed := sched.destroyed ++ [task] }
  | .dropping =>
    let dropped := { sched with active := sched.active - 1 }
    dropped.moves index (if dropped.idle then .notifying else .looking)
  | .notifying => { sched.moves index .looking with blocked := fun _ => false }

def step : SchedulerEvent → Scheduler
  | .spawn => sched.spawn
  | .work index => (sched.workers[index]?).elim sched (sched.runWorker index)
  | .waitUntilIdle thread => sched.waitUntilIdle thread

def create (threadCount : Nat) : Scheduler := { workers := .replicate threadCount .looking }

/-- The tasks that were taken are those that were destroyed and those that are still kept. -/
structure Accounted : Prop where
  active : sched.active = sched.workers.countP WorkerPosition.busy
  order : sched.taken ++ sched.queue = List.range sched.spawned
  kept : ∀ task, sched.taken.count task =
    sched.destroyed.count task + sched.workers.countP (·.keeps task)
  told : ∀ caller, sched.blocked caller = true → sched.idle = false ∨ .notifying ∈ sched.workers

variable {sched}

theorem countP_set_add {old : WorkerPosition} {workers : List WorkerPosition} {index : Nat}
    (found : workers[index]? = some old) (new : WorkerPosition) (counts : WorkerPosition → Bool) :
    (workers.set index new).countP counts + (counts old).toNat =
      workers.countP counts + (counts new).toNat := by
  induction workers generalizing index with
  | nil => cases found
  | cons first rest ih =>
    cases index with
    | zero =>
      cases found
      simp only [List.set_cons_zero, List.countP_cons]
      cases counts old <;> cases counts new <;> simp
    | succ index =>
      have later := ih found
      simp only [List.set_cons_succ, List.countP_cons]
      omega

variable {index : Nat} {old new : WorkerPosition}

theorem Accounted.moved {after : Scheduler} (accounted : sched.Accounted)
    (found : sched.workers[index]? = some old)
    (workers : after.workers = sched.workers.set index new)
    (active : after.active + old.busy.toNat = sched.active + new.busy.toNat)
    (order : after.taken ++ after.queue = List.range after.spawned)
    (kept : ∀ task, after.taken.count task + sched.destroyed.count task + (old.keeps task).toNat =
      sched.taken.count task + after.destroyed.count task + (new.keeps task).toNat)
    (told : ∀ caller, after.blocked caller = true →
      after.idle = false ∨ .notifying ∈ sched.workers.set index new) : after.Accounted := by
  have counts := countP_set_add found new
  refine ⟨?_, order, fun task => ?_, workers ▸ told⟩ <;> rw [workers]
  · have busy := counts WorkerPosition.busy
    have before := accounted.active
    omega
  · have keeps := counts (·.keeps task)
    have before := accounted.kept task
    have here := kept task
    omega

theorem Accounted.runWorker (accounted : sched.Accounted)
    (found : sched.workers[index]? = some old) : (sched.runWorker index old).Accounted := by
  have positive : old.busy = true → 0 < sched.active := by
    intro busy
    rw [accounted.active]
    exact List.countP_pos_iff.mpr ⟨old, List.mem_of_getElem? found, busy⟩
  have order := accounted.order
  cases old with
  | looking =>
    unfold Scheduler.runWorker
    cases waiting : sched.queue with
    | nil => exact accounted
    | cons task rest =>
      refine accounted.moved found rfl rfl ?_ (fun other => ?_) fun _ _ => .inl (by simp [idle])
      · rw [waiting] at order
        simpa [moves] using order
      · by_cases same : task = other <;> simp [moves, WorkerPosition.keeps, same]
        omega
  | running task | returned task =>
    have busy : sched.idle = false := by simp [idle, Nat.ne_of_gt (positive rfl)]
    refine accounted.moved found rfl rfl order (fun other => ?_) fun _ _ => .inl busy
    by_cases same : task = other <;>
      simp [Scheduler.runWorker, moves, WorkerPosition.keeps, same] <;> omega
  | dropping =>
    have dropped : sched.active - 1 + 1 = sched.active := Nat.sub_add_cancel (positive rfl)
    unfold Scheduler.runWorker
    dsimp only
    split
    · exact accounted.moved found rfl dropped order (fun _ => rfl)
        fun _ _ => .inr (List.mem_set (List.getElem?_eq_some_iff.mp found).1 _)
    · rename_i left
      exact accounted.moved found rfl dropped order (fun _ => rfl)
        fun _ _ => .inl (Bool.eq_false_iff.mpr left)
  | notifying =>
    exact accounted.moved found rfl rfl order (fun _ => rfl) nofun

theorem Accounted.step (accounted : sched.Accounted) (event : SchedulerEvent) :
    (sched.step event).Accounted := by
  obtain ⟨active, order, kept, told⟩ := id accounted
  cases event with
  | spawn =>
    refine ⟨active, ?_, kept, fun _ _ => .inl (by simp [Scheduler.step, spawn, idle])⟩
    simp [Scheduler.step, spawn, ← List.append_assoc, order, List.range_succ]
  | work index =>
    dsimp only [Scheduler.step]
    cases found : sched.workers[index]? with
    | none => exact accounted
    | some position => exact accounted.runWorker found
  | waitUntilIdle thread =>
    cases thread with
    | worker index => exact accounted
    | caller index =>
      dsimp only [Scheduler.step, waitUntilIdle]
      split
      · refine ⟨active, order, kept, fun caller waits => told caller ?_⟩
        simp only [Function.update_apply] at waits
        split at waits
        · cases waits
        · exact waits
      · rename_i left
        exact ⟨active, order, kept, fun _ _ => .inl (Bool.eq_false_iff.mpr left)⟩

/-- No task is queued or held by a worker, and whatever was taken is destroyed. -/
def Quiet (sched : Scheduler) : Prop :=
  sched.queue = [] ∧ (∀ worker ∈ sched.workers, worker.busy = false) ∧
    ∀ task ∈ sched.taken, task ∈ sched.destroyed

theorem Accounted.quiet (accounted : sched.Accounted) (idle : sched.idle = true) : sched.Quiet := by
  obtain ⟨empty, none⟩ := of_decide_eq_true idle
  rw [accounted.active, List.countP_eq_zero] at none
  refine ⟨empty, fun worker listed => Bool.eq_false_iff.mpr (none worker listed), ?_⟩
  intro task taken
  have unkept : sched.workers.countP (·.keeps task) = 0 :=
    List.countP_eq_zero.mpr fun worker listed keeps =>
      none worker listed (WorkerPosition.busy_of_keeps keeps)
  have counted := accounted.kept task
  rw [unkept, Nat.add_zero] at counted
  exact List.count_pos_iff.mp (counted ▸ List.count_pos_iff.mpr taken)

/-- However spawns, workers and callers take turns, the count is that of the busy workers, no task
is taken twice and they are taken as they were queued, a caller returns only where nothing is queued
or running and what was taken is destroyed, and none is left blocked there. -/
theorem idle_barrier (threadCount : Nat) (events : List SchedulerEvent) :
    let sched := run step (create threadCount) events
    sched.active = sched.workers.countP WorkerPosition.busy ∧ sched.taken.Nodup ∧
      sched.taken ++ sched.queue = List.range sched.spawned ∧
      (∀ event caller, (sched.step event).returns caller ≠ sched.returns caller → sched.Quiet) ∧
      ∀ caller, ¬ (sched.blocked caller = true ∧ sched.queue = [] ∧ sched.active = 0 ∧
        .notifying ∉ sched.workers) := by
  intro sched
  have accounted : sched.Accounted := by
    refine invariant_run (fun _ event accounted _ => accounted.step event) ?_
      (admissible_of_events fun _ _ => trivial)
    constructor <;> simp [create, WorkerPosition.busy, WorkerPosition.keeps, List.countP_replicate]
  refine ⟨accounted.active, ?_, accounted.order, ?_, ?_⟩
  · have once := @List.nodup_range sched.spawned
    rw [← accounted.order] at once
    exact (List.nodup_append.mp once).1
  · intro event caller returned
    refine accounted.quiet (by_contra fun left => returned ?_)
    cases event with
    | spawn => rfl
    | work index =>
      dsimp only [step]
      cases sched.workers[index]? with
      | none => rfl
      | some position =>
        cases position with
        | looking =>
          dsimp only [Option.elim, runWorker]
          cases sched.queue <;> rfl
        | _ => rfl
    | waitUntilIdle thread =>
      cases thread with
      | worker index => rfl
      | caller index =>
        dsimp only [step, waitUntilIdle]
        rw [if_neg left]
  · rintro caller ⟨blocked, empty, none, unnoticed⟩
    rcases accounted.told caller blocked with left | notified
    · simp [idle, empty, none] at left
    · exact unnoticed notified

/-- One task, for which a caller waits: the worker takes, runs, destroys and drops it. -/
def oneTask : List SchedulerEvent :=
  [.spawn, .waitUntilIdle (.caller 0), .work 0, .work 0, .work 0, .work 0]

theorem idle_barrier_one_task : (run step (create 1) oneTask).blocked 0 = true ∧
    (run step (create 1) oneTask).workers = [.notifying] ∧ (run step (create 1) oneTask).Quiet :=
  ⟨rfl, rfl, (idle_barrier 1 oneTask).2.2.2.1 (.waitUntilIdle (.caller 0)) 0 (by decide)⟩

end Scheduler

end KmxAio
