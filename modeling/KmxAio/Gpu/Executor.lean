import KmxAio.Lib.Run
import Mathlib.Data.List.Basic

/-!
# The executor of GPU events

A coroutine that awaits a GPU event is entered in a table under the event. A pass takes the queue of
spawned tasks and starts them, takes out of the table the entries whose event has fired, and resumes
their coroutines, all before it returns. What runs meanwhile may spawn, register and finish. A handle
is a number, and zero is the null handle.
-/

namespace KmxAio.Gpu

open KmxAio.Lib.Run

/-- What `cudaEventQuery` says of an event. -/
inductive Query where
  | success
  | notReady
  | failed
  deriving DecidableEq

/-- `looping` is whether `run` is under way, `running` are the tasks that were started and have not
finished; `registered` and `resumed` are the coroutines ever given to the executor with an event and
ever resumed for one. -/
structure Executor where
  looping : Bool := false
  activeWork : Nat := 0
  pendingTasks : List Nat := []
  waitingEvents : List (Nat × Nat) := []
  errorCount : Nat := 0
  running : List Nat := []
  registered : List Nat := []
  resumed : List Nat := []
  deriving DecidableEq

inductive Action where
  | spawn (task : Nat)
  | finish (task : Nat)
  | register (event handle : Nat)

/-- An action outside a pass, a change of the loop, or a pass: what each coroutine it resumes does,
with what other threads do until the next one, and the answers to its queries. -/
inductive Event where
  | act (action : Action)
  | loop (looping : Bool)
  | poll (does : Nat → List Action) (query : Nat → Query)

namespace Executor

def registerWaitingCoroutine (exec : Executor) (event handle : Nat) : Executor :=
  if event = 0 ∨ handle = 0 then exec
  else
    { exec with
      waitingEvents := exec.waitingEvents.filter (·.1 ≠ event) ++ [(event, handle)] }

def act (exec : Executor) : Action → Executor
  | .spawn task =>
    { exec with
      activeWork := exec.activeWork + 1
      pendingTasks := exec.pendingTasks ++ [task] }
  | .finish task =>
    if task ∈ exec.running then
      { exec with
        activeWork := exec.activeWork - 1, running := exec.running.erase task }
    else exec
  | .register event handle =>
    { exec.registerWaitingCoroutine event handle with
      registered := exec.registered ++ [handle] }

/-- An entry whose query fails is dropped. -/
def retire (exec : Executor) (query : Nat → Query) : Executor :=
  { exec with
    waitingEvents := exec.waitingEvents.filter fun entry => query entry.1 = .notReady
    errorCount := exec.errorCount + exec.waitingEvents.countP fun entry => query entry.1 = .failed }

def readyHandles (exec : Executor) (query : Nat → Query) : List Nat :=
  ((exec.waitingEvents.filter fun entry => query entry.1 = .success).map Prod.snd).filter (· ≠ 0)

def startTask (does : Nat → List Action) (exec : Executor) (task : Nat) : Executor :=
  run act { exec with running := exec.running ++ [task] } (does task)

def resumeHandle (does : Nat → List Action) (exec : Executor) (handle : Nat) : Executor :=
  run act { exec with resumed := exec.resumed ++ [handle] } (does handle)

def startPending (exec : Executor) (does : Nat → List Action) : Executor :=
  run (startTask does) { exec with pendingTasks := [] } exec.pendingTasks

def pollEvents (exec : Executor) (does : Nat → List Action) (query : Nat → Query) : Executor :=
  let started := exec.startPending does
  run (resumeHandle does) (started.retire query) (started.readyHandles query)

def step (exec : Executor) : Event → Executor
  | .act action => exec.act action
  | .loop looping => { exec with looping }
  | .poll does query => exec.pollEvents does query

/-- Neither handle of a registration is null, and no coroutine awaits an event another one awaits. -/
def Alone (exec : Executor) : Action → Prop
  | .register event handle =>
    event ≠ 0 ∧ handle ≠ 0 ∧ ∀ entry ∈ exec.waitingEvents, entry.1 ≠ event
  | _ => True

/-- Inside a pass a spawn needs the loop besides: without it `spawn` would make passes of its own
until no task is left, and the task that calls it is one. -/
def Orderly (exec : Executor) (action : Action) : Prop :=
  exec.Alone action ∧ ∀ task, action = .spawn task → exec.looping = true

/-- No query of an event fails either. -/
def Undisturbed (exec : Executor) : Event → Prop
  | .act action => exec.Alone action
  | .loop _ => True
  | .poll does query =>
    let started := exec.startPending does
    Admissible (startTask does)
        (fun exec task => Admissible act Orderly { exec with running := exec.running ++ [task] }
          (does task)) { exec with pendingTasks := [] } exec.pendingTasks ∧
      (∀ entry ∈ started.waitingEvents, query entry.1 ≠ .failed) ∧
      Admissible (resumeHandle does)
        (fun exec handle => Admissible act Orderly
          { exec with resumed := exec.resumed ++ [handle] } (does handle))
        (started.retire query) (started.readyHandles query)

/-- What holds in the middle of a pass that has still to start and to resume some. -/
structure Sound (starting ready : List Nat) (executor : Executor) : Prop where
  active : executor.activeWork = (executor.pendingTasks ++ starting ++ executor.running).length
  handles : ∀ entry ∈ executor.waitingEvents, entry.2 ≠ 0
  once : (executor.waitingEvents.map Prod.snd ++ ready ++ executor.resumed).Perm
    executor.registered

variable {exec : Executor} {starting ready : List Nat}

theorem Sound.act (sound : exec.Sound starting ready) {action : Action}
    (alone : exec.Alone action) : (exec.act action).Sound starting ready := by
  obtain ⟨active, handles, once⟩ := sound
  cases action with
  | spawn task =>
    refine ⟨?_, handles, once⟩
    simp only [Executor.act, active, List.length_append, List.length_singleton]
    omega
  | finish task =>
    simp only [Executor.act]
    split
    · rename_i member
      refine ⟨?_, handles, once⟩
      have taken := (List.perm_cons_erase member).length_eq
      simp only [active, List.length_append, List.length_cons] at taken ⊢
      omega
    · exact ⟨active, handles, once⟩
  | register event handle =>
    obtain ⟨someEvent, someHandle, alone⟩ := alone
    have kept : exec.waitingEvents.filter (·.1 ≠ event) = exec.waitingEvents :=
      List.filter_eq_self.mpr fun entry member => by simpa using alone entry member
    simp only [Executor.act, registerWaitingCoroutine, someEvent, someHandle, or_self, if_false, kept]
    refine ⟨active, ?_, ?_⟩
    · exact List.forall_mem_append.mpr ⟨handles, List.forall_mem_singleton.mpr someHandle⟩
    · refine .trans (List.perm_iff_count.mpr fun other => ?_) (once.append_right [handle])
      simp only [List.map_append, List.count_append, List.map_cons, List.map_nil]
      omega

theorem Sound.acts {actions : List Action} (sound : exec.Sound starting ready)
    (orderly : Admissible Executor.act Orderly exec actions) :
    (run Executor.act exec actions).Sound starting ready :=
  invariant_run (fun _ _ sound orderly => sound.act orderly.1) sound orderly

theorem Sound.startAll {does : Nat → List Action} (sound : exec.Sound starting [])
    (orderly : Admissible (startTask does) (fun exec task => Admissible Executor.act Orderly
      { exec with running := exec.running ++ [task] } (does task)) exec starting) :
    (run (startTask does) exec starting).Sound [] [] := by
  induction starting generalizing exec with
  | nil => exact sound
  | cons task rest ih =>
    refine ih (Sound.acts ⟨?_, sound.handles, sound.once⟩ orderly.1) orderly.2
    simp only [sound.active, List.length_append, List.length_cons, List.length_nil]
    omega

theorem Sound.resumeAll {does : Nat → List Action} (sound : exec.Sound [] ready)
    (orderly : Admissible (resumeHandle does) (fun exec handle => Admissible Executor.act Orderly
      { exec with resumed := exec.resumed ++ [handle] } (does handle)) exec ready) :
    (run (resumeHandle does) exec ready).Sound [] [] := by
  induction ready generalizing exec with
  | nil => exact sound
  | cons handle rest ih =>
    refine ih (Sound.acts ⟨sound.active, sound.handles, ?_⟩ orderly.1) orderly.2
    refine .trans (List.perm_iff_count.mpr fun other => ?_) sound.once
    simp only [List.count_append, List.count_cons, List.count_nil]
    omega

theorem Sound.retire (sound : exec.Sound [] []) {query : Nat → Query}
    (answered : ∀ entry ∈ exec.waitingEvents, query entry.1 ≠ .failed) :
    (exec.retire query).Sound [] (exec.readyHandles query) := by
  obtain ⟨active, handles, once⟩ := sound
  refine ⟨active, fun entry member => handles entry (List.mem_of_mem_filter member), ?_⟩
  have fired : exec.waitingEvents.filter (fun entry => query entry.1 = .success) =
      exec.waitingEvents.filter (fun entry => !decide (query entry.1 = .notReady)) := by
    refine List.filter_congr fun entry member => ?_
    have answered := answered entry member
    cases answer : query entry.1 <;> simp [answer] at answered ⊢
  have named : ∀ handle ∈ (exec.waitingEvents.filter
      (fun entry => !decide (query entry.1 = .notReady))).map Prod.snd, handle ≠ 0 := by
    intro handle member
    obtain ⟨entry, listed, rfl⟩ := List.mem_map.mp member
    exact handles entry (List.mem_of_mem_filter listed)
  have split := (List.filter_append_perm (fun entry => decide (query entry.1 = .notReady))
    exec.waitingEvents).map Prod.snd
  refine .trans (List.perm_iff_count.mpr fun other => ?_) once
  have counted := split.count_eq other
  simp only [Executor.retire, readyHandles, fired, List.filter_eq_self.mpr (fun handle member =>
    decide_eq_true (named handle member)), List.map_append, List.count_append, List.count_nil]
    at counted ⊢
  omega

theorem Sound.step (sound : exec.Sound [] []) {event : Event}
    (undisturbed : exec.Undisturbed event) : (exec.step event).Sound [] [] := by
  cases event with
  | act action => exact sound.act undisturbed
  | loop looping => exact ⟨sound.active, sound.handles, sound.once⟩
  | poll does query =>
    obtain ⟨orderly, answered, later⟩ := undisturbed
    have taken : Sound exec.pendingTasks [] { exec with pendingTasks := [] } :=
      ⟨by simpa using sound.active, sound.handles, sound.once⟩
    exact ((taken.startAll orderly).retire answered).resumeAll later

/-- In an undisturbed run every coroutine is in the table or resumed, as often as it was registered:
the pass that takes it out of the table has resumed it when it returns. The active work is the number
of tasks that have not finished. -/
theorem registered_resumed_once (events : List Event)
    (undisturbed : Admissible step Undisturbed {} events) :
    let exec := run step {} events
    (exec.waitingEvents.map Prod.snd ++ exec.resumed).Perm exec.registered ∧
      exec.activeWork = (exec.pendingTasks ++ exec.running).length := by
  have sound : (run step {} events).Sound [] [] :=
    invariant_run (fun _ _ sound => sound.step) ⟨rfl, by simp, .refl []⟩ undisturbed
  exact ⟨by simpa using sound.once, by simpa using sound.active⟩

/-- A task awaits an event, and once that has fired another one. -/
theorem registered_resumed_once_two :
    let does handle := if handle = 5 then [.register 1 6] else [.register 2 7]
    let events := [.act (.spawn 5), .poll does fun _ => .notReady, .poll does fun _ => .success]
    (run step {} events).resumed = [6] ∧
      ((run step {} events).waitingEvents.map Prod.snd ++ (run step {} events).resumed).Perm
        (run step {} events).registered := by
  intro does events
  refine ⟨by decide, (registered_resumed_once events ?_).1⟩
  simp [events, does, Admissible, Undisturbed, Orderly, Alone, step, act, run, startPending,
    startTask, pollEvents, retire, readyHandles, registerWaitingCoroutine]

/-- Of two coroutines that await one event only the second is ever resumed. -/
theorem second_awaits_same_event :
    let exec := run step {}
      [.act (.register 1 5), .act (.register 1 6), .poll (fun _ => []) fun _ => .success]
    exec.registered = [5, 6] ∧ exec.resumed = [6] ∧ exec.waitingEvents = [] := by
  decide

end Executor

end KmxAio.Gpu
