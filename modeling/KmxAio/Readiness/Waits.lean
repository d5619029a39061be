import Mathlib.Data.List.Perm.Basic
import Mathlib.Data.List.Range
import KmxAio.Lib.Run
import KmxAio.Readiness.Executor

/-!
# How a wait ends

Four paths take a waiter out: an event, its deadline, a cancellation and the
removal of its descriptor. Two of them write a flag in the frame of the coroutine,
from which the coroutine reads what its wait returns. Each wait is numbered when it
is made; beside what the executor does, it is recorded why each wait ended.
-/

namespace KmxAio.Readiness

open Lib.Run Function

structure Flags where
  cancelled : Bool := false
  timedOut : Bool := false
  deriving DecidableEq

inductive WaitStatus where
  | ready
  | cancelled
  | timedOut
  deriving DecidableEq

def Flags.waitIo (flags : Flags) : Bool := !flags.cancelled

def Flags.waitIoUntil (flags : Flags) : WaitStatus :=
  if flags.timedOut then .timedOut else if flags.cancelled then .cancelled else .ready

/-- A wait that was made: `wait_io` has no deadline, `wait_io_until` has one, and a deadline of zero
never passes. -/
structure Wait where
  key : EventKey
  deadline : Option UInt32
  deriving DecidableEq

def Wait.waiter (wait : Wait) (handle : Nat) : Waiter :=
  match wait.deadline with
  | none => { handle := handle }
  | some deadlineMs => { handle := handle, timed := true, deadlineMs := deadlineMs }

inductive Cause where
  | event (key : EventKey)
  | deadline
  | cancelled
  | refused
  deriving DecidableEq

def Cause.flags : Cause → Flags
  | .event _ => {}
  | .deadline => { timedOut := true }
  | .cancelled | .refused => { cancelled := true }

def Wait.EndsBy (wait : Wait) : Cause → Prop
  | .event key => wait.key = key
  | .deadline => wait.deadline ≠ none
  | .cancelled | .refused => True

structure Ended where
  handle : Nat
  cause : Cause
  deriving DecidableEq

/-- An executor with every wait that was made, the frames of the waits, the handles that were taken
out and not yet resumed, those that were, and why the waits that ended did. -/
structure Waits where
  executor : Executor := {}
  started : List Wait := []
  flags : Nat → Flags := fun _ => {}
  inFlight : List Nat := []
  resumed : List Nat := []
  ended : List Ended := []

inductive WaitsEvent where
  | waitIo (key : EventKey)
  | waitIoUntil (key : EventKey) (deadlineMs : UInt32)
  | resumeIfFound (key : EventKey)
  | expireWaiters (nowMs : UInt32)
  | cancelIo (fd : Fd)
  | unregisterFd (fd : Fd)
  | registerFd (fd : Fd)
  /-- A handle that was taken out is handed to `resume_waiter`. -/
  | resumeWaiter (handle : Nat)

namespace Waits

/-- A coroutine awaits: it is stored, or told at once that its wait is cancelled. -/
def await (waits : Waits) (wait : Wait) : Waits :=
  let handle := waits.started.length
  let started := waits.started ++ [wait]
  match waits.executor.subscribe wait.key (wait.waiter handle) with
  | (executor, true) => { waits with executor := executor, started := started }
  | (executor, false) =>
    { waits with
      executor := executor
      started := started
      flags := update waits.flags handle { waits.flags handle with cancelled := true }
      ended := waits.ended ++ [⟨handle, .refused⟩] }

/-- Waiters are taken out under the lock, which marks their frames. -/
def takeOut (waits : Waits) (executor : Executor) (taken : List Waiter) (cause : Cause)
    (mark : Waiter → Flags → Flags) : Waits :=
  { waits with
    executor := executor
    flags := fun handle =>
      match taken.find? (·.handle = handle) with
      | none => waits.flags handle
      | some waiter => mark waiter (waits.flags handle)
    inFlight := waits.inFlight ++ taken.map (·.handle)
    ended := waits.ended ++ taken.map (fun waiter => ⟨waiter.handle, cause⟩) }

/-- Only a frame that has a flag for its deadline is marked when the deadline passes. -/
def markTimedOut (waiter : Waiter) (flags : Flags) : Flags :=
  if waiter.timed then { flags with timedOut := true } else flags

def markCancelled (_ : Waiter) (flags : Flags) : Flags := { flags with cancelled := true }

def wake (waits : Waits) (key : EventKey) : Waits :=
  let (executor, found) := waits.executor.resumeIfFound key
  waits.takeOut executor found.toList (.event key) (fun _ flags => flags)

def expire (waits : Waits) (nowMs : UInt32) : Waits :=
  let (executor, expired) := waits.executor.expireWaiters nowMs
  waits.takeOut executor expired .deadline markTimedOut

def cancel (waits : Waits) : Executor × List Waiter → Waits
  | (executor, cancelled) => waits.takeOut executor cancelled .cancelled markCancelled

def resume (waits : Waits) (handle : Nat) : Waits :=
  if handle ∈ waits.inFlight then
    { waits with
      inFlight := waits.inFlight.erase handle
      resumed := waits.resumed ++ [handle] }
  else waits

def step (waits : Waits) : WaitsEvent → Waits
  | .waitIo key => waits.await ⟨key, none⟩
  | .waitIoUntil key deadlineMs => waits.await ⟨key, some deadlineMs⟩
  | .resumeIfFound key => waits.wake key
  | .expireWaiters nowMs => waits.expire nowMs
  | .cancelIo fd => waits.cancel (waits.executor.cancelIo fd)
  | .unregisterFd fd => waits.cancel (waits.executor.unregisterFd fd)
  | .registerFd fd => { waits with executor := waits.executor.registerFd fd }
  | .resumeWaiter handle => waits.resume handle

def parked (waits : Waits) : List Nat := waits.executor.subscribers.map (·.waiter.handle)

def takenOut (waits : Waits) : List Nat :=
  (waits.ended.filter (·.cause ≠ .refused)).map (·.handle)

def woken (waits : Waits) (key : EventKey) : List Nat :=
  (waits.ended.filter (·.cause = .event key)).map (·.handle)

/-! ## What holds of every run -/

/-- Every wait is accounted for: parked with clear flags, or ended once with the flags of its cause
and in flight or resumed unless it was refused. Events wake in arrival order, and nothing is parked
on a cancelled descriptor. -/
structure Accounts (waits : Waits) : Prop where
  once : (waits.parked ++ waits.ended.map (·.handle)).Perm (List.range waits.started.length)
  handed : (waits.inFlight ++ waits.resumed).Perm waits.takenOut
  stored : ∀ entry ∈ waits.executor.subscribers, ∃ wait,
    waits.started[entry.waiter.handle]? = some wait ∧
      entry = ⟨wait.key, wait.waiter entry.waiter.handle⟩
  reasons : ∀ ended ∈ waits.ended, ∃ wait, waits.started[ended.handle]? = some wait ∧
    wait.EndsBy ended.cause
  marked : ∀ ended ∈ waits.ended, waits.flags ended.handle = ended.cause.flags
  clear : ∀ handle, handle ∉ waits.ended.map (·.handle) → waits.flags handle = {}
  order : ∀ key, (waits.woken key ++ (waits.executor.queue key).map (·.handle)).Pairwise (· < ·)
  refused : ∀ entry ∈ waits.executor.subscribers, entry.key.fd ∉ waits.executor.cancelledFds

variable {waits : Waits}

variable {handle : Nat} {taken : List Waiter} {executor : Executor} {cause : Cause}
  {mark : Waiter → Flags → Flags} {wait : Wait}

theorem find_handle_some (present : handle ∈ taken.map (·.handle)) :
    ∃ waiter ∈ taken, waiter.handle = handle ∧ taken.find? (·.handle = handle) = some waiter := by
  cases found : taken.find? (·.handle = handle) with
  | none =>
    obtain ⟨waiter, listed, same⟩ := List.mem_map.mp present
    exact absurd (decide_eq_true same) (List.find?_eq_none.mp found waiter listed)
  | some waiter =>
    have same : waiter.handle = handle := by simpa using List.find?_some found
    exact ⟨waiter, List.mem_of_find?_eq_some found, same, rfl⟩

theorem takeOut_ended :
    (waits.takeOut executor taken cause mark).ended.map (·.handle) =
      waits.ended.map (·.handle) ++ taken.map (·.handle) := by
  simp [Waits.takeOut]

theorem takeOut_takenOut (removed : cause ≠ .refused) :
    (waits.takeOut executor taken cause mark).takenOut = waits.takenOut ++ taken.map (·.handle) := by
  simp [Waits.takeOut, Waits.takenOut, removed, List.filter_map, comp_def]

theorem takeOut_unmarked (absent : handle ∉ taken.map (·.handle)) :
    (waits.takeOut executor taken cause mark).flags handle = waits.flags handle := by
  have findHandleNone : taken.find? (·.handle = handle) = none := by
    refine List.find?_eq_none.mpr (fun waiter listed same => absent ?_)
    exact List.mem_map.mpr ⟨waiter, listed, of_decide_eq_true same⟩
  simp only [Waits.takeOut, findHandleNone]

theorem started_concat {made : Wait} (known : waits.started[handle]? = some made) :
    (waits.started ++ [wait])[handle]? = some made := by
  obtain ⟨inside, -⟩ := List.getElem?_eq_some_iff.mp known
  rw [List.getElem?_append_left inside, known]

section

variable (accounts : waits.Accounts)

include accounts

theorem Accounts.nodup : (waits.parked ++ waits.ended.map (·.handle)).Nodup :=
  accounts.once.nodup_iff.mpr (List.nodup_range)

theorem Accounts.not_ended (parked : handle ∈ waits.parked) :
    handle ∉ waits.ended.map (·.handle) :=
  fun ended => (List.nodup_append.mp accounts.nodup).2.2 handle parked handle ended rfl

theorem Accounts.origin (parts : (taken ++ executor.subscribers.map (·.waiter)).Perm
      (waits.executor.subscribers.map (·.waiter))) {waiter : Waiter} (listed : waiter ∈ taken) :
    ∃ wait : Wait, waits.started[waiter.handle]? = some wait ∧ waiter = wait.waiter waiter.handle ∧
      (⟨wait.key, waiter⟩ : Subscription) ∈ waits.executor.subscribers := by
  obtain ⟨entry, stored, rfl⟩ := List.mem_map.mp (parts.mem_iff.mp (List.mem_append_left _ listed))
  obtain ⟨wait, made, same⟩ := accounts.stored entry stored
  refine ⟨wait, made, congrArg Subscription.waiter same, ?_⟩
  have keyed : entry.key = wait.key := congrArg Subscription.key same
  rw [← keyed]
  exact stored

/-- What every path does that takes waiters out: those it takes were parked, the others stay, and the
frames are marked as the cause asks. -/
theorem Accounts.takeOut (parts : (taken ++ executor.subscribers.map (·.waiter)).Perm
      (waits.executor.subscribers.map (·.waiter)))
    (left : executor.subscribers.Sublist waits.executor.subscribers) (removed : cause ≠ .refused)
    (ends : ∀ wait : Wait, ∀ handle, wait.waiter handle ∈ taken →
      (⟨wait.key, wait.waiter handle⟩ : Subscription) ∈ waits.executor.subscribers →
      wait.EndsBy cause ∧ mark (wait.waiter handle) {} = cause.flags)
    (order : ∀ key, ((waits.takeOut executor taken cause mark).woken key ++
      (executor.queue key).map (·.handle)).Pairwise (· < ·))
    (refused : ∀ entry ∈ executor.subscribers, entry.key.fd ∉ executor.cancelledFds) :
    (waits.takeOut executor taken cause mark).Accounts := by
  have wereParked : ∀ handle ∈ taken.map (·.handle), handle ∈ waits.parked := by
    intro handle listed
    obtain ⟨waiter, present, rfl⟩ := List.mem_map.mp listed
    obtain ⟨wait, -, -, stored⟩ := accounts.origin parts present
    exact List.mem_map.mpr ⟨_, stored, rfl⟩
  refine ⟨?_, ?_, fun entry stored => accounts.stored entry (left.subset stored), ?_, ?_, ?_, order,
    refused⟩
  · have both : (taken.map (·.handle) ++ executor.subscribers.map (·.waiter.handle)).Perm
        waits.parked := by
      have mapped := parts.map Waiter.handle
      simpa [Waits.parked, List.map_append, List.map_map, comp_def] using mapped
    rw [takeOut_ended]
    refine List.Perm.trans ?_ ((both.append_right _).trans accounts.once)
    refine (List.perm_append_comm.append_left _).trans ?_
    rw [← List.append_assoc]
    exact List.perm_append_comm.append_right _
  · rw [takeOut_takenOut removed]
    refine List.Perm.trans ?_ (accounts.handed.append_right _)
    change (waits.inFlight ++ taken.map (·.handle) ++ waits.resumed).Perm _
    rw [List.append_assoc, List.append_assoc]
    exact List.perm_append_comm.append_left _
  · intro ended listed
    rcases List.mem_append.mp listed with old | new
    · exact accounts.reasons ended old
    · obtain ⟨waiter, present, rfl⟩ := List.mem_map.mp new
      obtain ⟨wait, made, same, stored⟩ := accounts.origin parts present
      refine ⟨wait, made, (ends wait waiter.handle (same ▸ present) (same ▸ stored)).1⟩
  · intro ended listed
    rcases List.mem_append.mp listed with old | new
    · have known : ended.handle ∈ waits.ended.map (·.handle) := List.mem_map_of_mem old
      rw [takeOut_unmarked fun taken => accounts.not_ended (wereParked _ taken) known]
      exact accounts.marked ended old
    · obtain ⟨waiter, present, rfl⟩ := List.mem_map.mp new
      have isTaken : waiter.handle ∈ taken.map (·.handle) := List.mem_map_of_mem present
      obtain ⟨other, also, named, found⟩ := find_handle_some isTaken
      obtain ⟨wait, -, same, stored⟩ := accounts.origin parts also
      have clear := accounts.clear waiter.handle (accounts.not_ended (wereParked _ isTaken))
      simp only [Waits.takeOut, found, clear]
      have marked := (ends wait other.handle (same ▸ also) (same ▸ stored)).2
      rwa [← same] at marked
  · intro handle absent
    rw [takeOut_ended, List.mem_append, not_or] at absent
    rw [takeOut_unmarked absent.2]
    exact accounts.clear handle absent.1

/-! ## The paths -/

theorem Accounts.order_of_sublist (left : executor.subscribers.Sublist waits.executor.subscribers)
    (key : EventKey) (other : taken = [] ∨ cause ≠ .event key) :
    ((waits.takeOut executor taken cause mark).woken key ++
      (executor.queue key).map (·.handle)).Pairwise (· < ·) := by
  have same : (waits.takeOut executor taken cause mark).woken key = waits.woken key := by
    rcases other with rfl | different
    · simp [Waits.takeOut, woken]
    · simp [Waits.takeOut, woken, different, List.filter_map, comp_def]
  rw [same]
  have queued : (executor.queue key).Sublist (waits.executor.queue key) := (left.filter _).map _
  exact (accounts.order key).sublist ((queued.map _).append_left _)

theorem Accounts.wake (key : EventKey) : (waits.wake key).Accounts := by
  unfold Waits.wake
  rcases waits.executor.resumeIfFound_cases key with
    ⟨nobody, -⟩ | ⟨before, waiter, after, split, unlike, found⟩
  · rw [nobody]
    refine accounts.takeOut (List.Perm.refl _) (List.Sublist.refl _) nofun nofun ?_ accounts.refused
    exact fun other => accounts.order_of_sublist (List.Sublist.refl _) other (.inl rfl)
  · rw [found]
    have left : (before ++ after).Sublist waits.executor.subscribers := by
      rw [split]
      exact (List.sublist_cons_self _ _).append_left _
    refine accounts.takeOut ?_ left nofun ?_ ?_ (fun entry stored =>
      accounts.refused entry (left.subset stored))
    · rw [split]
      simpa using List.perm_middle.symm
    · intro wait handle taken stored
      have same : wait.waiter handle = waiter := List.mem_singleton.mp taken
      have present : (⟨key, waiter⟩ : Subscription) ∈ waits.executor.subscribers := by
        rw [split]
        exact List.mem_append_right _ List.mem_cons_self
      have keyed := List.inj_on_of_nodup_map (List.nodup_append.mp accounts.nodup).1 stored present
        (congrArg Waiter.handle same)
      exact ⟨congrArg Subscription.key keyed, rfl⟩
    · intro other
      by_cases own : other = key
      · subst own
        have ordered := accounts.order other
        have grown : ∀ executor, (waits.takeOut executor [waiter] (.event other)
            (fun _ flags => flags)).woken other = waits.woken other ++ [waiter.handle] := by
          intro executor
          simp [Waits.takeOut, Waits.woken]
        rw [Executor.queue_of_split split unlike, List.map_cons] at ordered
        rw [Option.toList_some, grown, List.append_assoc]
        exact ordered
      · exact accounts.order_of_sublist left other (.inr (fun same => own (Cause.event.inj same).symm))

theorem Accounts.expire (nowMs : UInt32) :
    (waits.expire nowMs).Accounts := by
  refine accounts.takeOut ?_ List.filter_sublist nofun ?_ ?_ ?_
  · rw [← List.map_append]
    exact (List.filter_append_perm _ _).map _
  · intro wait handle taken _
    obtain ⟨entry, listed, same⟩ := List.mem_map.mp taken
    have expired := (List.mem_filter.mp listed).2
    rw [same] at expired
    obtain ⟨some, timed⟩ : wait.deadline ≠ none ∧ (wait.waiter handle).timed = true := by
      unfold Wait.waiter at expired ⊢
      cases deadline : wait.deadline with
      | none => simp [deadline, Waiter.expired] at expired
      | some deadlineMs => exact ⟨nofun, rfl⟩
    refine ⟨some, ?_⟩
    rw [markTimedOut, if_pos timed]
    rfl
  · exact fun key => accounts.order_of_sublist List.filter_sublist key (.inr nofun)
  · exact fun entry stored => accounts.refused entry (List.mem_filter.mp stored).1

theorem Accounts.cancel (fd : Fd) (remember : Bool) :
    (waits.cancel (waits.executor.cancelWaiters fd remember)).Accounts := by
  -- the waiters of a descriptor are those for reading and those for writing
  refine accounts.takeOut ?_ List.filter_sublist nofun (fun _ _ _ _ => ⟨trivial, rfl⟩) ?_ ?_
  · unfold Executor.queue
    induction waits.executor.subscribers with
    | nil => exact .nil
    | cons entry rest ih =>
      obtain ⟨⟨own, type⟩, waiter⟩ := entry
      by_cases same : own = fd
      · subst same
        cases type with
        | read => simpa using ih
        | write =>
          refine List.Perm.trans ?_ (ih.cons _)
          simp
      · refine List.Perm.trans ?_ (ih.cons _)
        simp [same, -List.append_assoc]
  · exact fun key => accounts.order_of_sublist List.filter_sublist key (.inr nofun)
  · intro entry stored
    obtain ⟨before, other⟩ := List.mem_filter.mp stored
    have elsewhere : entry.key.fd ≠ fd := of_decide_eq_true other
    split
    · rw [Finset.mem_insert, not_or]
      exact ⟨elsewhere, accounts.refused entry before⟩
    · exact accounts.refused entry before

theorem Accounts.handle_lt (known : handle ∈ waits.parked ++ waits.ended.map (·.handle)) :
    handle < waits.started.length :=
  List.mem_range.mp (accounts.once.mem_iff.mp known)

theorem Accounts.in_order_lt {key : EventKey}
    (listed : handle ∈ waits.woken key ++ (waits.executor.queue key).map (·.handle)) :
    handle < waits.started.length := by
  refine accounts.handle_lt ?_
  rcases List.mem_append.mp listed with woken | queued
  · exact List.mem_append_right _ ((List.filter_sublist.map _).subset woken)
  · refine List.mem_append_left _ ?_
    rw [Executor.queue, List.map_map] at queued
    exact (List.filter_sublist.map _).subset queued

theorem Accounts.await_refused (cancelled : wait.key.fd ∈ waits.executor.cancelledFds) :
    (waits.await wait).Accounts := by
  have refused : waits.await wait =
      { waits with
        started := waits.started ++ [wait]
        flags := update waits.flags waits.started.length
          { waits.flags waits.started.length with cancelled := true }
        ended := waits.ended ++ [⟨waits.started.length, .refused⟩] } := by
    simp only [Waits.await, Executor.subscribe, if_pos cancelled]
  have fresh : waits.started.length ∉ waits.ended.map (·.handle) :=
    fun known => absurd (accounts.handle_lt (List.mem_append_right _ known)) (Nat.lt_irrefl _)
  rw [refused]
  refine ⟨?_, ?_, ?_, ?_, ?_, ?_, ?_, accounts.refused⟩
  · rw [List.map_append, List.map_singleton, List.length_append, List.length_singleton,
      List.range_succ, ← List.append_assoc]
    exact accounts.once.append_right _
  · simpa [Waits.takenOut] using accounts.handed
  · intro entry listed
    obtain ⟨made, known, same⟩ := accounts.stored entry listed
    exact ⟨made, started_concat known, same⟩
  · intro ended listed
    rcases List.mem_append.mp listed with old | new
    · obtain ⟨made, known, why⟩ := accounts.reasons ended old
      exact ⟨made, started_concat known, why⟩
    · obtain rfl := List.mem_singleton.mp new
      exact ⟨wait, List.getElem?_concat_length, trivial⟩
  · intro ended listed
    rcases List.mem_append.mp listed with old | new
    · have other : ended.handle ≠ waits.started.length :=
        fun same => fresh (same ▸ List.mem_map_of_mem old)
      dsimp only
      rw [update_of_ne other]
      exact accounts.marked ended old
    · obtain rfl := List.mem_singleton.mp new
      dsimp only
      rw [update_self, accounts.clear _ fresh]
      rfl
  · intro handle absent
    rw [List.map_append, List.map_singleton, List.mem_append, List.mem_singleton, not_or] at absent
    dsimp only
    rw [update_of_ne absent.2]
    exact accounts.clear handle absent.1
  · intro key
    simpa [Waits.woken] using accounts.order key

theorem Accounts.await (wait : Wait) : (waits.await wait).Accounts := by
  by_cases cancelled : wait.key.fd ∈ waits.executor.cancelledFds
  · exact accounts.await_refused cancelled
  · have stored : waits.await wait =
        { waits with
          executor := { waits.executor with
            subscribers := waits.executor.subscribers ++
              [⟨wait.key, wait.waiter waits.started.length⟩] }
          started := waits.started ++ [wait] } := by
      simp only [Waits.await, Executor.subscribe, if_neg cancelled]
    have handle : (wait.waiter waits.started.length).handle = waits.started.length := by
      unfold Wait.waiter
      split <;> rfl
    rw [stored]
    refine ⟨?_, accounts.handed, ?_, ?_, accounts.marked, accounts.clear, ?_, ?_⟩
    · have parked : (waits.executor.subscribers ++
          [(⟨wait.key, wait.waiter waits.started.length⟩ : Subscription)]).map (·.waiter.handle) =
          waits.parked ++ [waits.started.length] := by
        rw [List.map_append, List.map_singleton, handle, Waits.parked]
      dsimp only [Waits.parked] at parked ⊢
      rw [parked, List.length_append, List.length_singleton, List.range_succ, List.append_assoc]
      refine (List.perm_append_comm.append_left _).trans ?_
      rw [← List.append_assoc]
      exact accounts.once.append_right _
    · intro entry listed
      rcases List.mem_append.mp listed with old | new
      · obtain ⟨made, known, same⟩ := accounts.stored entry old
        exact ⟨made, started_concat known, same⟩
      · obtain rfl := List.mem_singleton.mp new
        refine ⟨wait, ?_, ?_⟩ <;> simp [handle]
    · intro ended listed
      obtain ⟨made, known, why⟩ := accounts.reasons ended listed
      exact ⟨made, started_concat known, why⟩
    · intro key
      dsimp only [Executor.queue, Waits.woken]
      rw [List.filter_append, List.map_append, List.map_append, ← List.append_assoc]
      refine List.pairwise_append.mpr ⟨accounts.order key, ?_, ?_⟩
      · exact ((List.pairwise_singleton _ _).sublist (List.filter_sublist.map _)).map _ (fun _ _ =>
          id)
      · intro earlier listed latest new
        rw [List.map_map] at new
        have own := List.mem_singleton.mp ((List.filter_sublist.map _).subset new)
        rw [own, comp_apply, handle]
        exact accounts.in_order_lt listed
    · intro entry listed
      rcases List.mem_append.mp listed with old | new
      · exact accounts.refused entry old
      · obtain rfl := List.mem_singleton.mp new
        exact cancelled

theorem Accounts.registerFd (fd : Fd) :
    ({ waits with executor := waits.executor.registerFd fd } : Waits).Accounts :=
  { accounts with
    refused := fun entry listed still =>
      accounts.refused entry listed (Finset.mem_of_mem_erase still) }

theorem Accounts.resume (handle : Nat) : (waits.resume handle).Accounts := by
  unfold Waits.resume
  split
  · rename_i waiting
    refine { accounts with handed := ?_ }
    refine List.Perm.trans ?_ accounts.handed
    refine (List.perm_append_comm.append_left _).trans ?_
    rw [← List.append_assoc]
    refine List.Perm.append_right _ (List.perm_append_comm.trans ?_)
    exact (List.perm_cons_erase waiting).symm
  · exact accounts

theorem Accounts.step (event : WaitsEvent) : (waits.step event).Accounts := by
  cases event with
  | waitIo key | waitIoUntil key deadlineMs => exact accounts.await _
  | resumeIfFound key => exact accounts.wake key
  | expireWaiters nowMs => exact accounts.expire nowMs
  | cancelIo fd => exact accounts.cancel fd true
  | unregisterFd fd => exact accounts.cancel fd false
  | registerFd fd => exact accounts.registerFd fd
  | resumeWaiter handle => exact accounts.resume handle

end

/-! ## Every run -/

theorem run_accounts (events : List WaitsEvent) : (run step {} events).Accounts :=
  invariant_run (fun _ event accounts _ => Accounts.step accounts event)
    ⟨.nil, .nil, nofun, nofun, nofun, fun _ _ => rfl, fun _ => .nil, nofun⟩
    (admissible_of_events (fun _ _ => trivial : ∀ event ∈ events, True))

end Waits

end KmxAio.Readiness
