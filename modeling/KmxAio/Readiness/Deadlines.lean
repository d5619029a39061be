import KmxAio.Lib.WrappingClock
import KmxAio.Readiness.Waits

/-!
# The deadlines of the event loop

A pass of the loop reads the clock, takes out the waiters whose deadline has passed, and bounds its
`epoll` timeout by the deadlines that are still stored. The clock is reduced to 32 bits, and a
deadline that is reduced to zero reads as none.
-/

namespace KmxAio.Readiness

open Lib.Run Lib.WrappingClock

def remainingMs (deadlineMs nowMs : UInt32) : UInt32 :=
  if (deadlineMs - nowMs).toInt32 > 0 then deadlineMs - nowMs else 0

def Waiter.bound (waiter : Waiter) (nowMs timeoutMs : UInt32) : UInt32 :=
  if waiter.deadlineMs ≠ 0 then min timeoutMs (remainingMs waiter.deadlineMs nowMs) else timeoutMs

/-- The timeout `process_events` waits with, from the configured one. -/
def Executor.waitTimeoutMs (executor : Executor) (timeoutMs nowMs : UInt32) : UInt32 :=
  executor.subscribers.foldl (fun timeout entry => entry.waiter.bound nowMs timeout) timeoutMs

theorem Waiter.bound_le (waiter : Waiter) (nowMs timeoutMs : UInt32) :
    waiter.bound nowMs timeoutMs ≤ timeoutMs := by
  unfold bound
  split
  · exact Std.min_le_left
  · exact UInt32.le_refl _

theorem foldl_bound_le (entries : List Subscription) (nowMs timeoutMs : UInt32) :
    entries.foldl (fun timeout entry => entry.waiter.bound nowMs timeout) timeoutMs ≤
      timeoutMs := by
  induction entries generalizing timeoutMs with
  | nil => exact UInt32.le_refl _
  | cons entry entries ih => exact UInt32.le_trans (ih _) (entry.waiter.bound_le nowMs timeoutMs)

variable {deadline now : Nat} (near : deadline < now + 2 ^ 31) (recent : now < deadline + 2 ^ 31)
include near recent

theorem remainingMs_toNat : (remainingMs (shown deadline) (shown now)).toNat = deadline - now := by
  have signed := ahead_iff deadline now
  rw [ahead, decide_eq_true_iff] at signed
  unfold remainingMs
  by_cases future : now < deadline
  · rw [if_pos (signed.mpr (by omega)), shown_sub_toNat future.le (by omega)]
  · rw [if_neg (fun positive => by have := signed.mp positive; omega)]
    exact (Nat.sub_eq_zero_of_le (Nat.not_lt.mp future)).symm

omit near recent

/-- The first pass at or after the deadline takes the wait out as timed out, the passes before it
leave the wait parked, and the timeout of a pass never exceeds the time left. -/
def Waits.Honours (waits : Waits) (handle deadline now : Nat) (timeoutMs : UInt32) : Prop :=
  (deadline ≤ now →
      handle ∈ (waits.step (.expireWaiters (shown now))).inFlight ∧
      ((waits.step (.expireWaiters (shown now))).flags handle).waitIoUntil = .timedOut) ∧
    (now < deadline → handle ∈ (waits.step (.expireWaiters (shown now))).parked) ∧
    (waits.executor.waitTimeoutMs timeoutMs (shown now)).toNat ≤ deadline - now

variable {waits : Waits} {entry : Subscription}

theorem Waits.stays_parked (stored : entry ∈ waits.executor.subscribers) {nowMs : UInt32}
    (current : entry.waiter.expired nowMs = false) :
    entry.waiter.handle ∈ (waits.step (.expireWaiters nowMs)).parked :=
  List.mem_map_of_mem (List.mem_filter.mpr ⟨stored, by simp [current]⟩)

theorem Waits.Accounts.not_inFlight (accounts : waits.Accounts) {handle : Nat}
    (parked : handle ∈ waits.parked) : handle ∉ waits.inFlight := by
  intro flying
  refine accounts.not_ended parked ?_
  have taken := accounts.handed.subset (List.mem_append_left _ flying)
  exact (List.filter_sublist.map _).subset taken

include near recent in
theorem Waits.Accounts.honours (accounts : waits.Accounts)
    (stored : entry ∈ waits.executor.subscribers) (kept : entry.waiter.deadlineMs = shown deadline)
    (counted : shown deadline ≠ 0) (timeoutMs : UInt32) :
    waits.Honours entry.waiter.handle deadline now timeoutMs := by
  have passes : entry.waiter.expired (shown now) = true ↔ deadline ≤ now := by
    rw [Waiter.expired, decide_eq_true_iff, kept, ge_iff_le, int32_nonneg_iff, UInt32.toNat_sub]
    simp only [shown, UInt32.toNat_ofNat']
    exact ⟨fun passed => by omega, fun passed => ⟨counted, by omega⟩⟩
  refine ⟨fun passed => ?_, fun early => ?_, ?_⟩
  · have taken : entry.waiter ∈ (waits.executor.expireWaiters (shown now)).2 :=
      List.mem_map_of_mem (List.mem_filter.mpr ⟨stored, passes.mpr passed⟩)
    have ended : ⟨entry.waiter.handle, .deadline⟩ ∈
        (waits.step (.expireWaiters (shown now))).ended :=
      List.mem_append_right _ (List.mem_map_of_mem taken)
    refine ⟨List.mem_append_right _ (List.mem_map_of_mem taken), ?_⟩
    rw [(accounts.step (.expireWaiters (shown now))).marked _ ended]
    rfl
  · exact stays_parked stored (by simpa using mt passes.mp (Nat.not_le.mpr early))
  · rw [← remainingMs_toNat near recent, ← kept]
    obtain ⟨before, after, split⟩ := List.append_of_mem stored
    rw [Executor.waitTimeoutMs, split, List.foldl_append, List.foldl_cons]
    refine UInt32.le_iff_toNat_le.mp (UInt32.le_trans (foldl_bound_le after _ _) ?_)
    rw [Waiter.bound, if_pos (kept ▸ counted)]
    exact Std.min_le_right

/-- The deadline of a stored wait is honoured whatever the clock shows exactly when it is not reduced
to zero. -/
theorem deadline_honoured {events : List WaitsEvent} (reached : run Waits.step {} events = waits)
    (handle : Nat) (key : EventKey) (parked : handle ∈ waits.parked)
    (made : waits.started[handle]? = some ⟨key, some (shown deadline)⟩) :
    (∀ now, deadline < now + 2 ^ 31 → now < deadline + 2 ^ 31 →
      ∀ timeoutMs, waits.Honours handle deadline now timeoutMs) ↔ shown deadline ≠ 0 := by
  have accounts : waits.Accounts := reached ▸ Waits.run_accounts events
  obtain ⟨entry, stored, rfl⟩ := List.mem_map.mp parked
  obtain ⟨wait, same, entered⟩ := accounts.stored entry stored
  obtain rfl := Option.some.inj (made.symm.trans same)
  have kept : entry.waiter.deadlineMs = shown deadline := by rw [entered]; rfl
  refine ⟨fun honoured zero => ?_, fun counted now near recent =>
    accounts.honours near recent stored kept counted⟩
  -- the pass at the deadline takes the wait for one without a deadline
  have passed := ((honoured deadline (by omega) (by omega) 0).1 le_rfl).1
  refine (accounts.step _).not_inFlight (Waits.stays_parked stored ?_) passed
  simp [Waiter.expired, kept, zero]

/-- Across the turn of the clock: the pass eight milliseconds early, and the one at the deadline. -/
theorem deadline_honoured_turned :
    ((run Waits.step {} [.waitIoUntil ⟨3, .read⟩ 5]).executor.waitTimeoutMs 1000
        (shown (2 ^ 32 - 3))).toNat ≤ 2 ^ 32 + 5 - (2 ^ 32 - 3) ∧
      0 ∈ (run Waits.step {} [.waitIoUntil ⟨3, .read⟩ 5, .expireWaiters 5]).inFlight := by
  have made : (run Waits.step {} [.waitIoUntil ⟨3, .read⟩ 5]).started[0]? =
      some ⟨⟨3, .read⟩, some (shown (2 ^ 32 + 5))⟩ := by decide
  have honoured := (deadline_honoured rfl 0 ⟨3, .read⟩ (by decide) made).mpr (by decide)
  exact ⟨(honoured (2 ^ 32 - 3) (by decide) (by decide) 1000).2.2,
    ((honoured (2 ^ 32 + 5) (by decide) (by decide) 1000).1 le_rfl).1⟩

/-- At `2 ^ 32` milliseconds the clock shows zero: the wait stays parked after its deadline, and the
timeout is the configured one. -/
theorem zero_deadline_forgotten :
    (run Waits.step {} [.waitIoUntil ⟨3, .read⟩ (shown (2 ^ 32)),
        .expireWaiters (shown (2 ^ 32 + 1))]).parked = [0] ∧
      (run Waits.step {} [.waitIoUntil ⟨3, .read⟩ (shown (2 ^ 32)),
        .expireWaiters (shown (2 ^ 32 + 1))]).executor.waitTimeoutMs 1000
          (shown (2 ^ 32 + 1)) = 1000 := by
  decide

end KmxAio.Readiness
