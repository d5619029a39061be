import Mathlib.Data.List.Basic
import Mathlib.Logic.Function.Basic

/-!
# A mutex that is handed over

An agent that asks for a mutex takes it if it is free and waits in line if it is not.
An agent that gives it up hands it to the first in line, without the mutex becoming free
in between. Where each agent stands is a function of the agent; the mutex knows only
whether it is held and who waits. Whatever the order of requests and releases, at most
one agent holds the mutex.
-/

namespace KmxAio.Lib

open Function

variable {Agent : Type}

/-- Where an agent stands. -/
inductive Standing where
  | outside
  | waiting
  | holding
  deriving DecidableEq

structure HandoverMutex (Agent : Type) where
  held : Bool := false
  waiters : List Agent := []
  deriving DecidableEq

namespace HandoverMutex

/-- Takes the mutex if it is free; says whether the agent has to wait. -/
def acquireOrEnqueue (mutex : HandoverMutex Agent) (agent : Agent) : HandoverMutex Agent × Bool :=
  if mutex.held then ({ mutex with waiters := mutex.waiters ++ [agent] }, true)
  else ({ mutex with held := true }, false)

/-- Gives the mutex up; says to whom it was handed. -/
def unlock (mutex : HandoverMutex Agent) : HandoverMutex Agent × Option Agent :=
  match mutex.waiters with
  | [] => ({ mutex with held := false }, none)
  | next :: waiters => ({ mutex with waiters := waiters }, some next)

/-- The mutex agrees with where the agents stand. -/
structure Agrees (mutex : HandoverMutex Agent) (standing : Agent → Standing) : Prop where
  held_iff : mutex.held = true ↔ ∃ agent, standing agent = .holding
  mem_waiters : ∀ agent, agent ∈ mutex.waiters ↔ standing agent = .waiting
  nodup : mutex.waiters.Nodup
  free : mutex.held = false → mutex.waiters = []
  unique : ∀ first second, standing first = .holding → standing second = .holding → first = second

theorem agrees_unused {standing : Agent → Standing} (unused : ∀ agent, standing agent = .outside) :
    Agrees ({} : HandoverMutex Agent) standing := by
  refine ⟨?_, ?_, List.nodup_nil, fun _ => rfl, ?_⟩
  · simp [unused]
  · simp [unused]
  · intro first second holding
    rw [unused] at holding
    cases holding

variable {mutex : HandoverMutex Agent} {standing : Agent → Standing} {agent next : Agent}
  {waiters : List Agent}

theorem Agrees.first_waiting (agrees : mutex.Agrees standing)
    (line : mutex.waiters = next :: waiters) : standing next = .waiting := by
  rw [← agrees.mem_waiters, line]
  exact List.mem_cons_self

theorem Agrees.first_ne (agrees : mutex.Agrees standing) (holding : standing agent = .holding)
    (line : mutex.waiters = next :: waiters) : next ≠ agent := by
  have waiting := agrees.first_waiting line
  rintro rfl
  rw [waiting] at holding
  cases holding

variable [DecidableEq Agent]

theorem update_eq_iff {now other : Standing} {someone : Agent} :
    update standing agent now someone = other ↔
      (someone = agent ∧ now = other) ∨ (someone ≠ agent ∧ standing someone = other) := by
  by_cases same : someone = agent
  · subst same
    simp
  · simp [same]

/-- An agent that finds the mutex held waits in line. -/
theorem Agrees.enqueue (agrees : mutex.Agrees standing) (outside : standing agent = .outside)
    (held : mutex.held = true) :
    Agrees { mutex with waiters := mutex.waiters ++ [agent] }
      (update standing agent .waiting) := by
  obtain ⟨held_iff, mem_waiters, nodup, free, unique⟩ := agrees
  have notWaiting : agent ∉ mutex.waiters := by
    rw [mem_waiters, outside]
    decide
  refine ⟨?_, ?_, ?_, ?_, ?_⟩
  · obtain ⟨holder, holding⟩ := held_iff.mp held
    have other : holder ≠ agent := by
      rintro rfl
      rw [outside] at holding
      cases holding
    exact iff_of_true held ⟨holder, update_eq_iff.mpr (.inr ⟨other, holding⟩)⟩
  · intro someone
    rw [List.mem_append, List.mem_singleton, mem_waiters, update_eq_iff]
    by_cases same : someone = agent <;> simp [same]
  · rw [List.nodup_append]
    refine ⟨nodup, List.pairwise_singleton _ agent, ?_⟩
    intro first member second alone equal
    rw [List.mem_singleton] at alone
    exact notWaiting (alone ▸ equal ▸ member)
  · intro notHeld
    rw [held] at notHeld
    cases notHeld
  · intro first second holdsFirst holdsSecond
    rcases update_eq_iff.mp holdsFirst with ⟨_, impossible⟩ | ⟨_, holdsFirst⟩
    · cases impossible
    rcases update_eq_iff.mp holdsSecond with ⟨_, impossible⟩ | ⟨_, holdsSecond⟩
    · cases impossible
    exact unique first second holdsFirst holdsSecond

/-- An agent that finds the mutex free has it. -/
theorem Agrees.take (agrees : mutex.Agrees standing) (outside : standing agent = .outside)
    (notHeld : mutex.held = false) :
    Agrees { mutex with held := true } (update standing agent .holding) := by
  obtain ⟨held_iff, mem_waiters, nodup, free, _⟩ := agrees
  have nobody : ∀ someone, standing someone ≠ .holding := by
    intro someone holding
    rw [held_iff.mpr ⟨someone, holding⟩] at notHeld
    cases notHeld
  have alone : ∀ someone, update standing agent .holding someone = .holding →
      someone = agent := by
    intro someone holding
    rcases update_eq_iff.mp holding with ⟨same, _⟩ | ⟨_, impossible⟩
    · exact same
    · exact absurd impossible (nobody someone)
  refine ⟨?_, ?_, nodup, (by intro impossible; cases impossible), ?_⟩
  · exact iff_of_true rfl ⟨agent, update_self ..⟩
  · intro someone
    rw [mem_waiters, update_eq_iff]
    by_cases same : someone = agent
    · subst same
      simp [outside]
    · simp [same]
  · intro first second holdsFirst holdsSecond
    rw [alone first holdsFirst, alone second holdsSecond]

/-- A mutex that nobody waits for becomes free. -/
theorem Agrees.release (agrees : mutex.Agrees standing) (holding : standing agent = .holding)
    (nobody : mutex.waiters = []) :
    Agrees { mutex with held := false } (update standing agent .outside) := by
  obtain ⟨_, mem_waiters, nodup, _, unique⟩ := agrees
  have gone : ∀ someone, update standing agent .outside someone ≠ .holding := by
    intro someone stillHolding
    rcases update_eq_iff.mp stillHolding with ⟨_, impossible⟩ | ⟨other, also⟩
    · cases impossible
    · exact other (unique someone agent also holding)
  refine ⟨?_, ?_, nodup, fun _ => nobody, ?_⟩
  · exact iff_of_false Bool.false_ne_true fun ⟨someone, stillHolding⟩ => gone someone stillHolding
  · intro someone
    rw [mem_waiters, update_eq_iff]
    by_cases same : someone = agent
    · subst same
      simp [holding]
    · simp [same]
  · intro first second stillHolding
    exact absurd stillHolding (gone first)

/-- A mutex that is waited for goes to the first in line and is never free. -/
theorem Agrees.handOver (agrees : mutex.Agrees standing) (holding : standing agent = .holding)
    (line : mutex.waiters = next :: waiters) :
    Agrees { mutex with waiters := waiters }
      (update (update standing agent .outside) next .holding) := by
  obtain ⟨held_iff, mem_waiters, nodup, _, unique⟩ := agrees
  have held : mutex.held = true := held_iff.mpr ⟨agent, holding⟩
  rw [line] at nodup
  obtain ⟨notAgain, rest⟩ := List.nodup_cons.mp nodup
  have alone : ∀ someone, update (update standing agent .outside) next .holding
      someone = .holding → someone = next := by
    intro someone nowHolding
    rcases update_eq_iff.mp nowHolding with ⟨same, _⟩ | ⟨_, before⟩
    · exact same
    rcases update_eq_iff.mp before with ⟨_, impossible⟩ | ⟨other, also⟩
    · cases impossible
    · exact absurd (unique someone agent also holding) other
  refine ⟨?_, ?_, rest, ?_, ?_⟩
  · exact iff_of_true held ⟨next, update_self ..⟩
  · intro someone
    rw [update_eq_iff, update_eq_iff]
    have before := mem_waiters someone
    rw [line, List.mem_cons] at before
    by_cases isNext : someone = next
    · subst isNext
      simp [notAgain]
    · by_cases isAgent : someone = agent
      · subst isAgent
        have notWaiting : someone ∉ waiters := by
          intro member
          rw [before.mp (.inr member)] at holding
          cases holding
        simp [isNext, notWaiting]
      · simp only [isNext, isAgent, false_or, false_and, ne_eq, not_false_iff, true_and] at before ⊢
        exact before
  · intro notHeld
    rw [held] at notHeld
    cases notHeld
  · intro first second holdsFirst holdsSecond
    rw [alone first holdsFirst, alone second holdsSecond]

end HandoverMutex

end KmxAio.Lib
