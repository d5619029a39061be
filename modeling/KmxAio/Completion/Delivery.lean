import KmxAio.Completion.Ownership

/-!
# Completions that nobody waits for yet

A call submits its entries before it suspends and records itself. On the thread of
the loop nothing can come between. On any other thread the loop can reap the
completion first: it finds no coroutine recorded, stores the result, and the call
then suspends on a completion that is gone.
-/

namespace KmxAio.Completion

open Lib.Run

namespace System

/-- The completions that were reaped resumed their calls, each once and in that order, and the calls
returned what the results say. No call is suspended on a completion that was reaped. -/
structure Delivered (sys : System) : Prop where
  resumed : sys.resumed = sys.reaped
  once : (sys.reaped.map Prod.fst).Nodup
  returned : ∀ pair ∈ sys.reaped, ∃ operation,
    sys.operations[pair.1]? = some operation ∧
      operation.phase = .returned (operation.call.outcome pair.2)
  awaited : ∀ num operation, sys.operations[num]? = some operation →
    operation.phase = .waiting → num ∉ sys.reaped.map Prod.fst

/-- When the loop reaps, no call on another thread is between preparing its entries and recording
itself. -/
def Undisturbed (sys : System) : UringEvent → Prop
  | .reap => ∀ op ∈ sys.operations,
      op.onLoopThread = false → op.phase.exposed = false
  | _ => True

instance (sys : System) (event : UringEvent) : Decidable (sys.Undisturbed event) :=
  match event with
  | .reap => inferInstanceAs (Decidable (∀ op ∈ sys.operations,
      op.onLoopThread = false → op.phase.exposed = false))
  | .start _ _ _ | .take _ | .fill _ | .submit _ _ | .suspend _ | .submitAndWait _
  | .complete _ _ => .isTrue trivial

theorem delivered_create (ringEntries size : Nat) : (create ringEntries size).Delivered where
  resumed := rfl
  once := List.nodup_nil
  returned := nofun
  awaited := nofun

variable {sys after : System} {num : Nat} {op : Operation}

theorem waiting_not_reaped
    (returned : ∀ pair ∈ sys.reaped, ∃ op,
      sys.operations[pair.1]? = some op ∧ op.phase = .returned (op.call.outcome pair.2))
    (known : sys.operations[num]? = some op) (waiting : op.phase = .waiting) :
    num ∉ sys.reaped.map Prod.fst := by
  intro reaped
  obtain ⟨pair, listed, rfl⟩ := List.mem_map.mp reaped
  obtain ⟨found, there, ended⟩ := returned pair listed
  rw [known] at there
  rw [Option.some.inj there, ended] at waiting
  cases waiting

/-! ## What a step of a call or of the kernel leaves alone -/

/-- Nothing was reaped, and the calls that returned are as they were. -/
structure Keeps (sys after : System) : Prop where
  reaped : after.reaped = sys.reaped
  resumed : after.resumed = sys.resumed
  finished : ∀ (num : Nat) (operation : Operation), sys.operations[num]? = some operation →
    operation.phase.unfinished = false → after.operations[num]? = some operation

theorem Keeps.refl (sys : System) : sys.Keeps sys where
  reaped := rfl
  resumed := rfl
  finished := fun _ _ known _ => known

theorem Delivered.keeps (delivered : sys.Delivered) (keeps : sys.Keeps after) :
    after.Delivered := by
  have returned : ∀ pair ∈ after.reaped, ∃ op,
      after.operations[pair.1]? = some op ∧ op.phase = .returned (op.call.outcome pair.2) := by
    intro pair listed
    rw [keeps.reaped] at listed
    obtain ⟨op, known, ended⟩ := delivered.returned pair listed
    exact ⟨op, keeps.finished _ op known (by rw [ended]; rfl), ended⟩
  refine ⟨?_, ?_, returned, fun _ _ known waiting => waiting_not_reaped returned known waiting⟩
  · rw [keeps.resumed, keeps.reaped]
    exact delivered.resumed
  · rw [keeps.reaped]
    exact delivered.once

theorem keeps_moved {phase : Phase} (known : sys.operations[num]? = some op)
    (running : op.phase.unfinished = true)
    (operations : after.operations = (sys.setPhase num phase).operations)
    (reaped : after.reaped = sys.reaped) (resumed : after.resumed = sys.resumed) :
    sys.Keeps after := by
  refine ⟨reaped, resumed, fun other found there ended => ?_⟩
  have different : other ≠ num := by
    rintro rfl
    rw [known] at there
    rw [Option.some.inj there, ended] at running
    cases running
  rw [operations]
  change (sys.moved num phase sys.ring sys.contexts).operations[other]? = _
  rw [operations_moved known, if_neg different]
  exact there

theorem keeps_start (sys : System) (call : Call) (address : Address) (onLoopThread : Bool) :
    sys.Keeps (sys.start call address onLoopThread) := by
  have appended : ∀ (last : Operation) (num : Nat) (op : Operation),
      sys.operations[num]? = some op → op.phase.unfinished = false →
        (sys.operations ++ [last])[num]? = some op := by
    intro last num op known _
    obtain ⟨inside, -⟩ := List.getElem?_eq_some_iff.mp known
    rw [List.getElem?_append_left inside, known]
  unfold System.start
  split
  · exact .refl sys
  cases call.rejection with
  | some error | none => exact ⟨rfl, rfl, appended _⟩

section

variable (known : sys.operations[num]? = some op)
  (running : op.phase.unfinished = true)

include known running

theorem keeps_took {ring : Lib.SlotQueue Sqe} {got : List (Option Nat)} :
    sys.Keeps ({ sys with ring := ring }.took num op got) := by
  unfold System.took
  split
  · exact keeps_moved known running rfl rfl rfl
  split <;> exact keeps_moved known running rfl rfl rfl

theorem keeps_take {got : List (Option Nat)} : sys.Keeps (sys.take num op got) := by
  unfold System.take
  split <;> exact keeps_took known running

theorem keeps_proceed : sys.Keeps (sys.proceed num op) := by
  unfold System.proceed
  split <;> exact keeps_moved known running rfl rfl rfl

theorem keeps_submit {answer : SubmitAnswer} : sys.Keeps (sys.submit num op answer) := by
  unfold System.submit
  split
  · exact keeps_proceed known running
  cases answer with
  | failed error => exact keeps_moved known running rfl rfl rfl
  | taken count =>
    have there : (sys.handOver count).operations[num]? = some op := known
    have kept := keeps_proceed there running
    exact ⟨kept.reaped, kept.resumed, kept.finished⟩

end

theorem keeps_step (sys : System) {event : UringEvent} (other : event ≠ .reap) :
    sys.Keeps (sys.step event) := by
  have steps := sys.step_stepsTo event
  generalize sys.step event = after at steps ⊢
  cases steps with
  | idle => exact .refl sys
  | start call address onLoopThread => exact keeps_start sys call address onLoopThread
  | take known taking => exact keeps_take known (by rw [taking]; rfl)
  | fill known filling => exact keeps_moved known (by rw [filling]; rfl) rfl rfl rfl
  | submit answer known ready => exact keeps_submit known (by rw [ready]; rfl)
  | suspend known reached => exact keeps_moved known (by rw [reached]; rfl) rfl rfl rfl
  | submitAndWait count =>
    unfold System.submitAndWait
    split
    · exact ⟨rfl, rfl, fun _ _ known _ => known⟩
    · exact .refl sys
  | complete index result =>
    unfold System.complete
    split
    · exact .refl sys
    · exact ⟨rfl, rfl, fun _ _ known _ => known⟩
  | reap => exact absurd rfl other

/-! ## Reaping -/

theorem Delivered.resumes (delivered : sys.Delivered) {completion : Cqe} {rest : List Cqe}
    (known : sys.operations[completion.entry.taker]? = some op) (waiting : op.phase = .waiting) :
    ({ sys.received completion rest with
        resumed := sys.resumed ++ [(completion.entry.taker, completion.result)] }.finish
      completion.entry.taker op
      (.returned (op.call.outcome completion.result))).Delivered := by
  have fresh := delivered.awaited _ op known waiting
  have returned : ∀ pair ∈ sys.reaped ++ [(completion.entry.taker, completion.result)],
      ∃ found, (sys.moved completion.entry.taker
          (.returned (op.call.outcome completion.result)) sys.ring
          sys.contexts).operations[pair.1]? = some found ∧
        found.phase = .returned (found.call.outcome pair.2) := by
    intro pair listed
    rw [operations_moved known]
    rcases List.mem_append.mp listed with old | new
    · have different : pair.1 ≠ completion.entry.taker :=
        fun same => fresh (same ▸ List.mem_map_of_mem old)
      rw [if_neg different]
      exact delivered.returned pair old
    · rw [List.mem_singleton.mp new, if_pos rfl]
      exact ⟨_, rfl, rfl⟩
  refine ⟨?_, ?_, returned, fun _ _ there still => waiting_not_reaped returned there still⟩
  · change sys.resumed ++ _ = sys.reaped ++ _
    rw [delivered.resumed]
  · change ((sys.reaped ++ [_]).map Prod.fst).Nodup
    rw [List.map_append, List.map_singleton]
    refine List.nodup_append.mpr ⟨delivered.once, List.nodup_singleton _, ?_⟩
    intro first listed last new same
    rw [same, List.mem_singleton.mp new] at listed
    exact fresh listed

theorem Delivered.reap (delivered : sys.Delivered) (owned : sys.Owned)
    (undisturbed : sys.Undisturbed .reap) : sys.reap.Delivered := by
  rcases sys.reap_cases with idle | ⟨completion, rest, next, free, reaped⟩
  · rw [idle]
    exact delivered
  rcases reaped with ⟨-, past⟩ | ⟨address, data, dispatched⟩
  · rw [past]
    exact ⟨delivered.resumed, delivered.once, delivered.returned, delivered.awaited⟩
  have listed := mem_kernelEntries next
  obtain ⟨op, ctx, known, -, there, -, reached⟩ := owned.named listed data
  have here : (sys.received completion rest).contexts address = some ctx := there
  have also := known
  rw [dispatched]
  rcases reached with ⟨waiting, recorded⟩ | ⟨exposed, -⟩
  · rw [dispatch_resumed here recorded also]
    exact delivered.resumes known waiting
  · -- the loop reaps while its thread runs no call, so one that is exposed runs on another
    have present := List.mem_of_getElem? known
    by_cases onLoop : op.onLoopThread = true
    · have idle := List.all_eq_true.mp free op present
      rw [onLoop, Phase.midway_of_exposed exposed] at idle
      cases idle
    · rw [undisturbed op present (Bool.eq_false_iff.mpr onLoop)] at exposed
      cases exposed

/-! ## Every run -/

/-- The loop reaps the completion of an operation that another thread started, between its submission
and its suspension. -/
def reapedBeforeSuspension : List UringEvent :=
  [.start .read 1 false, .take 0, .fill 0, .submit 0 (.taken 1), .complete 0 5, .reap, .suspend 0]

theorem completion_lost_before_suspension :
    (run step (create 4 4) reapedBeforeSuspension).reaped = [(0, 5)] ∧
      (run step (create 4 4) reapedBeforeSuspension).resumed = [] ∧
      (run step (create 4 4) reapedBeforeSuspension).operations = [⟨.read, 1, false, .waiting⟩] ∧
      ¬(run step (create 4 4) reapedBeforeSuspension).Delivered := by
  refine ⟨by decide, by decide, by decide, fun delivered => ?_⟩
  exact absurd delivered.resumed (by decide)

/-- In an orderly run in which the loop reaps only while no call on another thread is between
preparing its entries and recording itself, each completion that was reaped resumed its call once,
with its result, and no call is suspended on one that was reaped. -/
theorem no_completion_lost {ringEntries size : Nat} {events : List UringEvent}
    (undisturbed : Admissible step (fun sys event =>
      sys.Orderly event ∧ sys.Undisturbed event) (create ringEntries size) events) :
    (run step (create ringEntries size) events).Delivered := by
  have preserved : ∀ (sys : System) event, sys.Owned ∧ sys.Delivered →
      sys.Orderly event ∧ sys.Undisturbed event →
        (sys.step event).Owned ∧ (sys.step event).Delivered := by
    intro sys event invariant allowed
    obtain ⟨owned, delivered⟩ := invariant
    refine ⟨owned.step allowed.1, ?_⟩
    by_cases reaps : event = .reap
    · subst reaps
      exact delivered.reap owned allowed.2
    · exact delivered.keeps (keeps_step sys reaps)
  exact (invariant_run preserved ⟨owned_create ringEntries size, delivered_create ringEntries size⟩
    undisturbed).2

/-- One operation is started before the loop runs, another by the coroutine that was resumed. -/
def twoDelivered : List UringEvent :=
  [.start .recvmsgUntil 7 false, .take 0, .take 0, .fill 0, .fill 0, .submit 0 (.taken 2),
    .suspend 0, .complete 0 (-125), .complete 0 (-62), .reap, .start .read 7 true, .take 1, .fill 1,
    .submit 1 (.taken 0), .suspend 1, .submitAndWait 1, .reap, .complete 0 12, .reap]

theorem no_completion_lost_two :
    (run step (create 8 8) twoDelivered).reaped = [(0, -125), (1, 12)] ∧
      (run step (create 8 8) twoDelivered).operations =
        [⟨.recvmsgUntil, 7, false, .returned (.failed ETIMEDOUT)⟩,
          ⟨.read, 7, true, .returned (.value 12)⟩] ∧
      (run step (create 8 8) twoDelivered).Delivered :=
  ⟨by decide, by decide, no_completion_lost (by decide)⟩

end System

end KmxAio.Completion
