import Mathlib.Data.List.Nodup
import Mathlib.Data.List.Perm.Subperm
import KmxAio.Completion.Executor
import KmxAio.Lib.Run

/-!
# Who an entry in the kernel belongs to

An entry goes to the kernel with whichever submission comes next. Two error paths of
a call leave an entry behind although the call returns: a submission that fails
leaves the entries it prepared, and a receive with a timeout that finds room for one
entry only leaves that one as it was taken. And an entry that was taken and not
prepared yet goes along when another thread submits.
-/

namespace KmxAio.Completion

open Lib Lib.Run Function SlotQueue

def Sqe.names (num : Nat) (entry : Sqe) : Bool :=
  entry.prepared && entry.content.userData.isSome && decide (entry.taker = num)

def Phase.held : Phase → List Nat
  | .taking got => got.filterMap id
  | .filling left => left.map Prod.fst
  | _ => []

def Phase.answers : Phase → List (Option Nat)
  | .taking got => got
  | _ => []

namespace Operation

/-- How many entries that name its context a call has still to prepare. -/
def owed (op : Operation) : Nat :=
  match op.phase with
  | .taking _ =>
    (op.call.contents op.address).countP (fun content => content.userData.isSome)
  | .filling left => left.countP (fun pair => pair.2.userData.isSome)
  | _ => 0

/-- A call takes as many entries as it has contents, and prepares them with these. -/
def Planned (op : Operation) : Prop :=
  match op.phase with
  | .taking got => got.length < (op.call.contents op.address).length
  | .filling left =>
    left ≠ [] ∧ ∀ pair ∈ left, pair.2 ∈ op.call.contents op.address
  | _ => True

/-- An entry that a call took is one it may have left in the queue or the kernel: prepared as the call
does, while the call is there, and without naming it once it has returned. -/
def Admits (op : Operation) (entry : Sqe) : Prop :=
  match op.phase with
  | .taking got => entry.prepared = false ∧ got.filterMap id ≠ []
  | .refused _ => False
  | .returned _ => entry.prepared = true → entry.content.userData = none
  | _ => entry.prepared = true → entry.content ∈ op.call.contents op.address

variable {op : Operation} {got : List (Option Nat)}

theorem owed_of_taking (taking : op.phase = .taking got) :
    op.owed = (op.call.contents op.address).countP (fun content => content.userData.isSome) := by
  rw [owed, taking]

theorem planned_of_taking (taking : op.phase = .taking got) (planned : op.Planned) :
    got.length < (op.call.contents op.address).length := by
  rwa [Planned, taking] at planned

theorem admits_of_taking (taking : op.phase = .taking got) {entry : Sqe}
    (admits : op.Admits entry) : entry.prepared = false ∧ got.filterMap id ≠ [] := by
  rwa [Admits, taking] at admits

end Operation

open Operation

namespace Call

theorem contents_address {call : Call} {address named : Address} {content : Content}
    (listed : content ∈ call.contents address) (data : content.userData = some named) :
    named = address := by
  cases call <;> simp only [contents, List.mem_cons, List.not_mem_nil, or_false] at listed <;>
    rcases listed with rfl | rfl <;> cases data <;> rfl

theorem contents_names_once (call : Call) (address : Address) :
    (call.contents address).countP (fun content => content.userData.isSome) ≤ 1 := by
  cases call <;> simp [contents]

theorem contents_nonempty (call : Call) (address : Address) :
    0 < (call.contents address).length := by
  cases call <;> simp [contents]

end Call

namespace System

def kernelEntries (sys : System) : List Sqe :=
  sys.inFlight ++ sys.completions.map (·.entry)

def entries (sys : System) : List Sqe := sys.ring.pending ++ sys.kernelEntries

theorem mem_kernelEntries {sys : System} {completion : Cqe} {rest : List Cqe}
    (next : sys.completions = completion :: rest) : completion.entry ∈ sys.kernelEntries := by
  rw [kernelEntries, next]
  exact List.mem_append_right _ List.mem_cons_self

/-- The entry is in order: when it names a context, a call prepared it that has not returned to its
caller, and the context is that of the call. The call that took it has not given up. -/
def Belongs (sys : System) (entry : Sqe) : Prop :=
  (∀ address, entry.content.userData = some address → entry.prepared = true ∧
    ∃ ctx op, sys.contexts address = some ctx ∧
      ctx.operation = entry.taker ∧ sys.operations[entry.taker]? = some op ∧
      op.address = address ∧ op.phase.unfinished = true) ∧
  ∀ op, sys.operations[entry.taker]? = some op → op.phase.isRefused = false

/-- The context of a call that has not finished names it, and resumes it where it waits. -/
def Framed (contexts : Address → Option IoContext) (num : Nat) (address : Address)
    (phase : Phase) : Prop :=
  phase.unfinished = true → ∃ ctx, contexts address = some ctx ∧ ctx.operation = num ∧
    ctx.continuation = if phase = .waiting then some num else none

/-- Every entry was taken by a call that admits it, and those in the kernel were prepared. A call
holds the positions it took, its context names it from where it suspends, and it is named by one
entry at most. -/
structure Owned (sys : System) : Prop where
  taken : ∀ entry ∈ sys.entries, ∃ operation,
    sys.operations[entry.taker]? = some operation ∧ operation.Admits entry
  kernel : ∀ entry ∈ sys.kernelEntries, entry.prepared = true
  planned : ∀ operation ∈ sys.operations, operation.Planned
  held : ∀ num operation, sys.operations[num]? = some operation →
    operation.phase.held.Nodup ∧ ∀ position ∈ operation.phase.held,
      sys.ring.Waits position ∧ (sys.ring.entry position).taker = num ∧
        (sys.ring.entry position).prepared = false
  framed : ∀ num operation, sys.operations[num]? = some operation →
    Framed sys.contexts num operation.address operation.phase
  single : ∀ num operation, sys.operations[num]? = some operation →
    sys.entries.countP (Sqe.names num) + operation.owed ≤ 1

theorem owned_create (ringEntries size : Nat) : (create ringEntries size).Owned where
  taken := by simp [create, entries, kernelEntries, empty, pending]
  kernel := by simp [create, kernelEntries]
  planned := by simp [create]
  held := by simp [create]
  framed := by simp [create]
  single := by simp [create]

variable {sys : System} {num : Nat} {op : Operation}

theorem Owned.address_unique (owned : sys.Owned) {other : Nat} {second : Operation}
    (known : sys.operations[num]? = some op) (running : op.phase.unfinished = true)
    (also : sys.operations[other]? = some second) (too : second.phase.unfinished = true)
    (same : second.address = op.address) : other = num := by
  obtain ⟨ctx, framed, named, -⟩ := owned.framed num op known running
  obtain ⟨found, framedToo, namedToo, -⟩ := owned.framed other second also too
  rw [same, framed] at framedToo
  rw [← named, ← namedToo, Option.some.inj framedToo]

/-! ## One call moves on -/

/-- A call has come to another phase; the queue and the contexts may have changed with it. -/
def moved (sys : System) (num : Nat) (phase : Phase) (ring : SlotQueue Sqe)
    (contexts : Address → Option IoContext) : System :=
  { sys.setPhase num phase with ring := ring, contexts := contexts }

variable {phase : Phase} {ring : SlotQueue Sqe} {contexts : Address → Option IoContext}
  {spot : Nat} {left : List (Nat × Content)} {address : Address}

theorem operations_moved (known : sys.operations[num]? = some op) (other : Nat) :
    (sys.moved num phase ring contexts).operations[other]? =
      if other = num then some { op with phase := phase }
      else sys.operations[other]? := by
  change (sys.operations.modify num _)[other]? = _
  by_cases same : other = num
  · subst same
    simp [known]
  · have apart : num ≠ other := Ne.symm same
    simp [same, apart]

theorem moved_operation (known : sys.operations[num]? = some op) {other : Nat} {found : Operation}
    (there : (sys.moved num phase ring contexts).operations[other]? = some found) :
    (other = num ∧ found = { op with phase := phase }) ∨
      (other ≠ num ∧ sys.operations[other]? = some found) := by
  rw [operations_moved known] at there
  split at there
  · rename_i same
    exact .inl ⟨same, (Option.some.inj there).symm⟩
  · rename_i different
    exact .inr ⟨different, there⟩

section

variable (owned : sys.Owned) (known : sys.operations[num]? = some op)
  (running : op.phase.unfinished = true)

include owned known running

/-- What a call must keep up as it moves on: its own entries are admitted, it holds what it took, its
context is right, and the others see no change. -/
theorem Owned.moved
    (own : ∀ entry ∈ (sys.moved num phase ring contexts).entries, entry.taker = num →
      ({ op with phase := phase } : Operation).Admits entry)
    (rest : ∀ entry ∈ (sys.moved num phase ring contexts).entries, entry.taker ≠ num →
      entry ∈ sys.entries) (planned : ({ op with phase := phase } : Operation).Planned)
    (holds : phase.held.Nodup ∧ ∀ spot ∈ phase.held,
      ring.Waits spot ∧ (ring.entry spot).taker = num ∧ (ring.entry spot).prepared = false)
    (kept : ∀ spot, sys.ring.Waits spot →
      (sys.ring.entry spot).taker ≠ num →
      ring.Waits spot ∧ ring.entry spot = sys.ring.entry spot)
    (frame : Framed contexts num op.address phase)
    (elsewhere : ∀ address, address ≠ op.address → contexts address = sys.contexts address)
    (counts : ∀ other, other ≠ num →
      (sys.moved num phase ring contexts).entries.countP (Sqe.names other) ≤
        sys.entries.countP (Sqe.names other))
    (owes : (sys.moved num phase ring contexts).entries.countP (Sqe.names num) +
      ({ op with phase := phase } : Operation).owed ≤ 1) :
    (sys.moved num phase ring contexts).Owned where
  taken := by
    intro entry listed
    rw [operations_moved known]
    by_cases mine : entry.taker = num
    · exact ⟨_, if_pos mine, own entry listed mine⟩
    · rw [if_neg mine]
      exact owned.taken entry (rest entry listed mine)
  kernel := owned.kernel
  planned := by
    intro found listed
    obtain ⟨other, there⟩ := List.mem_iff_getElem?.mp listed
    rcases moved_operation known there with ⟨-, rfl⟩ | ⟨-, there⟩
    · exact planned
    · exact owned.planned found (List.mem_of_getElem? there)
  held := by
    intro other found there
    rcases moved_operation known there with ⟨rfl, rfl⟩ | ⟨different, there⟩
    · exact holds
    · obtain ⟨distinct, holding⟩ := owned.held other found there
      refine ⟨distinct, fun spot listed => ?_⟩
      obtain ⟨waits, taker, unprepared⟩ := holding spot listed
      obtain ⟨still, same⟩ := kept spot waits (taker ▸ different)
      change ring.Waits spot ∧ (ring.entry spot).taker = other ∧ (ring.entry spot).prepared = false
      rw [same]
      exact ⟨still, taker, unprepared⟩
  framed := by
    intro other found there unfinished
    rcases moved_operation known there with ⟨rfl, rfl⟩ | ⟨different, there⟩
    · exact frame unfinished
    · have apart : found.address ≠ op.address :=
        fun same => different (owned.address_unique known running there unfinished same)
      change ∃ ctx, contexts found.address = some ctx ∧ _
      rw [elsewhere _ apart]
      exact owned.framed other found there unfinished
  single := by
    intro other found there
    rcases moved_operation known there with ⟨rfl, rfl⟩ | ⟨different, there⟩
    · exact owes
    · exact Nat.le_trans (Nat.add_le_add_right (counts other different) _)
        (owned.single other found there)

theorem Owned.moved_still
    (own : ∀ entry ∈ sys.entries, entry.taker = num → op.Admits entry →
      ({ op with phase := phase } : Operation).Admits entry)
    (planned : ({ op with phase := phase } : Operation).Planned)
    (holds : phase.held = op.phase.held) (frame : Framed contexts num op.address phase)
    (elsewhere : ∀ address, address ≠ op.address → contexts address = sys.contexts address)
    (owes : ({ op with phase := phase } : Operation).owed ≤ op.owed) :
    (sys.moved num phase sys.ring contexts).Owned := by
  refine owned.moved known running ?_ (fun _ listed _ => listed) planned ?_
    (fun _ waits _ => ⟨waits, rfl⟩) frame elsewhere (fun _ _ => Nat.le_refl _) ?_
  · intro entry listed mine
    obtain ⟨taker, there, admits⟩ := owned.taken entry listed
    rw [mine, known] at there
    exact own entry listed mine (Option.some.inj there ▸ admits)
  · rw [holds]
    exact owned.held num op known
  · exact Nat.le_trans (Nat.add_le_add_left owes _) (owned.single num op known)

end

/-! ## Taking entries -/

theorem concat_cases {last found : Operation} {operations : List Operation} {index : Nat}
    (there : (operations ++ [last])[index]? = some found) :
    operations[index]? = some found ∨ (index = operations.length ∧ found = last) := by
  rw [List.getElem?_append] at there
  split at there
  · exact .inl there
  rename_i beyond
  rw [List.getElem?_singleton] at there
  split at there
  · rename_i first
    exact .inr ⟨by omega, (Option.some.inj there).symm⟩
  · cases there

theorem Owned.joined (owned : sys.Owned) (planned : op.Planned) (empty : op.phase.held = [])
    (frame : Framed contexts sys.operations.length op.address op.phase)
    (elsewhere : ∀ address, (sys.contexts address).isSome →
      contexts address = sys.contexts address) (owes : op.owed ≤ 1) :
    ({ sys with
        operations := sys.operations ++ [op], contexts := contexts } : System).Owned where
  taken := by
    intro entry listed
    obtain ⟨taker, there, admits⟩ := owned.taken entry listed
    obtain ⟨inside, -⟩ := List.getElem?_eq_some_iff.mp there
    exact ⟨taker, by rw [List.getElem?_append_left inside, there], admits⟩
  kernel := owned.kernel
  planned := by
    intro found listed
    rcases List.mem_append.mp listed with old | new
    · exact owned.planned found old
    · rw [List.mem_singleton.mp new]
      exact planned
  held := by
    intro other found there
    rcases concat_cases there with old | ⟨-, rfl⟩
    · exact owned.held other found old
    · rw [empty]
      exact ⟨List.nodup_nil, nofun⟩
  framed := by
    intro other found there unfinished
    rcases concat_cases there with old | ⟨rfl, rfl⟩
    · obtain ⟨ctx, framed, right⟩ := owned.framed other found old unfinished
      refine ⟨ctx, ?_, right⟩
      rw [← framed]
      exact elsewhere _ (by rw [framed]; rfl)
    · exact frame unfinished
  single := by
    intro other found there
    rcases concat_cases there with old | ⟨rfl, rfl⟩
    · exact owned.single other found old
    · have unnamed : sys.entries.countP (Sqe.names sys.operations.length) = 0 := by
        refine List.countP_eq_zero.mpr (fun entry listed names => ?_)
        obtain ⟨taker, known, -⟩ := owned.taken entry listed
        obtain ⟨inside, -⟩ := List.getElem?_eq_some_iff.mp known
        simp only [Sqe.names, Bool.and_eq_true, decide_eq_true_eq] at names
        omega
      change sys.entries.countP (Sqe.names sys.operations.length) + _ ≤ 1
      omega

theorem Owned.start (owned : sys.Owned) (call : Call) (address : Address)
    (onLoopThread : Bool) : (sys.start call address onLoopThread).Owned := by
  unfold System.start
  split
  · exact owned
  rename_i possible
  have free : sys.contexts address = none := by
    rw [not_or] at possible
    simpa using possible.1
  cases call.rejection with
  | some error =>
    exact owned.joined trivial rfl nofun (fun _ _ => rfl) (Nat.zero_le 1)
  | none =>
    refine owned.joined (call.contents_nonempty address) rfl (fun _ => ?_) ?_
      (call.contents_names_once address)
    · exact ⟨_, update_self _ _ _, rfl, rfl⟩
    · intro other used
      refine update_of_ne (fun same => ?_) _ _
      rw [same, free] at used
      cases used

section

variable (owned : sys.Owned) (known : sys.operations[num]? = some op)

include owned known

section

variable {got : List (Option Nat)} (taking : op.phase = .taking got)

include taking

theorem Owned.unprepared_of_taking {entry : Sqe} (listed : entry ∈ sys.entries)
    (mine : entry.taker = num) : entry.prepared = false := by
  obtain ⟨taker, there, admits⟩ := owned.taken entry listed
  rw [mine, known] at there
  exact (admits_of_taking taking (Option.some.inj there ▸ admits)).1

theorem Owned.held_claimed
    (claim : sys.ring.claim (fun entry => { entry with taker := num, prepared := false }) =
      some (ring, spot)) :
    (got.filterMap id ++ [spot]).Nodup ∧ ∀ place ∈ got.filterMap id ++ [spot],
      ring.Waits place ∧ (ring.entry place).taker = num ∧ (ring.entry place).prepared = false := by
  have holding := owned.held num op known
  rw [taking] at holding
  obtain ⟨distinct, earlier⟩ := holding
  obtain ⟨-, atTail, -⟩ := claim_eq_some claim
  refine ⟨?_, ?_⟩
  · refine List.nodup_append.mpr ⟨distinct, List.nodup_singleton _, ?_⟩
    intro first listed last new same
    have before := (earlier first listed).1.2
    rw [same, List.mem_singleton.mp new, atTail] at before
    exact absurd before (Nat.lt_irrefl _)
  · intro place listed
    rcases List.mem_append.mp listed with old | new
    · obtain ⟨waits, right⟩ := earlier place old
      rw [entry_claim claim waits]
      exact ⟨(waits_claim claim).mpr (.inl waits), right⟩
    · rw [List.mem_singleton.mp new, entry_claimed claim]
      exact ⟨(waits_claim claim).mpr (.inr rfl), rfl, rfl⟩

theorem Owned.claimed
    (claim : sys.ring.claim (fun entry => { entry with taker := num, prepared := false }) =
      some (ring, spot)) (holds : phase.held = got.filterMap id ++ [spot])
    (planned : ({ op with phase := phase } : Operation).Planned)
    (own : ∀ entry : Sqe, entry.prepared = false →
      ({ op with phase := phase } : Operation).Admits entry) (unsuspended : phase ≠ .waiting)
    (owes : ({ op with phase := phase } : Operation).owed ≤ op.owed) :
    (sys.moved num phase ring sys.contexts).Owned := by
  have unfinished : op.phase.unfinished = true := by rw [taking]; rfl
  have queued : (sys.moved num phase ring sys.contexts).entries =
      sys.ring.pending ++ [{ sys.ring.entry spot with
        taker := num, prepared := false }] ++ sys.kernelEntries := by
    rw [← pending_claim claim]
    rfl
  have same : ∀ other, (sys.moved num phase ring sys.contexts).entries.countP
      (Sqe.names other) = sys.entries.countP (Sqe.names other) := by
    intro other
    rw [queued]
    simp [System.entries, Sqe.names]
  refine owned.moved known unfinished ?_ ?_ planned ?_ ?_ (fun _ => ?_) (fun _ _ => rfl)
    (fun other _ => Nat.le_of_eq (same other)) ?_
  · intro entry listed mine
    refine own entry ?_
    rw [queued, List.append_assoc, List.mem_append, List.mem_append, List.mem_singleton] at listed
    rcases listed with old | rfl | old
    · exact owned.unprepared_of_taking known taking (List.mem_append_left _ old) mine
    · rfl
    · exact owned.unprepared_of_taking known taking (List.mem_append_right _ old) mine
  · intro entry listed other
    rw [queued, List.append_assoc, List.mem_append, List.mem_append, List.mem_singleton] at listed
    rcases listed with old | rfl | old
    · exact List.mem_append_left _ old
    · exact absurd rfl other
    · exact List.mem_append_right _ old
  · rw [holds]
    exact owned.held_claimed known taking claim
  · exact fun place waits _ =>
      ⟨(waits_claim claim).mpr (.inl waits), entry_claim claim waits⟩
  · have framed := owned.framed num op known unfinished
    rw [taking] at framed
    simpa [unsuspended] using framed
  · rw [same]
    exact Nat.le_trans (Nat.add_le_add_left owes _) (owned.single num op known)

end

end

theorem zip_contents {got : List (Option Nat)} {contents : List Content}
    (all : got.all Option.isSome = true) (enough : got.length = contents.length) :
    ((got.filterMap id).zip contents).map Prod.fst = got.filterMap id ∧
      ((got.filterMap id).zip contents).map Prod.snd = contents := by
  have length : (got.filterMap id).length = contents.length := by
    rw [← enough]
    simpa using all
  exact ⟨List.map_fst_zip (Nat.le_of_eq length), List.map_snd_zip (Nat.le_of_eq length.symm)⟩

section

variable (owned : sys.Owned) (known : sys.operations[num]? = some op)

include owned known

section

variable {got : List (Option Nat)} (taking : op.phase = .taking got)

include taking

theorem Owned.give_up (nothing : got.filterMap id = []) (ended : phase.unfinished = false) :
    (sys.finish num op phase).Owned := by
  have finished : phase.held = [] ∧ ({ op with phase := phase } : Operation).owed = 0 ∧
      ({ op with phase := phase } : Operation).Planned := by
    cases phase with
    | returned outcome | refused error => exact ⟨rfl, rfl, trivial⟩
    | _ => cases ended
  obtain ⟨empty, settled, planned⟩ := finished
  refine owned.moved_still known (by rw [taking]; rfl) ?_ planned ?_ ?_
    (fun address other => update_of_ne other _ _) ?_
  · exact fun entry _ _ admits => absurd nothing (admits_of_taking taking admits).2
  · rw [empty, taking]
    exact nothing.symm
  · rw [Framed, ended]
    exact nofun
  · rw [settled]
    exact Nat.zero_le _

theorem Owned.took_none (nothing : got.filterMap id = []) :
    (sys.took num op (got ++ [none])).Owned := by
  have still : (got ++ [none]).filterMap id = [] := by
    rw [List.filterMap_append, nothing]
    rfl
  unfold System.took
  by_cases more : (got ++ [none]).length < (op.call.contents op.address).length
  · rw [if_pos more]
    refine owned.moved_still known (by rw [taking]; rfl) ?_ more ?_ (fun _ => ?_)
      (fun _ _ => rfl) ?_
    · exact fun entry _ _ admits => absurd nothing (admits_of_taking taking admits).2
    · rw [taking]
      exact still.trans nothing.symm
    · simpa [taking] using owned.framed num op known (by rw [taking]; rfl)
    · exact Nat.le_of_eq (owed_of_taking taking).symm
  · rw [if_neg more, if_neg (by simp)]
    refine owned.give_up known taking nothing ?_
    split <;> rfl

theorem Owned.took_some
    (claim : sys.ring.claim (fun entry => { entry with taker := num, prepared := false }) =
      some (ring, spot)) (given : (got ++ [some spot]).all Option.isSome = true) :
    ({ sys with ring := ring }.took num op (got ++ [some spot])).Owned := by
  have held : (got ++ [some spot]).filterMap id = got.filterMap id ++ [spot] := by
    rw [List.filterMap_append]
    rfl
  unfold System.took
  by_cases more : (got ++ [some spot]).length < (op.call.contents op.address).length
  · rw [if_pos more]
    refine owned.claimed known taking claim held more ?_ nofun
      (Nat.le_of_eq (owed_of_taking taking).symm)
    exact fun entry unprepared => ⟨unprepared, by simp⟩
  · have planned := planned_of_taking taking
      (owned.planned op (List.mem_of_getElem? known))
    have lengths : (got ++ [some spot]).length =
        (op.call.contents op.address).length := by
      rw [List.length_append, List.length_singleton] at more ⊢
      omega
    obtain ⟨positions, contents⟩ := zip_contents given lengths
    rw [if_neg more, if_pos given]
    refine owned.claimed known taking claim (positions.trans held) ⟨?_, ?_⟩ ?_ nofun ?_
    · intro empty
      rw [empty] at contents
      exact absurd (op.call.contents_nonempty op.address) (by simp [← contents])
    · intro pair listed
      rw [← contents]
      exact List.mem_map_of_mem listed
    · exact fun entry unprepared prepared => absurd (unprepared.symm.trans prepared) (by decide)
    · rw [owed_of_taking taking]
      nth_rewrite 2 [← contents]
      rw [List.countP_map]
      exact Nat.le_refl _

theorem Owned.take (together : ∀ answer ∈ got, answer.isSome = true ↔ 0 < sys.ring.space) :
    (sys.take num op got).Owned := by
  unfold System.take
  cases claim : sys.ring.claim
      (fun entry => { entry with taker := num, prepared := false }) with
  | none =>
    have full := claim_eq_none.mp claim
    refine owned.took_none known taking (List.filterMap_eq_nil_iff.mpr (fun answer listed => ?_))
    have refused := (together answer listed).not.mpr (by omega)
    simpa using refused
  | some pair =>
    obtain ⟨ring, spot⟩ := pair
    have room := (claim_eq_some claim).1
    refine owned.took_some known taking claim ?_
    simpa using fun answer listed => (together answer listed).mpr room

end

end

/-! ## Preparing, submitting and suspending -/

theorem filled_phase (op : Operation)
    (reached : phase = if left = [] then .prepared else .filling left)
    (listed : ∀ pair ∈ left, pair.2 ∈ op.call.contents op.address) :
    phase.held = left.map Prod.fst ∧
      ({ op with phase := phase } : Operation).owed =
        left.countP (fun pair => pair.2.userData.isSome) ∧
      ({ op with phase := phase } : Operation).Planned ∧
      (∀ entry : Sqe, (entry.prepared = true →
        entry.content ∈ op.call.contents op.address) →
          ({ op with phase := phase } : Operation).Admits entry) ∧
      phase.unfinished = true ∧ phase ≠ .waiting := by
  by_cases done : left = []
  · subst reached done
    exact ⟨rfl, rfl, trivial, fun _ admitted => admitted, rfl, nofun⟩
  · rw [if_neg done] at reached
    subst reached
    exact ⟨rfl, rfl, ⟨done, listed⟩, fun _ admitted => admitted, rfl, nofun⟩

theorem entries_fill (waits : sys.ring.Waits spot) (num : Nat) (content : Content)
    (left : List (Nat × Content)) :
    ∃ before after, sys.entries = before ++ sys.ring.entry spot :: after ∧
      (sys.fill num spot content left).entries =
        before ++ (⟨content, num, true⟩ : Sqe) :: after := by
  obtain ⟨before, rest, queued, requeued⟩ :=
    pending_write waits (⟨content, num, true⟩ : Sqe)
  refine ⟨before, rest ++ sys.kernelEntries, ?_, ?_⟩
  · rw [System.entries, queued, List.append_assoc, List.cons_append]
  · change (sys.ring.write spot _).pending ++ sys.kernelEntries = _
    rw [requeued, List.append_assoc, List.cons_append]

theorem countP_entries_fill (waits : sys.ring.Waits spot)
    (unprepared : (sys.ring.entry spot).prepared = false) (num : Nat) (content : Content)
    (left : List (Nat × Content)) (other : Nat) :
    (sys.fill num spot content left).entries.countP (Sqe.names other) =
      sys.entries.countP (Sqe.names other) +
        if content.userData.isSome = true ∧ num = other then 1 else 0 := by
  obtain ⟨before, after, old, new⟩ := entries_fill waits num content left
  have unnamed : Sqe.names other (sys.ring.entry spot) = false := by
    simp [Sqe.names, unprepared]
  have named : Sqe.names other ⟨content, num, true⟩ =
      decide (content.userData.isSome = true ∧ num = other) := by
    simp [Sqe.names]
  rw [new, old, List.countP_append, List.countP_append, List.countP_cons, List.countP_cons,
    unnamed, named]
  simp only [decide_eq_true_eq, Bool.false_eq_true, if_false]
  omega

section

variable (owned : sys.Owned)

include owned

section

variable (known : sys.operations[num]? = some op)

include known

theorem Owned.fill {content : Content} (filling : op.phase = .filling ((spot, content) :: left)) :
    (sys.fill num spot content left).Owned := by
  have running : op.phase.unfinished = true := by rw [filling]; rfl
  have planned := owned.planned op (List.mem_of_getElem? known)
  rw [Operation.Planned, filling] at planned
  obtain ⟨contentListed, leftListed⟩ := List.forall_mem_cons.mp planned.2
  obtain ⟨held, owed, plannedNext, admitted, runningNext, unsuspended⟩ :=
    filled_phase op rfl leftListed
  obtain ⟨distinct, holding⟩ := owned.held num op known
  rw [filling] at distinct holding
  obtain ⟨waits, taker, unprepared⟩ := holding spot List.mem_cons_self
  obtain ⟨before, after, old, new⟩ := entries_fill waits num content left
  have mem : ∀ entry ∈ (sys.fill num spot content left).entries,
      entry = ⟨content, num, true⟩ ∨ entry ∈ sys.entries := by
    intro entry listed
    rw [new, List.mem_append, List.mem_cons] at listed
    rw [old, List.mem_append, List.mem_cons]
    tauto
  have names := countP_entries_fill waits unprepared num content left
  refine owned.moved known running ?_ ?_ plannedNext ?_ ?_ (fun _ => ?_) (fun _ _ => rfl) ?_ ?_
  · intro entry listed mine
    refine admitted entry (fun prepared => ?_)
    rcases mem entry listed with rfl | earlier
    · exact contentListed
    · obtain ⟨found, there, admits⟩ := owned.taken entry earlier
      rw [mine, known] at there
      have byOwner := Option.some.inj there ▸ admits
      rw [Operation.Admits, filling] at byOwner
      exact byOwner prepared
  · intro entry listed other
    rcases mem entry listed with rfl | earlier
    · exact absurd rfl other
    · exact earlier
  · rw [held]
    obtain ⟨apart, distinctLeft⟩ := List.nodup_cons.mp distinct
    refine ⟨distinctLeft, fun place listed => ?_⟩
    obtain ⟨also, right⟩ := holding place (List.mem_cons_of_mem _ listed)
    have different : place ≠ spot := fun same => apart (same ▸ listed)
    rw [entry_write_other waits also different]
    exact ⟨also, right⟩
  · intro place also others
    have different : place ≠ spot := fun same => others (same ▸ taker)
    exact ⟨also, entry_write_other waits also different⟩
  · simpa [filling, unsuspended] using owned.framed num op known running
  · intro other different
    refine Nat.le_of_eq ((names other).trans ?_)
    rw [if_neg (fun both => different both.2.symm), Nat.add_zero]
  · have single := owned.single num op known
    rw [Operation.owed, filling] at single
    rw [owed]
    refine Nat.le_trans (Nat.le_of_eq ?_) single
    dsimp only
    rw [List.countP_cons]
    change (sys.fill num spot content left).entries.countP _ + _ = _
    rw [names, Nat.add_right_comm, Nat.add_assoc]
    simp only [and_true]

/-- The request to cancel everything names no context, so the loop may leave it. -/
theorem Owned.leave (ready : op.phase = .prepared) (cancel : op.call = .requestCancelAll) :
    (sys.finish num op (.returned .done)).Owned := by
  refine owned.moved_still known (by rw [ready]; rfl) ?_ trivial (by rw [ready]; rfl) nofun
    (fun _ other => update_of_ne other _ _) (Nat.zero_le _)
  intro entry _ _ admits prepared
  rw [Operation.Admits, ready, cancel] at admits
  rw [List.mem_singleton.mp (admits prepared)]

theorem Owned.proceed (ready : op.phase = .prepared) : (sys.proceed num op).Owned := by
  unfold System.proceed
  split
  · rename_i cancel
    exact owned.leave known ready cancel
  · refine owned.moved_still known (by rw [ready]; rfl) ?_ trivial (by rw [ready]; rfl)
      (fun _ => ?_) (fun _ _ => rfl) (Nat.zero_le _)
    · intro entry _ _ admits
      rw [Operation.Admits, ready] at admits
      exact admits
    · simpa [ready] using owned.framed num op known (by rw [ready]; rfl)

theorem Owned.suspend (reached : op.phase = .submitted) : (sys.suspend num op).Owned := by
  refine owned.moved_still known (by rw [reached]; rfl) ?_ trivial (by rw [reached]; rfl)
    (fun _ => ?_) (fun _ other => update_of_ne other _ _) (Nat.zero_le _)
  · intro entry _ _ admits
    rw [Operation.Admits, reached] at admits
    exact admits
  · obtain ⟨ctx, framed, named, -⟩ :=
      owned.framed num op known (by rw [reached]; rfl)
    refine ⟨{ ctx with continuation := some num }, ?_, named, rfl⟩
    rw [update_self, framed]
    rfl

end

/-! ## The queue, the kernel and the loop -/

/-- Entries go from the queue to the kernel, are completed, and leave; what was taken and not prepared
stays in the queue. -/
theorem Owned.rearranged {inFlight : List Sqe} {completions : List Cqe}
    {reaped resumed : List (Nat × Int)}
    (among : (ring.pending ++ (inFlight ++ completions.map (·.entry))).Subperm sys.entries)
    (prepared : ∀ entry ∈ inFlight ++ completions.map (·.entry), entry.prepared = true)
    (kept : ∀ spot, sys.ring.Waits spot →
      (sys.ring.entry spot).prepared = false →
        ring.Waits spot ∧ ring.entry spot = sys.ring.entry spot) :
    ({ sys with
        ring := ring, inFlight := inFlight, completions := completions
        reaped := reaped, resumed := resumed } : System).Owned where
  taken := fun entry listed => owned.taken entry (among.subset listed)
  kernel := prepared
  planned := owned.planned
  held := by
    intro other found there
    obtain ⟨distinct, holding⟩ := owned.held other found there
    refine ⟨distinct, fun spot listed => ?_⟩
    obtain ⟨waits, taker, unprepared⟩ := holding spot listed
    obtain ⟨still, same⟩ := kept spot waits unprepared
    rw [same]
    exact ⟨still, taker, unprepared⟩
  framed := owned.framed
  single := by
    intro other found there
    exact Nat.le_trans (Nat.add_le_add_right (among.countP_le _) _)
      (owned.single other found there)

theorem Owned.handOver (ready : ∀ entry ∈ sys.ring.pending, entry.prepared = true) (count : Nat) :
    (sys.handOver count).Owned := by
  have split := sys.ring.pending_consume count
  refine owned.rearranged (List.Perm.subperm ?_) ?_ ?_
  · rw [System.entries, kernelEntries, split, List.append_assoc, List.append_assoc]
    exact ((List.perm_append_comm_assoc _ _ _).append_left _).trans
      (List.perm_append_comm_assoc _ _ _)
  · intro entry listed
    rw [List.append_assoc, List.mem_append, List.mem_append] at listed
    rcases listed with flying | taken | completed
    · exact owned.kernel entry (List.mem_append_left _ flying)
    · refine ready entry ?_
      rw [split]
      exact List.mem_append_left _ taken
    · exact owned.kernel entry (List.mem_append_right _ completed)
  · intro spot waits unprepared
    have prepared := ready _ (mem_pending.mpr ⟨spot, waits, rfl⟩)
    exact absurd (unprepared.symm.trans prepared) (by decide)

theorem Owned.complete (index : Nat) (result : Int) : (sys.complete index result).Owned := by
  unfold System.complete
  cases found : sys.inFlight[index]? with
  | none => exact owned
  | some entry =>
    obtain ⟨inside, there⟩ := List.getElem?_eq_some_iff.mp found
    have shuffled : (sys.inFlight.eraseIdx index ++
        (sys.completions ++ [(⟨entry, result⟩ : Cqe)]).map (·.entry)).Perm
        sys.kernelEntries := by
      rw [List.map_append, List.map_singleton, ← List.append_assoc]
      refine List.perm_append_comm.trans ?_
      rw [← List.append_assoc]
      refine List.Perm.append_right _ ?_
      rw [← there]
      exact List.getElem_cons_eraseIdx_perm inside
    refine owned.rearranged (shuffled.append_left _).subperm ?_ (fun _ waits _ => ⟨waits, rfl⟩)
    exact fun other listed => owned.kernel other (shuffled.subset listed)

/-- An entry in the kernel that names a context names that of the call that took it, which waits for
it or is about to. -/
theorem Owned.named {entry : Sqe} (listed : entry ∈ sys.kernelEntries)
    (data : entry.content.userData = some address) :
    ∃ op ctx, sys.operations[entry.taker]? = some op ∧
      op.address = address ∧ sys.contexts address = some ctx ∧
      ctx.operation = entry.taker ∧
      ((op.phase = .waiting ∧ ctx.continuation = some entry.taker) ∨
        (op.phase.exposed = true ∧ ctx.continuation = none)) := by
  have prepared := owned.kernel entry listed
  obtain ⟨op, known, admits⟩ := owned.taken entry (List.mem_append_right _ listed)
  have framed := owned.framed entry.taker op known
  refine ⟨op, ?_⟩
  cases reached : op.phase with
  | taking got =>
    have unprepared := (admits_of_taking reached admits).1
    exact absurd (unprepared.symm.trans prepared) (by decide)
  | returned outcome =>
    rw [Operation.Admits, reached] at admits
    rw [admits prepared] at data
    cases data
  | refused error =>
    rw [Operation.Admits, reached] at admits
    exact admits.elim
  | filling left | prepared | submitted | waiting =>
    rw [Operation.Admits, reached] at admits
    have own := Call.contents_address (admits prepared) data
    rw [reached, ← own] at framed
    obtain ⟨ctx, there, named, continues⟩ := framed rfl
    refine ⟨ctx, known, own.symm, there, named, ?_⟩
    simpa [Phase.exposed] using continues

/-- The completion that is dispatched next is the only entry that names its call. -/
theorem Owned.named_once {completion : Cqe} {rest : List Cqe}
    (next : sys.completions = completion :: rest)
    (data : completion.entry.content.userData = some address) :
    (sys.ring.pending ++ (sys.inFlight ++ rest.map (·.entry))).countP
      (Sqe.names completion.entry.taker) = 0 := by
  have listed := mem_kernelEntries next
  obtain ⟨op, known, -⟩ := owned.taken _ (List.mem_append_right _ listed)
  have single := owned.single _ op known
  have names : Sqe.names completion.entry.taker completion.entry = true := by
    simp [Sqe.names, owned.kernel _ listed, data]
  rw [System.entries, kernelEntries, next, List.map_cons] at single
  simp only [List.countP_append, List.countP_cons, names, if_true] at single ⊢
  omega

theorem Owned.stored {ctx : IoContext} (there : sys.contexts address = some ctx) (result : Int) :
    ({ sys with
        contexts := update sys.contexts address
          (some { ctx with result := result }) } : System).Owned := by
  refine { owned with framed := ?_ }
  intro other found known unfinished
  obtain ⟨own, framed, named, continues⟩ := owned.framed other found known unfinished
  by_cases same : found.address = address
  · rw [same, there] at framed
    obtain rfl := Option.some.inj framed
    refine ⟨{ ctx with result := result }, ?_, named, continues⟩
    dsimp only
    rw [same, update_self]
  · refine ⟨own, ?_, named, continues⟩
    dsimp only
    rw [update_of_ne same]
    exact framed

theorem Owned.reap : sys.reap.Owned := by
  rcases sys.reap_cases with idle | ⟨completion, rest, next, -, reaped⟩
  · rw [idle]
    exact owned
  have among : (sys.ring.pending ++ (sys.inFlight ++ rest.map (·.entry))).Subperm
      sys.entries := by
    rw [System.entries, kernelEntries, next, List.map_cons]
    exact (((List.sublist_cons_self _ _).append_left _).append_left _).subperm
  have prepared : ∀ entry ∈ sys.inFlight ++ rest.map (·.entry), entry.prepared = true := by
    intro entry listed
    refine owned.kernel entry ?_
    rw [kernelEntries, next, List.map_cons]
    exact ((List.sublist_cons_self _ _).append_left _).subset listed
  have collected : ∀ reaped resumed : List (Nat × Int), ({ sys with
      completions := rest, reaped := reaped, resumed := resumed } : System).Owned :=
    fun _ _ => owned.rearranged among prepared (fun _ waits _ => ⟨waits, rfl⟩)
  rcases reaped with ⟨-, past⟩ | ⟨address, data, dispatched⟩
  · rw [past]
    exact collected _ _
  have listed := mem_kernelEntries next
  obtain ⟨op, ctx, known, -, there, -, reached⟩ := owned.named listed data
  have here : (sys.received completion rest).contexts address = some ctx := there
  rw [dispatched]
  rcases reached with ⟨waiting, recorded⟩ | ⟨-, unrecorded⟩
  · have also := known
    rw [dispatch_resumed here recorded also]
    refine (collected _ _).moved_still also (by rw [waiting]; rfl) ?_ trivial (by rw [waiting]; rfl)
      nofun (fun _ other => update_of_ne other _ _) (Nat.zero_le _)
    -- the completion was the one entry that named the call
    intro entry listed mine _ isPrepared
    have silent := List.countP_eq_zero.mp (owned.named_once next data) entry listed
    simpa [Sqe.names, isPrepared, mine] using silent
  · rw [dispatch_stored here unrecorded]
    exact (collected _ _).stored there _

end

/-! ## Every run in order -/

/-- A call that asks for a second entry finds room for it exactly if it did for the first; no
submission of an operation fails; and the queue is submitted only when every entry in it is
prepared. -/
def Orderly (sys : System) : UringEvent → Prop
  | .take num => ∀ op ∈ sys.operations[num]?,
      ∀ answer ∈ op.phase.answers, answer.isSome = true ↔ 0 < sys.ring.space
  | .submit num answer => ∀ op ∈ sys.operations[num]?,
      sys.leavesToLoop op = false →
        match answer with
        | .failed _ => op.call = .requestCancelAll
        | .taken _ => ∀ entry ∈ sys.ring.pending, entry.prepared = true
  | .submitAndWait _ => ∀ entry ∈ sys.ring.pending, entry.prepared = true
  | _ => True

instance (sys : System) (event : UringEvent) : Decidable (sys.Orderly event) :=
  match event with
  | .take num => inferInstanceAs (Decidable (∀ op ∈ sys.operations[num]?, _))
  | .submit num (.failed _) =>
    inferInstanceAs (Decidable (∀ op ∈ sys.operations[num]?,
      sys.leavesToLoop op = false → op.call = .requestCancelAll))
  | .submit num (.taken _) =>
    inferInstanceAs (Decidable (∀ op ∈ sys.operations[num]?,
      sys.leavesToLoop op = false → ∀ entry ∈ sys.ring.pending, entry.prepared = true))
  | .submitAndWait _ =>
    inferInstanceAs (Decidable (∀ entry ∈ sys.ring.pending, entry.prepared = true))
  | .start _ _ _ | .fill _ | .suspend _ | .complete _ _ | .reap => .isTrue trivial

theorem Owned.submit (owned : sys.Owned) {answer : SubmitAnswer}
    (known : sys.operations[num]? = some op) (ready : op.phase = .prepared)
    (orderly : sys.Orderly (.submit num answer)) :
    (sys.submit num op answer).Owned := by
  have condition := orderly op known
  unfold System.submit
  split
  · exact owned.proceed known ready
  rename_i submits
  have here := condition (Bool.eq_false_iff.mpr submits)
  cases answer with
  | failed error =>
    have cancel : op.call = .requestCancelAll := here
    unfold System.refuse
    rw [cancel]
    exact owned.leave known ready cancel
  | taken count => exact (owned.handOver here count).proceed known ready

theorem Owned.submitAndWait (owned : sys.Owned)
    (ready : ∀ entry ∈ sys.ring.pending, entry.prepared = true) (count : Nat) :
    (sys.submitAndWait count).Owned := by
  unfold System.submitAndWait
  split
  · exact owned.handOver ready count
  · exact owned

theorem Owned.step (owned : sys.Owned) {event : UringEvent} (orderly : sys.Orderly event) :
    (sys.step event).Owned := by
  have steps := sys.step_stepsTo event
  generalize sys.step event = after at steps ⊢
  cases steps with
  | idle => exact owned
  | start call address onLoopThread => exact owned.start call address onLoopThread
  | take known taking =>
    refine owned.take known taking (fun answer listed => ?_)
    refine orderly _ known answer ?_
    rw [taking]
    exact listed
  | fill known filling => exact owned.fill known filling
  | submit answer known ready => exact owned.submit known ready orderly
  | suspend known reached => exact owned.suspend known reached
  | submitAndWait count => exact owned.submitAndWait orderly count
  | complete index result => exact owned.complete index result
  | reap => exact owned.reap

theorem run_owned {ringEntries size : Nat} {events : List UringEvent}
    (orderly : Admissible step Orderly (create ringEntries size) events) :
    (run step (create ringEntries size) events).Owned :=
  invariant_run (fun _ _ owned here => Owned.step owned here) (owned_create ringEntries size) orderly

theorem Owned.belongs (owned : sys.Owned) {entry : Sqe} (listed : entry ∈ sys.kernelEntries) :
    sys.Belongs entry := by
  refine ⟨fun address data => ⟨owned.kernel entry listed, ?_⟩, fun found there => ?_⟩
  · obtain ⟨op, ctx, known, own, framed, named, reached⟩ := owned.named listed data
    refine ⟨ctx, op, framed, named, known, own, ?_⟩
    rcases reached with ⟨waiting, -⟩ | ⟨exposed, -⟩
    · rw [waiting]
      rfl
    · exact Phase.unfinished_of_exposed exposed
  · obtain ⟨op, known, admits⟩ := owned.taken entry (List.mem_append_right _ listed)
    rw [known] at there
    obtain rfl := Option.some.inj there
    cases reached : op.phase with
    | refused error =>
      rw [Operation.Admits, reached] at admits
      exact admits.elim
    | _ => rfl

/-- A submission fails, the operation returns its error, and the next submission carries the entry it
prepared into the kernel. -/
def failedSubmission : List UringEvent :=
  [.start .read 1 false, .take 0, .fill 0, .submit 0 (.failed 11), .start .read 2 false, .take 1,
    .fill 1, .submit 1 (.taken 2)]

/-- A receive with a timeout finds room for one entry and returns an error. The entry still holds the
request of an operation that returned long ago, and the loop submits it. -/
def oneEntryLeft : List UringEvent :=
  [.start .read 1 false, .take 0, .fill 0, .submit 0 (.taken 1), .suspend 0, .complete 0 5, .reap,
    .start .recvmsgUntil 2 false, .take 1, .take 1, .submitAndWait 1]

theorem entries_left_behind :
    (∃ entry ∈ (run step (create 4 4) failedSubmission).kernelEntries,
        ¬(run step (create 4 4) failedSubmission).Belongs entry) ∧
      ∃ entry ∈ (run step (create 1 1) oneEntryLeft).kernelEntries,
        ¬(run step (create 1 1) oneEntryLeft).Belongs entry := by
  refine ⟨⟨⟨⟨.read, some 1⟩, 0, true⟩, by decide, fun belongs => ?_⟩,
    ⟨⟨⟨.read, some 1⟩, 1, false⟩, by decide, fun belongs => ?_⟩⟩
  · exact absurd (belongs.2 ⟨.read, 1, false, .refused 11⟩ (by decide)) (by decide)
  · exact absurd (belongs.1 1 rfl).1 (by decide)

/-- In a run in which no submission of an operation fails, no receive with a timeout finds room for
one of its two entries only, and the queue is submitted only when every entry in it is prepared, each
entry in the kernel that names a context was prepared by the operation whose context that is, and the
operation has not returned; no operation that gave up has left an entry there. -/
theorem kernel_entries_belong {ringEntries size : Nat} {events : List UringEvent}
    (orderly : Admissible step Orderly (create ringEntries size) events) :
    ∀ entry ∈ (run step (create ringEntries size) events).kernelEntries,
      (run step (create ringEntries size) events).Belongs entry :=
  fun _ listed => (run_owned orderly).belongs listed

/-- A receive with a timeout and a read are in the kernel at once, the read from the thread of the
loop, which leaves it to the loop to submit. -/
def twoInKernel : List UringEvent :=
  [.start .recvmsgUntil 7 false, .take 0, .take 0, .fill 0, .fill 0, .submit 0 (.taken 2),
    .suspend 0, .start .read 3 true, .take 1, .fill 1, .submit 1 (.taken 0), .suspend 1,
    .submitAndWait 1, .complete 1 (-62)]

theorem kernel_entries_belong_two :
    (run step (create 8 8) twoInKernel).kernelEntries =
        [⟨⟨.recvmsg, some 7⟩, 0, true⟩, ⟨⟨.read, some 3⟩, 1, true⟩, ⟨⟨.linkTimeout, none⟩, 0, true⟩] ∧
      ∀ entry ∈ (run step (create 8 8) twoInKernel).kernelEntries,
        (run step (create 8 8) twoInKernel).Belongs entry :=
  ⟨by decide, kernel_entries_belong (by decide)⟩

end System

end KmxAio.Completion
