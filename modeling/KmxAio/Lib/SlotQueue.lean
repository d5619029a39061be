import Mathlib.Data.List.Basic
import Mathlib.Logic.Function.Basic

/-!
# A circular queue whose slots are filled in place

A producer claims the slot at the tail and fills it afterwards, so until then the
slot holds what was left in it; a consumer takes entries from the head. Positions
count up without bound, and the slot of a position is its remainder. What waits
between head and tail reads as a list: a claim appends to it, filling a slot
replaces one entry, and consuming drops from its front.
-/

namespace KmxAio.Lib

open Function

variable {α : Type}

structure SlotQueue (α : Type) where
  size : Nat
  slots : Nat → α
  head : Nat
  tail : Nat
  ordered : head ≤ tail
  bounded : tail ≤ head + size

namespace SlotQueue

/-- No entry waits, and every slot holds the same. -/
def empty (size : Nat) (initial : α) : SlotQueue α where
  size := size
  slots := fun _ => initial
  head := 0
  tail := 0
  ordered := Nat.le_refl 0
  bounded := Nat.zero_le _

variable (queue : SlotQueue α) (spot : Nat)

/-- How many slots can be claimed. -/
def space : Nat := queue.head + queue.size - queue.tail

/-- What the slot of a position holds. -/
def entry : α := queue.slots (spot % queue.size)

/-- A position that was claimed and not yet consumed. -/
def Waits : Prop :=
  queue.head ≤ spot ∧ spot < queue.tail

/-- The entries that wait, from the head on. -/
def pending : List α :=
  (List.range' queue.head (queue.tail - queue.head)).map queue.entry

/-- Fills the slot of a position, whether or not it still waits. -/
def write (val : α) : SlotQueue α :=
  { queue with slots := update queue.slots (spot % queue.size) val }

theorem claim_ordered : queue.head ≤ queue.tail + 1 :=
  Nat.le_succ_of_le queue.ordered

theorem claim_bounded {queue : SlotQueue α} (room : 0 < queue.space) :
    queue.tail + 1 ≤ queue.head + queue.size := by
  unfold space at room
  omega

/-- Claims the slot at the tail, marking what it holds. -/
def claim (mark : α → α) : Option (SlotQueue α × Nat) :=
  if room : 0 < queue.space then
    some ({ queue with
        slots := update queue.slots (queue.tail % queue.size) (mark (queue.entry queue.tail))
        tail := queue.tail + 1
        ordered := queue.claim_ordered
        bounded := claim_bounded room }, queue.tail)
  else none

theorem consume_ordered (count : Nat) :
    queue.head + min count (queue.tail - queue.head) ≤ queue.tail := by
  have := queue.ordered
  omega

theorem consume_bounded (count : Nat) :
    queue.tail ≤ queue.head + min count (queue.tail - queue.head) + queue.size := by
  have := queue.bounded
  omega

/-- Takes up to a number of entries from the head. -/
def consume (count : Nat) : SlotQueue α × List α :=
  ({ queue with
      head := queue.head + min count (queue.tail - queue.head)
      ordered := queue.consume_ordered count
      bounded := queue.consume_bounded count },
    (List.range' queue.head (min count (queue.tail - queue.head))).map queue.entry)

variable {queue} {after : SlotQueue α} {mark : α → α} {spot} {val : α}

theorem slot_injective {size first second : Nat} (near : second < first + size)
    (below : first ≤ second) (same : first % size = second % size) : first = second := by
  have divides : size ∣ second - first :=
    Nat.dvd_of_mod_eq_zero (Nat.sub_mod_eq_zero_of_mod_eq same.symm)
  have none : second - first = 0 := Nat.eq_zero_of_dvd_of_lt divides (by omega)
  omega

theorem Waits.slot_ne {other : Nat} (waits : queue.Waits spot) (also : queue.Waits other)
    (different : other ≠ spot) : other % queue.size ≠ spot % queue.size := by
  intro same
  have bounded := queue.bounded
  obtain ⟨from₁, to₁⟩ := waits
  obtain ⟨from₂, to₂⟩ := also
  rcases Nat.le_total other spot with below | above
  · exact different (slot_injective (by omega) below same)
  · exact different (slot_injective (by omega) above same.symm).symm

theorem mem_positions (queue : SlotQueue α) (spot : Nat) :
    spot ∈ List.range' queue.head (queue.tail - queue.head) ↔ queue.Waits spot := by
  rw [List.mem_range'_1]
  unfold Waits
  omega

theorem mem_pending {element : α} :
    element ∈ queue.pending ↔ ∃ spot, queue.Waits spot ∧ queue.entry spot = element := by
  rw [pending, List.mem_map]
  exact exists_congr (fun spot => and_congr_left' (queue.mem_positions spot))

/-! ## Claiming -/

theorem claim_eq_none : queue.claim mark = none ↔ queue.space = 0 := by
  unfold claim
  split
  · rename_i room
    simp [Nat.ne_of_gt room]
  · rename_i full
    simp only [true_iff]
    omega

section

variable (claimed : queue.claim mark = some (after, spot))

include claimed

theorem claim_eq_some :
    0 < queue.space ∧ spot = queue.tail ∧ after.tail = queue.tail + 1 ∧
      after.head = queue.head ∧ after.size = queue.size ∧
      after.slots = update queue.slots (queue.tail % queue.size)
        (mark (queue.entry queue.tail)) := by
  unfold claim at claimed
  split at claimed
  · rename_i room
    cases claimed
    exact ⟨room, rfl, rfl, rfl, rfl, rfl⟩
  · cases claimed

theorem entry_claim {other : Nat} (waits : queue.Waits other) :
    after.entry other = queue.entry other := by
  obtain ⟨room, -, -, -, size, slots⟩ := claim_eq_some claimed
  obtain ⟨above, below⟩ := waits
  have apart : other % queue.size ≠ queue.tail % queue.size := by
    intro same
    unfold space at room
    exact absurd (slot_injective (by omega) (Nat.le_of_lt below) same) (by omega)
  rw [entry, entry, size, slots, update_of_ne apart]

theorem entry_claimed : after.entry spot = mark (queue.entry spot) := by
  obtain ⟨-, at_tail, -, -, size, slots⟩ := claim_eq_some claimed
  rw [entry, size, slots, at_tail, update_self]

theorem pending_claim : after.pending = queue.pending ++ [mark (queue.entry spot)] := by
  obtain ⟨-, at_tail, tail, head, -, -⟩ := claim_eq_some claimed
  have ordered := queue.ordered
  have length : after.tail - after.head = (queue.tail - queue.head) + 1 := by
    omega
  have earlier : (List.range' queue.head (queue.tail - queue.head)).map after.entry =
      queue.pending :=
    List.map_congr_left (fun other listed =>
      entry_claim claimed ((queue.mem_positions other).mp listed))
  rw [pending, length, List.range'_concat, List.map_append, List.map_singleton, head, earlier,
    Nat.one_mul, Nat.add_sub_cancel' ordered, ← at_tail, entry_claimed claimed]

theorem waits_claim {other : Nat} : after.Waits other ↔ queue.Waits other ∨ other = spot := by
  obtain ⟨-, at_tail, tail, head, -, -⟩ := claim_eq_some claimed
  have ordered := queue.ordered
  unfold Waits
  omega

end

/-! ## Filling -/

theorem entry_write_self : (queue.write spot val).entry spot = val := by
  exact update_self _ _ _

theorem entry_write_other {other : Nat} (waits : queue.Waits spot) (also : queue.Waits other)
    (different : other ≠ spot) : (queue.write spot val).entry other = queue.entry other := by
  exact update_of_ne (waits.slot_ne also different) _ _

theorem pending_write (waits : queue.Waits spot) (val : α) :
    ∃ before rest, queue.pending = before ++ queue.entry spot :: rest ∧
      (queue.write spot val).pending = before ++ val :: rest := by
  have positions : List.range' queue.head (queue.tail - queue.head) =
      List.range' queue.head (spot - queue.head) ++
        spot :: List.range' (spot + 1) (queue.tail - (spot + 1)) := by
    obtain ⟨above, below⟩ := waits
    have total : queue.tail - queue.head =
        (spot - queue.head) + (queue.tail - (spot + 1) + 1) := by omega
    rw [total, ← List.range'_append_1, Nat.add_sub_cancel' above, List.range'_succ]
  have others : ∀ other, queue.Waits other → other ≠ spot →
      (queue.write spot val).entry other = queue.entry other :=
    fun other also different => entry_write_other waits also different
  obtain ⟨above, below⟩ := waits
  refine ⟨(List.range' queue.head (spot - queue.head)).map queue.entry,
    (List.range' (spot + 1) (queue.tail - (spot + 1))).map queue.entry, ?_, ?_⟩
  · rw [pending, positions, List.map_append, List.map_cons]
  · change (List.range' queue.head (queue.tail - queue.head)).map
      (queue.write spot val).entry = _
    rw [positions, List.map_append, List.map_cons, entry_write_self]
    congr 1
    · refine List.map_congr_left (fun other listed => ?_)
      rw [List.mem_range'_1] at listed
      exact others other ⟨listed.1, by omega⟩ (by omega)
    · congr 1
      refine List.map_congr_left (fun other listed => ?_)
      rw [List.mem_range'_1] at listed
      exact others other ⟨by omega, by omega⟩ (by omega)

/-! ## Consuming -/

theorem pending_consume (queue : SlotQueue α) (count : Nat) :
    queue.pending = (queue.consume count).2 ++ (queue.consume count).1.pending := by
  have rest : queue.tail - (queue.head + min count (queue.tail - queue.head)) =
      queue.tail - queue.head - min count (queue.tail - queue.head) := by omega
  change _ = (List.range' queue.head _).map queue.entry ++
    (List.range' (queue.head + min count (queue.tail - queue.head))
      (queue.tail - (queue.head + min count (queue.tail - queue.head)))).map queue.entry
  rw [rest, ← List.map_append, List.range'_append_1, Nat.add_sub_cancel' (Nat.min_le_right _ _)]
  rfl

end SlotQueue

end KmxAio.Lib
