import Mathlib.Data.List.DropRight

/-!
# A ring of the entries written last

A ring has a fixed number of slots and a position that goes round. Writing an
entry fills the next slot, over the oldest entry once every slot is in use. A
ring that recorded a history holds its last entries, as many as it has slots, so
an entry stays in it exactly while fewer entries than slots were written after.
-/

namespace KmxAio.Lib

variable {α : Type}

/-- The slots in use, by position, and the position written next. Until the ring has gone round
once, the next position is the first unused one. -/
structure RingBuffer (α : Type) where
  size : Nat
  slots : List α
  next : Nat
  next_lt : next < size
  bounded : slots.length ≤ size
  filling : slots.length < size → next = slots.length

namespace RingBuffer

def empty (size : Nat) (positive : 0 < size) : RingBuffer α where
  size := size
  slots := []
  next := 0
  next_lt := positive
  bounded := Nat.zero_le _
  filling := fun _ => rfl

/-- The ring with no slot in use. -/
def clear (ring : RingBuffer α) : RingBuffer α := empty ring.size (Nat.zero_lt_of_lt ring.next_lt)

/-- What the slots hold once an entry is written at a position. -/
def written (slots : List α) (next : Nat) (entry : α) : List α :=
  if next < slots.length then slots.set next entry else slots ++ [entry]

variable (ring : RingBuffer α) (entry : α)

theorem written_length_le {slots : List α} {next size : Nat}
    (bounded : slots.length ≤ size) (below : next < size) :
    (written slots next entry).length ≤ size := by
  unfold written
  split
  · simpa using bounded
  rename_i unused
  rw [List.length_append, List.length_singleton]
  omega

theorem written_filling {slots : List α} {next size : Nat}
    (filling : slots.length < size → next = slots.length)
    (room : (written slots next entry).length < size) :
    (next + 1) % size = (written slots next entry).length := by
  unfold written at room ⊢
  split at room
  · rename_i used
    rw [List.length_set] at room
    exact absurd (filling room) (by omega)
  · rename_i unused
    rw [if_neg unused]
    rw [List.length_append, List.length_singleton] at room ⊢
    have spot := filling (by omega)
    rw [spot, Nat.mod_eq_of_lt room]

/-- Writes an entry at the next position. -/
def push (ring : RingBuffer α) (entry : α) : RingBuffer α where
  size := ring.size
  slots := written ring.slots ring.next entry
  next := (ring.next + 1) % ring.size
  next_lt := Nat.mod_lt _ (Nat.zero_lt_of_lt ring.next_lt)
  bounded := written_length_le entry ring.bounded ring.next_lt
  filling := written_filling entry ring.filling

@[simp] theorem push_size : (ring.push entry).size = ring.size := rfl

/-! ## What a ring has recorded -/

/-- The entries of a ring, oldest first. -/
def inOrder (ring : RingBuffer α) : List α :=
  ring.slots.drop ring.next ++ ring.slots.take ring.next

variable {ring}

theorem inOrder_push_filling (entry : α) (room : ring.slots.length < ring.size) :
    (ring.push entry).inOrder = ring.inOrder ++ [entry] := by
  have spot := ring.filling room
  have before : ring.inOrder = ring.slots := by
    rw [inOrder, spot, List.drop_length, List.take_length, List.nil_append]
  have slots : (ring.push entry).slots = ring.slots ++ [entry] := by
    simp [push, written, spot]
  rw [before, inOrder, slots]
  rcases Nat.lt_or_ge (ring.next + 1) ring.size with inside | last
  · have next : (ring.push entry).next = ring.slots.length + 1 := by
      rw [← spot]
      exact Nat.mod_eq_of_lt inside
    have length : (ring.slots ++ [entry]).length = ring.slots.length + 1 := by simp
    rw [next, ← length, List.drop_length, List.take_length, List.nil_append]
  · have next : (ring.push entry).next = 0 := by
      have whole : ring.next + 1 = ring.size := by have := ring.next_lt; omega
      show (ring.next + 1) % ring.size = 0
      rw [whole, Nat.mod_self]
    rw [next, List.drop_zero, List.take_zero, List.append_nil]

theorem inOrder_push_full (entry : α) (full : ring.slots.length = ring.size) :
    (ring.push entry).inOrder = ring.inOrder.drop 1 ++ [entry] := by
  have used : ring.next < ring.slots.length := full ▸ ring.next_lt
  have slots : (ring.push entry).slots = ring.slots.set ring.next entry := by
    simp [push, written, used]
  have parts : ring.slots.set ring.next entry =
      ring.slots.take ring.next ++ entry :: ring.slots.drop (ring.next + 1) :=
    List.set_eq_take_cons_drop entry used
  have before : ring.inOrder.drop 1 =
      ring.slots.drop (ring.next + 1) ++ ring.slots.take ring.next := by
    have nonempty : 1 ≤ (ring.slots.drop ring.next).length := by
      rw [List.length_drop]
      omega
    rw [inOrder, List.drop_append_of_le_length nonempty, List.drop_drop]
  rw [before, inOrder, slots]
  rcases Nat.lt_or_ge (ring.next + 1) ring.size with inside | last
  · have next : (ring.push entry).next = ring.next + 1 := Nat.mod_eq_of_lt inside
    have taken : (ring.slots.take ring.next).length = ring.next := by
      rw [List.length_take]
      omega
    rw [next, parts, List.append_assoc]
    congr 1
    · rw [List.drop_append, taken, Nat.add_sub_cancel_left]
      simp [taken]
    · rw [List.take_append, taken, Nat.add_sub_cancel_left,
        List.take_of_length_le (taken.trans_le (Nat.le_succ _))]
      rfl
  · have whole : ring.next + 1 = ring.size := by have := ring.next_lt; omega
    have next : (ring.push entry).next = 0 := by
      show (ring.next + 1) % ring.size = 0
      rw [whole, Nat.mod_self]
    have nothing : ring.slots.drop (ring.next + 1) = [] :=
      List.drop_eq_nil_of_le (by omega)
    rw [next, List.drop_zero, List.take_zero, List.append_nil, parts, nothing, List.nil_append]

/-- A ring holds the last entries of a history, as many as it has slots. -/
def Records (ring : RingBuffer α) (hist : List α) : Prop :=
  ring.inOrder = hist.rtake ring.size

theorem records_nil (unused : ring.slots = []) : ring.Records [] := by
  simp [Records, inOrder, unused]

theorem Records.push {hist : List α} (records : ring.Records hist) (entry : α) :
    (ring.push entry).Records (hist ++ [entry]) := by
  have length : ring.inOrder.length = ring.slots.length := by
    rw [inOrder, List.length_append, List.length_drop, List.length_take]
    omega
  unfold Records at records ⊢
  have recorded : ring.inOrder.length = min ring.size hist.length := by
    rw [records, List.rtake_eq_reverse_take_reverse]
    simp
  rcases Nat.lt_or_ge ring.slots.length ring.size with room | full
  · rw [inOrder_push_filling entry room, records, push_size]
    rw [List.rtake, List.rtake, List.length_append, List.length_singleton]
    rw [Nat.sub_eq_zero_of_le (by omega), Nat.sub_eq_zero_of_le (by omega)]
    rfl
  · have whole : ring.slots.length = ring.size := Nat.le_antisymm ring.bounded full
    have positive := Nat.zero_lt_of_lt ring.next_lt
    rw [inOrder_push_full entry whole, records, push_size]
    rw [List.rtake, List.rtake, List.length_append, List.length_singleton, List.drop_drop]
    have shift : hist.length + 1 - ring.size = hist.length - ring.size + 1 := by omega
    rw [shift, List.drop_append_of_le_length (by omega)]

theorem Records.mem_iff {hist : List α} (records : ring.Records hist) (entry : α) :
    entry ∈ ring.slots ↔ entry ∈ hist.rtake ring.size := by
  have parts := List.take_append_drop ring.next ring.slots
  rw [← records, inOrder, List.mem_append, or_comm, ← List.mem_append, parts]

end RingBuffer

end KmxAio.Lib
