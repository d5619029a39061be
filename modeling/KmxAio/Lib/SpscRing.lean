import KmxAio.Lib.SlotQueue

/-!
# A ring between one producer and one consumer

Elements have positions that count up without bound, and the cell of a position is its
remainder. The producer constructs an element in the next cell and then publishes it.
The consumer moves the element at its position out, destroys what is left of it and
then releases the cell. As long as the producer stays less than one round ahead of the
cells that were released, it constructs into empty cells only, and the consumer finds
the elements in the order in which they were published.
-/

namespace KmxAio.Lib

open Function

/-- Storage for one element, whose lifetime is driven by hand. -/
inductive Cell (α : Type) where
  | empty
  | holds (element : α)
  | movedFrom
  deriving DecidableEq

/-- The cells, and how far each side has come. An element that is constructed and not yet published
is staged. -/
structure SpscRing (α : Type) where
  size : Nat
  cells : Nat → Cell α
  pushed : List α
  staged : Option α
  popped : List α
  emptied : Nat
  released : Nat

namespace SpscRing

variable {α : Type} (ring : SpscRing α)

/-- Every element that was constructed. -/
def constructed : List α := ring.pushed ++ ring.staged.toList

/-- What the cell of a position is, from when the cell was released for it on. -/
def content (spot : Nat) : Cell α :=
  if spot < ring.emptied then .empty
  else if spot < ring.popped.length then .movedFrom
  else
    match ring.constructed[spot]? with
    | some element => .holds element
    | none => .empty

structure Valid : Prop where
  released_le : ring.released ≤ ring.emptied
  emptied_le : ring.emptied ≤ ring.popped.length
  popped_le : ring.popped.length ≤ ring.released + 1
  popped_of_pushed : ring.popped <+: ring.pushed
  room : ring.constructed.length < ring.released + ring.size
  layout : ∀ position, ring.released ≤ position → position < ring.released + ring.size →
    ring.cells (position % ring.size) = ring.content position

/-! ## The steps of the two sides -/

def construct (element : α) : SpscRing α :=
  { ring with
    cells := update ring.cells (ring.pushed.length % ring.size) (.holds element)
    staged := some element }

def publish (element : α) : SpscRing α :=
  { ring with pushed := ring.pushed ++ [element], staged := none }

def moveOut (element : α) : SpscRing α :=
  { ring with
    cells := update ring.cells (ring.popped.length % ring.size) .movedFrom
    popped := ring.popped ++ [element] }

def destroy : SpscRing α :=
  { ring with
    cells := update ring.cells (ring.emptied % ring.size) .empty
    emptied := ring.emptied + 1 }

def release : SpscRing α := { ring with released := ring.released + 1 }

variable {ring} {element : α} {spot : Nat}

theorem Valid.popped_length_le (valid : ring.Valid) : ring.popped.length ≤ ring.pushed.length :=
  valid.popped_of_pushed.length_le

theorem Valid.released_le_popped (valid : ring.Valid) : ring.released ≤ ring.popped.length :=
  Nat.le_trans valid.released_le valid.emptied_le

theorem Valid.released_le_pushed (valid : ring.Valid) : ring.released ≤ ring.pushed.length :=
  Nat.le_trans valid.released_le_popped valid.popped_length_le

theorem pushed_length_le (ring : SpscRing α) : ring.pushed.length ≤ ring.constructed.length := by
  simp [constructed]

section

variable (valid : ring.Valid)

include valid

theorem Valid.queued_lt : ring.pushed.length - ring.popped.length < ring.size := by
  have low := valid.released_le_popped
  have order := valid.popped_length_le
  have constructed := ring.pushed_length_le
  have room := valid.room
  omega

/-- One cell is written, and the cells of the other positions of the round are not. -/
theorem Valid.update_layout {written : Nat} {cell : Cell α} (low : ring.released ≤ written)
    (high : written < ring.released + ring.size) (first : ring.released ≤ spot)
    (last : spot < ring.released + ring.size) :
    update ring.cells (written % ring.size) cell (spot % ring.size) =
      if spot = written then cell else ring.content spot := by
  by_cases same : spot = written
  · rw [if_pos same, same, update_self]
  · rw [if_neg same, update_of_ne, valid.layout spot first last]
    intro equal
    rcases Nat.le_total spot written with below | above
    · exact same (SlotQueue.slot_injective (by omega) below equal)
    · exact same (SlotQueue.slot_injective (by omega) above equal.symm).symm

/-! ## The producer -/

theorem Valid.content_of_le (beyond : ring.constructed.length ≤ spot) :
    ring.content spot = .empty := by
  have order := valid.popped_length_le
  have emptied := valid.emptied_le
  have constructed := ring.pushed_length_le
  rw [content, if_neg (by omega), if_neg (by omega), List.getElem?_eq_none beyond]

/-- The producer constructs into an empty cell. -/
theorem Valid.empty_of_room (nothing : ring.staged = none)
    (room : ring.pushed.length < ring.released + ring.size) :
    ring.cells (ring.pushed.length % ring.size) = .empty := by
  have all : ring.constructed = ring.pushed := by simp [constructed, nothing]
  rw [valid.layout _ valid.released_le_pushed room]
  exact valid.content_of_le (Nat.le_of_eq (congrArg List.length all))

theorem Valid.construct (nothing : ring.staged = none)
    (room : ring.pushed.length + 1 < ring.released + ring.size) :
    (ring.construct element).Valid := by
  have all : ring.constructed = ring.pushed := by simp [constructed, nothing]
  have more : (ring.construct element).constructed = ring.pushed ++ [element] := rfl
  have order := valid.popped_length_le
  have emptied := valid.emptied_le
  refine ⟨valid.released_le, valid.emptied_le, valid.popped_le, valid.popped_of_pushed, ?_, ?_⟩
  · rw [more, List.length_append]
    exact room
  · intro spot first last
    show update ring.cells _ _ (spot % ring.size) = _
    rw [valid.update_layout valid.released_le_pushed (by omega) first last]
    unfold content
    rw [more, all]
    show _ = if spot < ring.emptied then _ else if spot < ring.popped.length then _ else _
    by_cases same : spot = ring.pushed.length
    · rw [if_pos same, if_neg (by omega), if_neg (by omega), same, List.getElem?_concat_length]
    · rw [if_neg same]
      rcases Nat.lt_or_ge spot ring.pushed.length with below | above
      · rw [List.getElem?_append_left below]
      · rw [List.getElem?_eq_none above, List.getElem?_eq_none (by simp; omega)]

theorem Valid.publish (ready : ring.staged = some element) : (ring.publish element).Valid := by
  have same : (ring.publish element).constructed = ring.constructed := by
    simp [SpscRing.publish, constructed, ready]
  refine ⟨valid.released_le, valid.emptied_le, valid.popped_le,
    valid.popped_of_pushed.trans (List.prefix_append _ _), same ▸ valid.room, ?_⟩
  intro spot first last
  have before := valid.layout spot first last
  unfold content at before ⊢
  rw [same]
  exact before

/-! ## The consumer -/

theorem Valid.holds_next (started : ring.popped.length = ring.released)
    (next : ring.pushed[ring.popped.length]? = some element) :
    ring.cells (ring.popped.length % ring.size) = .holds element := by
  have inside : ring.popped.length < ring.pushed.length := (List.getElem?_eq_some_iff.mp next).1
  have constructed := ring.pushed_length_le
  have room := valid.room
  have emptied := valid.emptied_le
  rw [valid.layout _ (by omega) (by omega), content, if_neg (by omega), if_neg (by omega),
    SpscRing.constructed, List.getElem?_append_left inside, next]

theorem Valid.moveOut (started : ring.popped.length = ring.released)
    (next : ring.pushed[ring.popped.length]? = some element) : (ring.moveOut element).Valid := by
  have inside : ring.popped.length < ring.pushed.length := (List.getElem?_eq_some_iff.mp next).1
  have constructed := ring.pushed_length_le
  have ⟨released_le, emptied_le, popped_le, popped_of_pushed, room, _⟩ := valid
  have longer : (ring.moveOut element).popped.length = ring.popped.length + 1 := by
    simp [SpscRing.moveOut]
  refine ⟨released_le, ?_, ?_, ?_, room, ?_⟩
  · rw [longer]
    exact Nat.le_succ_of_le emptied_le
  · rw [longer]
    exact Nat.succ_le_succ (Nat.le_of_eq started)
  · obtain ⟨rest, split⟩ := popped_of_pushed
    rw [← split, List.getElem?_append_right (Nat.le_refl _), Nat.sub_self] at next
    obtain ⟨later, rfl⟩ := List.head?_eq_some_iff.mp (List.head?_eq_getElem? ▸ next)
    exact ⟨later, by simp [SpscRing.moveOut, ← split]⟩
  · intro spot first last
    show update ring.cells _ _ (spot % ring.size) = _
    rw [valid.update_layout (by omega) (by omega) first last]
    unfold content
    rw [longer]
    show _ = if spot < ring.emptied then _ else _
    by_cases same : spot = ring.popped.length
    · rw [if_pos same, if_neg (by omega), if_pos (by omega)]
    · rw [if_neg same]
      by_cases before : spot < ring.popped.length
      · rw [if_pos before, if_pos (Nat.lt_succ_of_lt before)]
      · rw [if_neg before, if_neg (by omega : ¬ spot < ring.popped.length + 1)]
        rfl

/-- The consumer destroys what is left of an element it has moved out. -/
theorem Valid.movedFrom_next (taken : ring.emptied < ring.popped.length) :
    ring.cells (ring.emptied % ring.size) = .movedFrom := by
  have constructed := ring.pushed_length_le
  have order := valid.popped_length_le
  have room := valid.room
  rw [valid.layout _ valid.released_le (by omega), content, if_neg (Nat.lt_irrefl _), if_pos taken]

theorem Valid.destroy (taken : ring.emptied < ring.popped.length) : ring.destroy.Valid := by
  have constructed := ring.pushed_length_le
  have order := valid.popped_length_le
  have ⟨released_le, emptied_le, popped_le, popped_of_pushed, room, _⟩ := valid
  refine ⟨Nat.le_succ_of_le released_le, taken, popped_le, popped_of_pushed, room, ?_⟩
  intro spot first last
  show update ring.cells _ _ (spot % ring.size) = _
  rw [valid.update_layout released_le (by omega) first last]
  unfold content
  show _ = if spot < ring.emptied + 1 then _ else if spot < ring.popped.length then _ else _
  by_cases same : spot = ring.emptied
  · rw [if_pos same, if_pos (by omega)]
  · rw [if_neg same]
    by_cases before : spot < ring.emptied
    · rw [if_pos before, if_pos (Nat.lt_succ_of_lt before)]
    · rw [if_neg before, if_neg (by omega : ¬ spot < ring.emptied + 1)]
      rfl

/-- A cell is released when it is empty, so it is empty for the position one round later. -/
theorem Valid.release (freed : ring.released < ring.emptied) : ring.release.Valid := by
  have ⟨released_le, emptied_le, popped_le, popped_of_pushed, room, layout⟩ := valid
  refine ⟨freed, emptied_le, Nat.le_succ_of_le popped_le, popped_of_pushed, ?_, ?_⟩
  · exact Nat.lt_of_lt_of_le room (Nat.add_le_add_right (Nat.le_succ _) _)
  · intro spot first last
    have first' : ring.released + 1 ≤ spot := first
    have last' : spot < ring.released + 1 + ring.size := last
    show ring.cells (spot % ring.size) = ring.content spot
    by_cases wrapped : spot = ring.released + ring.size
    · have empty : ring.content ring.released = .empty := if_pos freed
      have same := layout ring.released (Nat.le_refl _) (by omega)
      rw [wrapped, Nat.add_mod_right, same, empty, valid.content_of_le (by omega)]
    · exact layout spot (by omega) (by omega)

end

end SpscRing

end KmxAio.Lib
