import Mathlib.Data.List.Basic
import Mathlib.Logic.Relation

/-!
# Numbers reserved in blocks

An allocator hands out numbers it has reserved beforehand in a durable mark. The
mark survives a crash and the rest does not: what was reserved and not handed out
is lost. No number below the mark is ever handed out after a crash, so whatever
order things happen in, the numbers that were handed out increase.
-/

namespace KmxAio.Lib.ReservedNumbers

/-- What an allocator keeps in memory: the next number and the end of its block. -/
structure Stock where
  next : Nat
  reserved : Nat

/-- An allocator, with the numbers it handed out in order. -/
structure Allocator where
  durable : Nat
  stock : Option Stock
  issued : List Nat

/-- What may happen to an allocator. A number can be spent without being handed out. -/
inductive Step (limit : Nat) : Allocator → Allocator → Prop where
  | crash {allocator : Allocator} : Step limit allocator { allocator with stock := none }
  | start {allocator : Allocator} {next : Nat} (stopped : allocator.stock = none)
      (positive : 1 ≤ next) (past : allocator.durable ≤ next) :
      Step limit allocator { allocator with stock := some ⟨next, next⟩ }
  | reserve {allocator : Allocator} (stock : Stock) {reserved : Nat}
      (current : allocator.stock = some stock) (ahead : stock.next < reserved) :
      Step limit allocator
        { allocator with durable := reserved, stock := some ⟨stock.next, reserved⟩ }
  | spend {allocator : Allocator} (stock : Stock) (current : allocator.stock = some stock)
      (within : stock.next < stock.reserved) :
      Step limit allocator { allocator with stock := some ⟨stock.next + 1, stock.reserved⟩ }
  | issue {allocator : Allocator} (stock : Stock) (current : allocator.stock = some stock)
      (within : stock.next < stock.reserved) (small : stock.next ≤ limit) :
      Step limit allocator
        { allocator with
          stock := some ⟨stock.next + 1, stock.reserved⟩
          issued := allocator.issued ++ [stock.next] }

/-- Any number of steps. -/
def Steps (limit : Nat) : Allocator → Allocator → Prop := Relation.ReflTransGen (Step limit)

/-- Everything handed out lies below the durable mark and below the next number, and whatever is
left of the block lies below the mark. -/
structure Ordered (limit : Nat) (allocator : Allocator) : Prop where
  increasing : allocator.issued.Pairwise (· < ·)
  bounded : ∀ number ∈ allocator.issued, 1 ≤ number ∧ number ≤ limit
  recorded : ∀ number ∈ allocator.issued, number < allocator.durable
  positive : ∀ stock ∈ allocator.stock, 1 ≤ stock.next
  ahead : ∀ stock ∈ allocator.stock, ∀ number ∈ allocator.issued, number < stock.next
  covered : ∀ stock ∈ allocator.stock, stock.next < stock.reserved →
    stock.reserved ≤ allocator.durable

theorem ordered_initially (limit durable : Nat) : Ordered limit ⟨durable, none, []⟩ where
  increasing := .nil
  bounded := nofun
  recorded := nofun
  positive := nofun
  ahead := nofun
  covered := nofun

variable {limit : Nat} {allocator after : Allocator}

theorem Ordered.step (ordered : Ordered limit allocator) (step : Step limit allocator after) :
    Ordered limit after := by
  cases step with
  | crash => exact ⟨ordered.increasing, ordered.bounded, ordered.recorded, nofun, nofun, nofun⟩
  | start stopped positive past =>
    refine ⟨ordered.increasing, ordered.bounded, ordered.recorded, ?_, ?_, ?_⟩
    · rintro _ ⟨⟩
      exact positive
    · rintro _ ⟨⟩ num issued
      exact Nat.lt_of_lt_of_le (ordered.recorded num issued) past
    · rintro _ ⟨⟩ within
      exact absurd within (Nat.lt_irrefl _)
  | reserve stock current ahead =>
    refine ⟨ordered.increasing, ordered.bounded, ?_, ?_, ?_, ?_⟩
    · intro num issued
      exact Nat.lt_trans (ordered.ahead stock current num issued) ahead
    · rintro _ ⟨⟩
      exact ordered.positive stock current
    · rintro _ ⟨⟩
      exact ordered.ahead stock current
    · rintro _ ⟨⟩ _
      exact Nat.le_refl _
  | spend stock current within =>
    refine ⟨ordered.increasing, ordered.bounded, ordered.recorded, ?_, ?_, ?_⟩
    · rintro _ ⟨⟩
      exact Nat.succ_le_succ (Nat.zero_le _)
    · rintro _ ⟨⟩ num issued
      exact Nat.lt_succ_of_lt (ordered.ahead stock current num issued)
    · rintro _ ⟨⟩ _
      exact ordered.covered stock current within
  | issue stock current within small =>
    refine ⟨?_, ?_, ?_, ?_, ?_, ?_⟩
    · refine List.pairwise_append.mpr ⟨ordered.increasing, List.pairwise_singleton _ _, ?_⟩
      intro num issued last same
      rw [List.mem_singleton.mp same]
      exact ordered.ahead stock current num issued
    · exact List.forall_mem_append.mpr ⟨ordered.bounded,
        List.forall_mem_singleton.mpr ⟨ordered.positive stock current, small⟩⟩
    · exact List.forall_mem_append.mpr ⟨ordered.recorded, List.forall_mem_singleton.mpr
        (Nat.lt_of_lt_of_le within (ordered.covered stock current within))⟩
    · rintro _ ⟨⟩
      exact Nat.succ_le_succ (Nat.zero_le _)
    · rintro _ ⟨⟩
      refine List.forall_mem_append.mpr ⟨fun num issued => ?_,
        List.forall_mem_singleton.mpr (Nat.lt_succ_self _)⟩
      exact Nat.lt_succ_of_lt (ordered.ahead stock current num issued)
    · rintro _ ⟨⟩ _
      exact ordered.covered stock current within

theorem Ordered.steps (ordered : Ordered limit allocator) (steps : Steps limit allocator after) :
    Ordered limit after := by
  induction steps with
  | refl => exact ordered
  | tail _ step ih => exact ih.step step

end KmxAio.Lib.ReservedNumbers
