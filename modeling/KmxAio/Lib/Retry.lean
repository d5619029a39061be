import Mathlib.Init

/-!
# Loops that try again

A loop takes a pass over each input until one pass ends it. A pass that goes on
may be paid for from a budget, and then the number of passes is bounded by it. A
pass that goes on and leaves the state as it was can be repeated without end.
-/

namespace KmxAio.Lib.Retry

variable {σ α ρ : Type}

/-- What one pass comes to. -/
inductive Pass (σ ρ : Type) where
  | again (state : σ)
  | done (state : σ) (result : ρ)

/-- Passes until one ends the loop; the inputs it did not need are left over. -/
def loop (pass : σ → α → Pass σ ρ) (state : σ) : List α → Option (σ × ρ × List α)
  | [] => none
  | input :: rest =>
    match pass state input with
    | .again next => loop pass next rest
    | .done next result => some (next, result, rest)

/-- How many of the passes of a loop are of a kind, whether or not the loop ends. -/
def countPasses (pass : σ → α → Pass σ ρ) (kind : σ → α → Bool) (state : σ) : List α → Nat
  | [] => 0
  | input :: rest =>
    (kind state input).toNat +
      match pass state input with
      | .again next => countPasses pass kind next rest
      | .done _ _ => 0

variable {pass : σ → α → Pass σ ρ} {kind : σ → α → Bool} {state : σ} {inputs : List α}

/-- A loop that ended did so in one pass, before which every pass went on. -/
theorem loop_ends {invariant : σ → Prop} {passed : α → Prop} {after : σ} {result : ρ}
    {rest : List α} (goesOn : ∀ state input next, invariant state → pass state input = .again next →
      invariant next ∧ passed input)
    (holds : invariant state) (ended : loop pass state inputs = some (after, result, rest)) :
    ∃ earlier input last, inputs = earlier ++ input :: rest ∧ (∀ input ∈ earlier, passed input) ∧
      invariant last ∧ pass last input = .done after result := by
  induction inputs generalizing state with
  | nil => cases ended
  | cons input later ih =>
    unfold loop at ended
    cases outcome : pass state input with
    | done next val =>
      rw [outcome] at ended
      cases ended
      exact ⟨[], input, state, rfl, by simp, holds, outcome⟩
    | again next =>
      rw [outcome] at ended
      obtain ⟨kept, gone⟩ := goesOn state input next holds outcome
      obtain ⟨earlier, final, last, whole, all, held, finished⟩ := ih kept ended
      refine ⟨input :: earlier, final, last, ?_, List.forall_mem_cons.mpr ⟨gone, all⟩, held,
        finished⟩
      rw [whole]
      rfl

/-- Where every pass that goes on is paid for, there is at most one pass more than the budget. -/
theorem countPasses_le {invariant : σ → Prop} {allowed : α → Prop} {budget : σ → Nat}
    (spends : ∀ state input next, invariant state → allowed input →
      pass state input = .again next → invariant next ∧ budget next < budget state)
    (holds : invariant state) (permitted : ∀ input ∈ inputs, allowed input) :
    countPasses pass kind state inputs ≤ budget state + 1 := by
  induction inputs generalizing state with
  | nil => exact Nat.zero_le _
  | cons input later ih =>
    obtain ⟨first, others⟩ := List.forall_mem_cons.mp permitted
    have one : (kind state input).toNat ≤ 1 := Bool.toNat_le _
    unfold countPasses
    cases outcome : pass state input with
    | done next val =>
      dsimp only
      omega
    | again next =>
      obtain ⟨kept, spent⟩ := spends state input next holds first outcome
      have bound := ih kept others
      dsimp only
      omega

/-- Where the passes of a kind are bounded, none of them changes nothing. -/
theorem changes_of_bounded {allowed : α → Prop} {limit : Nat} {input : α}
    (bounded : ∀ inputs, (∀ input ∈ inputs, allowed input) →
      countPasses pass kind state inputs ≤ limit)
    (comes : allowed input) (counted : kind state input = true) :
    pass state input ≠ .again state := by
  intro stuck
  have beyond := bounded (List.replicate (limit + 1) input) fun other present =>
    List.eq_of_mem_replicate present ▸ comes
  have counts (num : Nat) : countPasses pass kind state (List.replicate num input) = num := by
    induction num with
    | zero => rfl
    | succ num ih =>
      rw [List.replicate_succ]
      unfold countPasses
      rw [stuck]
      dsimp only
      rw [ih, counted, Bool.toNat_true, Nat.add_comm]
  rw [counts] at beyond
  exact Nat.not_succ_le_self limit beyond

end KmxAio.Lib.Retry
