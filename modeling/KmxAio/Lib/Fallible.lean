import Mathlib.Init

/-!
# The ways a computation may fail

A computation that may fail fails only with reasons of a given kind. The kind is
kept by every way computations are put together, so it is read off a decoder by
its structure.
-/

namespace KmxAio.Lib.Fallible

variable {ε α β : Type}

/-- If the computation fails, its reason is an allowed one. -/
def FailsOnlyWith (allowed : ε → Prop) (result : Except ε α) : Prop :=
  ∀ why, result = .error why → allowed why

variable (allowed : ε → Prop)

@[simp] theorem failsOnlyWith_ok (val : α) : FailsOnlyWith allowed (.ok val) := by
  intro why impossible
  cases impossible

@[simp] theorem failsOnlyWith_pure (val : α) : FailsOnlyWith allowed (pure val : Except ε α) :=
  failsOnlyWith_ok allowed val

@[simp] theorem failsOnlyWith_error (why : ε) :
    FailsOnlyWith allowed (.error why : Except ε α) ↔ allowed why := by
  constructor
  · intro fails
    exact fails why rfl
  · rintro permitted other ⟨rfl⟩
    exact permitted

@[simp] theorem failsOnlyWith_ite (condition : Prop) [Decidable condition]
    (first second : Except ε α) :
    FailsOnlyWith allowed (if condition then first else second) ↔
      (condition → FailsOnlyWith allowed first) ∧ (¬ condition → FailsOnlyWith allowed second) := by
  by_cases holds : condition <;> simp [holds]

@[simp] theorem failsOnlyWith_bind (first : Except ε α) (next : α → Except ε β) :
    FailsOnlyWith allowed (first >>= next) ↔
      FailsOnlyWith allowed first ∧ ∀ val, first = .ok val → FailsOnlyWith allowed (next val) := by
  cases first with
  | error why =>
    show FailsOnlyWith allowed (.error why : Except ε β) ↔ _
    simp
  | ok val =>
    show FailsOnlyWith allowed (next val) ↔ _
    simp

@[simp] theorem failsOnlyWith_map (change : α → β) (result : Except ε α) :
    FailsOnlyWith allowed (change <$> result) ↔ FailsOnlyWith allowed result := by
  cases result with
  | error why =>
    show FailsOnlyWith allowed (.error why : Except ε β) ↔ _
    simp
  | ok val =>
    show FailsOnlyWith allowed (.ok (change val) : Except ε β) ↔ _
    simp

end KmxAio.Lib.Fallible
