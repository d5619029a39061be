import Mathlib.Data.List.Basic

/-!
# Runs of a step function

A component is a state and a function from a state and an event to the next
state. A run is a list of events taken one after another. A run is admissible
when every event meets a condition in the state it is taken in, and a property
that every admissible step keeps holds in every state an admissible run reaches.
-/

namespace KmxAio.Lib.Run

variable {State Event : Type}

/-- The state a list of events leads to. -/
def run (step : State → Event → State) (state : State) (events : List Event) : State :=
  events.foldl step state

/-- Every event of the run meets `allowed` in the state it is taken in. -/
def Admissible (step : State → Event → State) (allowed : State → Event → Prop) :
    State → List Event → Prop
  | _, [] => True
  | state, event :: rest => allowed state event ∧ Admissible step allowed (step state event) rest

instance (step : State → Event → State) (allowed : State → Event → Prop)
    [decide : ∀ state event, Decidable (allowed state event)] (state : State) (events : List Event) :
    Decidable (Admissible step allowed state events) :=
  match events with
  | [] => .isTrue trivial
  | event :: rest =>
    let _ := instDecidableAdmissible step allowed (step state event) rest
    inferInstanceAs (Decidable (allowed state event ∧ _))

variable {step : State → Event → State} {allowed : State → Event → Prop}

@[simp] theorem run_nil (state : State) : run step state [] = state := rfl

@[simp] theorem run_cons (state : State) (event : Event) (rest : List Event) :
    run step state (event :: rest) = run step (step state event) rest := rfl

theorem run_append (state : State) (first second : List Event) :
    run step state (first ++ second) = run step (run step state first) second :=
  List.foldl_append

variable {state : State} {events : List Event} {condition : Event → Prop} {Invariant : State → Prop}

/-- A run whose events all meet a condition of their own is admissible under it. -/
theorem admissible_of_events (throughout : ∀ event ∈ events, condition event) :
    Admissible step (fun _ event => condition event) state events := by
  induction events generalizing state with
  | nil => trivial
  | cons event rest ih =>
    obtain ⟨here, later⟩ := List.forall_mem_cons.mp throughout
    exact ⟨here, ih later⟩

/-- A condition on events alone strengthens an admissible run. -/
theorem Admissible.and_events (admissible : Admissible step allowed state events)
    (throughout : ∀ event ∈ events, condition event) :
    Admissible step (fun state event => condition event ∧ allowed state event) state events := by
  induction events generalizing state with
  | nil => trivial
  | cons event rest ih =>
    obtain ⟨here, later⟩ := List.forall_mem_cons.mp throughout
    exact ⟨⟨here, admissible.1⟩, ih admissible.2 later⟩

/-- A property every admissible step keeps holds after every admissible run. -/
theorem invariant_run
    (preserved : ∀ state event, Invariant state → allowed state event →
      Invariant (step state event)) (initially : Invariant state)
    (admissible : Admissible step allowed state events) : Invariant (run step state events) := by
  induction events generalizing state with
  | nil => exact initially
  | cons event rest ih =>
    exact ih (preserved state event initially admissible.1) admissible.2

/-- Along an admissible run every event does what its condition and an invariant imply. -/
theorem Admissible.imp {implied : State → Event → Prop}
    (preserved : ∀ state event, Invariant state → allowed state event →
      Invariant (step state event))
    (implies : ∀ state event, Invariant state → allowed state event → implied state event)
    (initially : Invariant state) (admissible : Admissible step allowed state events) :
    Admissible step implied state events := by
  induction events generalizing state with
  | nil => trivial
  | cons event rest ih =>
    obtain ⟨here, later⟩ := admissible
    exact ⟨implies state event initially here, ih (preserved state event initially here) later⟩

/-- Two components that take the same events stay related if every step keeps them related. -/
theorem simulation_run {Other : Type} {other : Other} {stepOther : Other → Event → Other}
    {Related : State → Other → Prop}
    (preserved : ∀ state other event, Related state other → condition event →
      Related (step state event) (stepOther other event)) (initially : Related state other)
    (throughout : ∀ event ∈ events, condition event) :
    Related (run step state events) (run stepOther other events) := by
  induction events generalizing state other with
  | nil => exact initially
  | cons event rest ih =>
    obtain ⟨here, later⟩ := List.forall_mem_cons.mp throughout
    exact ih (preserved state other event initially here) later

/-- A property that is never regained once lost holds after a run exactly when no step of the run
loses it. -/
theorem holds_iff_admissible {Good : State → Prop}
    (preserved : ∀ state event, Invariant state → Invariant (step state event))
    (never_regained : ∀ state event, Good (step state event) → Good state)
    (kept_iff : ∀ state event, Invariant state → Good state →
      (Good (step state event) ↔ allowed state event)) (invariant : Invariant state)
    (good : Good state) : Good (run step state events) ↔ Admissible step allowed state events := by
  have lost : ∀ rest state, Good (run step state rest) → Good state := by
    intro rest
    induction rest with
    | nil => exact fun _ still => still
    | cons event rest ih => exact fun state still => never_regained state event (ih _ still)
  induction events generalizing state with
  | nil => exact iff_of_true good trivial
  | cons event rest ih =>
    have next := preserved state event invariant
    have here := kept_iff state event invariant good
    constructor
    · intro still
      have goodNext := lost rest _ still
      exact ⟨here.mp goodNext, (ih next goodNext).mp still⟩
    · rintro ⟨permitted, later⟩
      exact (ih next (here.mpr permitted)).mpr later

end KmxAio.Lib.Run
