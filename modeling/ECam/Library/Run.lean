import Mathlib.Tactic

/-!
# Runs of a deterministic system

A system is a step function on states; a run is the left fold of the step over a
list of events.  This module states what holds in every state met along a run,
what is required of every step of a run, and the rule that derives the first from
the second.

The last section compares two runs through a partial view of the state: a view
that the invisible events leave alone, and on which the visible events act as a
function, depends on the visible events only.
-/

namespace ECam.Library

variable {State Event View : Type}

/-- The property holds in every state met along the run, the first and the last
one included. -/
def Always (step : State → Event → State) (property : State → Prop) :
    State → List Event → Prop
  | state, [] => property state
  | state, event :: events =>
      property state ∧ Always step property (step state event) events

/-- Every step of the run meets the condition in the state it is taken from. -/
def EachStep (step : State → Event → State) (condition : State → Event → Prop) :
    State → List Event → Prop
  | _, [] => True
  | state, event :: events =>
      condition state event ∧ EachStep step condition (step state event) events

instance EachStep.decidable {step : State → Event → State} {condition : State → Event → Prop}
    [∀ state event, Decidable (condition state event)] :
    ∀ (state : State) (events : List Event), Decidable (EachStep step condition state events)
  | _, [] => isTrue trivial
  | state, event :: events =>
      haveI : Decidable (EachStep step condition (step state event) events) :=
        EachStep.decidable (step state event) events
      inferInstanceAs (Decidable (condition state event ∧
        EachStep step condition (step state event) events))

variable {step : State → Event → State}

theorem eachStep_append {condition : State → Event → Prop} {state : State}
    {before after : List Event} :
    EachStep step condition state (before ++ after) ↔
      EachStep step condition state before ∧
        EachStep step condition (before.foldl step state) after := by
  induction before generalizing state with
  | nil => exact (and_iff_right trivial).symm
  | cons event before ih =>
      rw [List.cons_append, EachStep, EachStep, ih, List.foldl_cons, and_assoc]

/-- `Always` speaks about the state after every prefix of the run. -/
theorem always_iff_prefix {property : State → Prop} {state : State}
    {events : List Event} :
    Always step property state events ↔
      ∀ before after, events = before ++ after → property (before.foldl step state) := by
  induction events generalizing state with
  | nil =>
      constructor
      · intro holds before after split
        rw [(List.append_eq_nil_iff.mp split.symm).1]
        exact holds
      · intro every
        exact every [] [] rfl
  | cons event events ih =>
      constructor
      · intro holds before after split
        cases before with
        | nil => exact holds.1
        | cons first before =>
            simp only [List.cons_append, List.cons.injEq] at split
            rw [← split.1]
            exact ih.mp holds.2 before after split.2
      · intro every
        constructor
        · exact every [] (event :: events) rfl
        · apply ih.mpr
          intro before after split
          exact every (event :: before) after (by rw [split, List.cons_append])

/-- A property that holds at the start and is kept by every step that meets the
condition holds along a run of such steps. -/
theorem Always.of_steps {property : State → Prop} {condition : State → Event → Prop}
    (kept : ∀ state event, property state → condition state event →
      property (step state event))
    {state : State} {events : List Event} (start : property state)
    (steps : EachStep step condition state events) :
    Always step property state events := by
  induction events generalizing state with
  | nil => exact start
  | cons event events ih =>
      exact ⟨start, ih (kept state event start steps.1) steps.2⟩

/-- A property that every step keeps holds along every run. -/
theorem Always.of_invariant {property : State → Prop}
    (kept : ∀ state event, property state → property (step state event)) {state : State}
    (start : property state) (events : List Event) : Always step property state events := by
  induction events generalizing state with
  | nil => exact start
  | cons event events ih => exact ⟨start, ih (kept state event start)⟩

theorem Always.imp {property weaker : State → Prop}
    (implies : ∀ state, property state → weaker state) {state : State}
    {events : List Event} (holds : Always step property state events) :
    Always step weaker state events := by
  induction events generalizing state with
  | nil => exact implies state holds
  | cons event events ih => exact ⟨implies state holds.1, ih holds.2⟩

/-- The property of the last state of a run. -/
theorem Always.last {property : State → Prop} {state : State} {events : List Event}
    (holds : Always step property state events) :
    property (events.foldl step state) :=
  always_iff_prefix.mp holds events [] (by simp)

/-! ## Two runs seen through a view -/

section View

variable {view : State → View} {visible : Event → Bool} {allowed : State → Event → Prop}

/-- Dropping the invisible events of a run does not change the view of its last
state. -/
theorem view_foldl_filter
    (silent : ∀ state event, allowed state event → visible event = false →
      view (step state event) = view state)
    (observed : ∀ left right event, allowed left event → visible event = true →
      view left = view right → view (step left event) = view (step right event))
    {left right : State} {events : List Event}
    (admissible : EachStep step allowed left events) (same : view left = view right) :
    view (events.foldl step left) = view ((events.filter visible).foldl step right) := by
  induction events generalizing left right with
  | nil => exact same
  | cons event events ih =>
      cases seen : visible event with
      | true =>
          rw [List.filter_cons_of_pos seen, List.foldl_cons, List.foldl_cons]
          exact ih admissible.2 (observed left right event admissible.1 seen same)
      | false =>
          rw [List.filter_cons_of_neg (by simp [seen]), List.foldl_cons]
          exact ih admissible.2 ((silent left event admissible.1 seen).trans same)

/-- Two runs with the same visible events end in states with the same view. -/
theorem view_foldl_eq
    (silent : ∀ state event, allowed state event → visible event = false →
      view (step state event) = view state)
    (observed : ∀ left right event, allowed left event → visible event = true →
      view left = view right → view (step left event) = view (step right event))
    {start : State} {left right : List Event}
    (leftAdmissible : EachStep step allowed start left)
    (rightAdmissible : EachStep step allowed start right)
    (same : left.filter visible = right.filter visible) :
    view (left.foldl step start) = view (right.foldl step start) := by
  rw [view_foldl_filter silent observed leftAdmissible rfl,
    view_foldl_filter silent observed rightAdmissible rfl, same]

end View

end ECam.Library
