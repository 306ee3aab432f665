import Mathlib.Tactic

/-!
# Computations that answer with a code

A computation changes a state and answers with a code; zero is success.  Computations are
put together such that the first failure ends them.

What a computation does is often stated over a view of the state, under an invariant that
says how the rest of the state belongs to the view: the computation acts on the view as a
function.  A further section has the rules of pre- and postconditions.
-/

namespace ECam.Library

variable {State View : Type}

/-- A computation with a state and a code. -/
abbrev Fallible (State : Type) := State → Int × State

namespace Fallible

/-- The second computation is done if the first one succeeds. -/
def andThen (first second : Fallible State) : Fallible State := fun state =>
  if (first state).1 = 0 then second (first state).2 else first state

/-- After a success the second computation goes on. -/
theorem andThen_of_success {first second : Fallible State} {state last : State}
    (done : first state = (0, last)) : first.andThen second state = second last := by
  rw [andThen, done, if_pos rfl]

/-- A change of the state that cannot fail. -/
def modify (change : State → State) : Fallible State := fun state => (0, change state)

/-- The computations of a list, up to the first failure. -/
def sequence : List (Fallible State) → Fallible State
  | [] => modify id
  | first :: others => first.andThen (sequence others)

/-- Under the invariant, which it keeps, the computation answers with the code and acts on
the view as a function. -/
structure Acts (invariant : State → Prop) (view : State → View) (computation : Fallible State)
    (code : Int) (act : View → View) : Prop where
  code : ∀ state, invariant state → (computation state).1 = code
  keeps : ∀ state, invariant state → invariant (computation state).2
  view : ∀ state, invariant state → view (computation state).2 = act (view state)

variable {invariant : State → Prop} {view : State → View} {first second : Fallible State}
  {code : Int} {act later : View → View}

/-- The three parts from the result of the computation. -/
theorem Acts.of_result (result : ∀ state, invariant state → ∃ last,
      first state = (code, last) ∧ invariant last ∧ view last = act (view state)) :
    Acts invariant view first code act := by
  constructor
  · intro state holds
    rcases result state holds with ⟨last, done, -, -⟩
    rw [done]
  · intro state holds
    rcases result state holds with ⟨last, done, keeps, -⟩
    rw [done]
    exact keeps
  · intro state holds
    rcases result state holds with ⟨last, done, -, acts⟩
    rw [done]
    exact acts

theorem Acts.andThen (done : Acts invariant view first 0 act)
    (next : Acts invariant view second code later) :
    Acts invariant view (first.andThen second) code (later ∘ act) := by
  have proceeds : ∀ state, invariant state →
      first.andThen second state = second (first state).2 := by
    intro state holds
    rw [Fallible.andThen, if_pos (done.code state holds)]
  constructor
  · intro state holds
    rw [proceeds state holds]
    exact next.code _ (done.keeps state holds)
  · intro state holds
    rw [proceeds state holds]
    exact next.keeps _ (done.keeps state holds)
  · intro state holds
    rw [proceeds state holds, next.view _ (done.keeps state holds), done.view state holds]
    rfl

/-- The second computation is done whatever the first code is, and the codes are joined. -/
theorem Acts.both (done : Acts invariant view first 0 act)
    (next : Acts invariant view second 0 later) :
    Acts invariant view (fun state =>
      (if (first state).1 = 0 then 0 else (second (first state).2).1, (second (first state).2).2)) 0
      (later ∘ act) := by
  constructor
  · intro state holds
    exact if_pos (done.code state holds)
  · intro state holds
    exact next.keeps _ (done.keeps state holds)
  · intro state holds
    rw [next.view _ (done.keeps state holds), done.view state holds]
    rfl

theorem Acts.modify {change : State → State} (keeps : ∀ state, invariant state →
      invariant (change state))
    (acts : ∀ state, view (change state) = act (view state)) :
    Acts invariant view (Fallible.modify change) 0 act :=
  ⟨fun _ _ => rfl, keeps, fun state _ => acts state⟩

/-- The acts of a list of computations, one after the other. -/
theorem Acts.sequence {Item : Type} {items : List Item} {computation : Item → Fallible State}
    {act : Item → View → View}
    (each : ∀ item ∈ items, Acts invariant view (computation item) 0 (act item)) :
    Acts invariant view (Fallible.sequence (items.map computation)) 0
      (fun start => items.foldl (fun value item => act item value) start) := by
  induction items with
  | nil => exact Acts.modify (fun _ holds => holds) (fun _ => rfl)
  | cons item items ih =>
      exact (each item List.mem_cons_self).andThen
        (ih fun other mem => each other (List.mem_cons_of_mem _ mem))

/-- Another code is answered. -/
theorem Acts.recode (done : Acts invariant view first code act) (change : Int → Int) :
    Acts invariant view (fun state => (change (first state).1, (first state).2)) (change code)
      act :=
  ⟨fun state holds => congrArg change (done.code state holds), done.keeps, done.view⟩

/-- The computation depends on the state it is started in. -/
theorem Acts.of_agrees (agrees : ∀ state, invariant state → ∃ computation does,
      Acts invariant view computation code does ∧ first state = computation state ∧
        act (view state) = does (view state)) :
    Acts invariant view first code act := by
  apply Acts.of_result
  intro state holds
  rcases agrees state holds with ⟨computation, does, acts, same, sameAct⟩
  refine ⟨(computation state).2, ?_, acts.keeps state holds, ?_⟩
  · rw [same, ← acts.code state holds]
  · rw [acts.view state holds, sameAct]

/-! ## Conditions before and after -/

/-- From a state with the precondition, a success leads to a state with the first
postcondition and a failure to one with the second. -/
def Ensures (pre : State → Prop) (computation : Fallible State) (success failure : State → Prop) :
    Prop :=
  ∀ state, pre state →
    ((computation state).1 = 0 → success (computation state).2) ∧
      ((computation state).1 ≠ 0 → failure (computation state).2)

variable {pre between success failure : State → Prop}

theorem Ensures.andThen (done : Ensures pre first between failure)
    (next : Ensures between second success failure) :
    Ensures pre (first.andThen second) success failure := by
  intro state holds
  rcases done state holds with ⟨succeeds, fails⟩
  unfold Fallible.andThen
  split
  next ended => exact next _ (succeeds ended)
  next failed => exact ⟨fun ended => absurd ended failed, fails⟩

/-- A weaker condition after a success. -/
theorem Ensures.weaken (done : Ensures pre first between failure)
    (implies : ∀ state, between state → success state) : Ensures pre first success failure :=
  fun state holds =>
    ⟨fun ended => implies _ ((done state holds).1 ended), (done state holds).2⟩

/-- A change that cannot fail. -/
theorem Ensures.modify {change : State → State} (holds : ∀ state, pre state →
      success (change state)) : Ensures pre (Fallible.modify change) success failure :=
  fun state before => ⟨fun _ => holds state before, fun failed => absurd rfl failed⟩

/-- The property holds afterwards, be it a success or a failure. -/
def Keeps (property : State → Prop) (computation : Fallible State) : Prop :=
  ∀ state, property state → property (computation state).2

theorem Keeps.andThen {property : State → Prop} (done : Keeps property first)
    (next : Keeps property second) : Keeps property (first.andThen second) := by
  intro state holds
  unfold Fallible.andThen
  split
  next => exact next _ (done state holds)
  next => exact done state holds

end Fallible

end ECam.Library
