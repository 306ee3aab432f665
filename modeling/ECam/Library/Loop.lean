import Mathlib.Tactic

/-!
# Loops that carry their termination argument

A `while` loop with breaks is a body that either answers the state of the next
iteration or, with `none`, leaves the loop.  The measure that decreases in every
iteration is a field of the loop, so `Loop.run` is the state in which the loop is
left and not an approximation of it.

The rules below are the ones proofs about nested scans need: one iteration, a known
prefix of iterations, an invariant, the states a run goes through and what is collected
from them, relations between two runs, and loops that count.  The last section is about
bodies without a measure, whose loops may never be left.
-/

namespace ECam.Library

/-- A loop: its body and a measure that every iteration decreases. -/
structure Loop (State : Type) where
  body : State → Option State
  measure : State → Nat
  decreases : ∀ {state next : State}, body state = some next → measure next < measure state

namespace Loop

variable {State : Type}

/-- At most `fuel` iterations. -/
def iterate (loop : Loop State) : Nat → State → State
  | 0, state => state
  | fuel + 1, state =>
      match loop.body state with
      | none => state
      | some next => loop.iterate fuel next

/-- The state in which the loop is left. -/
def run (loop : Loop State) (state : State) : State :=
  loop.iterate (loop.measure state) state

variable {loop : Loop State} {state next : State}

/-! ## Iterations -/

section Fuel

variable {Output : Type} {bounded : Nat → State → Output} {stop : State → Output}
  (extend : State → Output → Output)
  (stopped : ∀ fuel state, loop.body state = none → bounded fuel state = stop state)
  (extended : ∀ fuel state next, loop.body state = some next →
    bounded (fuel + 1) state = extend state (bounded fuel next))

include stopped extended

/-- Fuel beyond the measure is not used. -/
theorem fuel_enough {fuel : Nat} (enough : loop.measure state ≤ fuel) :
    bounded fuel state = bounded (loop.measure state) state := by
  induction fuel using Nat.strong_induction_on generalizing state with
  | _ fuel ih =>
      cases result : loop.body state with
      | none => rw [stopped fuel state result, stopped _ state result]
      | some next =>
          have below := loop.decreases result
          cases fuel with
          | zero => omega
          | succ fuel =>
              cases size : loop.measure state with
              | zero => omega
              | succ smaller =>
                  rw [extended fuel state next result, extended smaller state next result,
                    ih fuel (by omega) (by omega), ih smaller (by omega) (by omega)]

/-- The first iteration with the fuel that is needed. -/
theorem fuel_continued (result : loop.body state = some next) :
    bounded (loop.measure state) state = extend state (bounded (loop.measure next) next) := by
  have below := loop.decreases result
  cases size : loop.measure state with
  | zero => omega
  | succ smaller =>
      rw [extended smaller state next result, fuel_enough extend stopped extended (by omega)]

end Fuel

theorem iterate_of_none (fuel : Nat) (state : State) (left : loop.body state = none) :
    loop.iterate fuel state = state := by
  cases fuel <;> simp [iterate, left]

theorem iterate_of_some (fuel : Nat) (state next : State) (continued : loop.body state = some next) :
    loop.iterate (fuel + 1) state = loop.iterate fuel next := by
  simp only [iterate, continued]

theorem run_of_none (left : loop.body state = none) : loop.run state = state :=
  iterate_of_none _ state left

theorem run_of_some (continued : loop.body state = some next) :
    loop.run state = loop.run next :=
  fuel_continued (fun _ last => last) iterate_of_none iterate_of_some continued

/-- Skipping a known prefix of the iterations. -/
theorem run_skip (states : Nat → State) (count : Nat)
    (steps : ∀ index < count, loop.body (states index) = some (states (index + 1))) :
    loop.run (states 0) = loop.run (states count) := by
  induction count with
  | zero => rfl
  | succ count ih =>
      rw [ih fun index below => steps index (by omega)]
      exact run_of_some (steps count (by omega))

/-! ## Whole runs -/

/-- Induction along the iterations that are left. -/
theorem induction (loop : Loop State) {motive : State → Prop}
    (left : ∀ state, loop.body state = none → motive state)
    (continued : ∀ state next, loop.body state = some next → motive next → motive state)
    (state : State) : motive state := by
  induction size : loop.measure state using Nat.strong_induction_on generalizing state with
  | _ size ih =>
      cases result : loop.body state with
      | none => exact left state result
      | some next =>
          have below := loop.decreases result
          exact continued state next result (ih (loop.measure next) (by omega) next rfl)

/-- A loop is only left where its body says so. -/
theorem body_run (loop : Loop State) (state : State) : loop.body (loop.run state) = none := by
  induction state using loop.induction with
  | left state ended => rw [run_of_none ended, ended]
  | continued state next result ih => rw [run_of_some result, ih]

/-- What every iteration keeps holds when the loop is left. -/
theorem run_invariant {property : State → Prop}
    (kept : ∀ state next, property state → loop.body state = some next → property next)
    (initially : property state) : property (loop.run state) := by
  induction state using loop.induction with
  | left state ended =>
      rw [run_of_none ended]
      exact initially
  | continued state next result ih =>
      rw [run_of_some result]
      exact ih (kept state next initially result)

/-- Two loops end in related states if from any two related states either this is known
already, or it follows from two related states further on.  The runs need not move on in
step: one of them may have skipped iterations of the other. -/
theorem run_simulated {Other : Type} {other : Loop Other} {start : Other}
    (related ended : State → Other → Prop)
    (progress : ∀ state start, related state start →
      ended (loop.run state) (other.run start) ∨
      ∃ next later, related next later ∧ loop.measure next < loop.measure state ∧
        (ended (loop.run next) (other.run later) → ended (loop.run state) (other.run start)))
    (initially : related state start) : ended (loop.run state) (other.run start) := by
  induction size : loop.measure state using Nat.strong_induction_on
    generalizing state start with
  | _ size ih =>
      rcases progress state start initially with
        finished | ⟨next, later, kept, below, enough⟩
      · exact finished
      · exact enough (ih (loop.measure next) (by omega) kept rfl)

/-- Two loops that keep a relation while both move on end in related states if that is
known wherever one of them is left. -/
theorem run_stepwise {Other : Type} {other : Loop Other} {start : Other}
    (related ended : State → Other → Prop)
    (step : ∀ state start, related state start →
      ended (loop.run state) (other.run start) ∨
      ∃ next later, loop.body state = some next ∧ other.body start = some later ∧
        related next later)
    (initially : related state start) : ended (loop.run state) (other.run start) := by
  refine run_simulated related ended ?_ initially
  intro state start kept
  rcases step state start kept with
    finished | ⟨next, later, continued, otherContinued, keptNext⟩
  · exact Or.inl finished
  · refine Or.inr ⟨next, later, keptNext, loop.decreases continued, ?_⟩
    rw [run_of_some continued, run_of_some otherContinued]
    exact id

/-- Two loops whose bodies keep a relation, and leave the loop at the same time, end
in related states. -/
theorem run_related {Other : Type} {other : Loop Other} {start : Other}
    {related : State → Other → Prop}
    (together : ∀ state start, related state start →
      (loop.body state = none ∧ other.body start = none) ∨
      ∃ next later, loop.body state = some next ∧ other.body start = some later ∧
        related next later)
    (initially : related state start) : related (loop.run state) (other.run start) := by
  refine run_stepwise related related ?_ initially
  intro state start kept
  rcases together state start kept with ⟨left, otherLeft⟩ | continued
  · left
    rw [run_of_none left, run_of_none otherLeft]
    exact kept
  · exact Or.inr continued

/-! ## The states of a run -/

/-- The states of at most `fuel` iterations. -/
def iterations (loop : Loop State) : Nat → State → List State
  | 0, state => [state]
  | fuel + 1, state =>
      match loop.body state with
      | none => [state]
      | some next => state :: loop.iterations fuel next

/-- The states in which the body is evaluated, in order; in the last one the loop is
left. -/
def states (loop : Loop State) (state : State) : List State :=
  loop.iterations (loop.measure state) state

theorem iterations_of_none (fuel : Nat) (state : State) (left : loop.body state = none) :
    loop.iterations fuel state = [state] := by
  cases fuel <;> simp [iterations, left]

theorem iterations_of_some (fuel : Nat) (state next : State)
    (continued : loop.body state = some next) :
    loop.iterations (fuel + 1) state = state :: loop.iterations fuel next := by
  simp only [iterations, continued]

theorem states_of_none (left : loop.body state = none) : loop.states state = [state] :=
  iterations_of_none _ state left

theorem states_of_some (continued : loop.body state = some next) :
    loop.states state = state :: loop.states next :=
  fuel_continued List.cons iterations_of_none iterations_of_some continued

/-- What the first state has and every iteration keeps holds in every state of a run. -/
theorem states_invariant {property : State → Prop}
    (kept : ∀ state next, property state → loop.body state = some next → property next)
    (initially : property state) : ∀ visited ∈ loop.states state, property visited := by
  induction state using loop.induction with
  | left state ended =>
      intro visited member
      rw [states_of_none ended, List.mem_singleton] at member
      rw [member]
      exact initially
  | continued state next result ih =>
      intro visited member
      rw [states_of_some result, List.mem_cons] at member
      rcases member with same | later
      · rw [same]
        exact initially
      · exact ih (kept state next initially result) visited later

theorem mem_states_self (loop : Loop State) (state : State) : state ∈ loop.states state := by
  cases result : loop.body state with
  | none =>
      rw [states_of_none result]
      exact List.mem_singleton_self state
  | some next =>
      rw [states_of_some result]
      exact List.mem_cons_self

/-- A run goes on from each of its states. -/
theorem mem_states_step {start : State} (member : state ∈ loop.states start)
    (continued : loop.body state = some next) : next ∈ loop.states start := by
  induction start using loop.induction with
  | left start ended =>
      rw [states_of_none ended, List.mem_singleton] at member
      rw [member, ended] at continued
      cases continued
  | continued start second result ih =>
      rw [states_of_some result, List.mem_cons] at member ⊢
      rcases member with same | later
      · rw [same, result] at continued
        cases continued
        exact Or.inr (loop.mem_states_self next)
      · exact Or.inr (ih later)

/-- A run ends where it ends from each of its states. -/
theorem run_of_mem_states {start : State} (member : state ∈ loop.states start) :
    loop.run state = loop.run start := by
  induction start using loop.induction with
  | left start ended =>
      rw [states_of_none ended, List.mem_singleton] at member
      rw [member]
  | continued start second result ih =>
      rw [states_of_some result, List.mem_cons] at member
      rcases member with same | later
      · rw [same]
      · rw [run_of_some result]
        exact ih later

/-- If every iteration appends what it emits to an output, the output of a run is what
all its states emit. -/
theorem run_emitted {Output Event : Type} {output : State → Output}
    {append : Output → Event → Output} {emit : State → List Event}
    (step : ∀ state next, loop.body state = some next →
      output next = (emit state).foldl append (output state))
    (silent : ∀ state, loop.body state = none → emit state = []) (state : State) :
    output (loop.run state) = ((loop.states state).flatMap emit).foldl append (output state) := by
  induction state using loop.induction with
  | left state ended =>
      rw [run_of_none ended, states_of_none ended, List.flatMap_singleton, silent state ended,
        List.foldl_nil]
  | continued state next result ih =>
      rw [run_of_some result, states_of_some result, List.flatMap_cons, List.foldl_append,
        ← step state next result]
      exact ih

/-! ## Loops with a counter -/

section Counter

variable {Counter : Type} {value : Counter → Nat} {next : Counter → Counter} {bound : Nat}

/-- `for (; counter < bound; counter++)` around a body that does not change the counter.
`counts` says that the counter does not overflow below the bound. -/
def counted (value : Counter → Nat) (next : Counter → Counter) (bound : Nat)
    (counts : ∀ counter, value counter < bound → value (next counter) = value counter + 1)
    (body : Counter → State → State) : Loop (Counter × State) where
  body := fun state =>
    if value state.1 < bound then some (next state.1, body state.1 state.2) else none
  measure := fun state => bound - value state.1
  decreases := by
    intro state later continued
    split at continued
    next below =>
      cases continued
      have counted := counts state.1 below
      simp only
      omega
    next => cases continued

/-- An invariant over the number of iterations holds with all of them when a loop that
starts at `numeral 0` is left. -/
theorem counted_invariant
    {counts : ∀ counter, value counter < bound → value (next counter) = value counter + 1}
    {body : Counter → State → State} (numeral : Nat → Counter)
    (numeral_value : ∀ index ≤ bound, value (numeral index) = index)
    (numeral_next : ∀ index < bound, next (numeral index) = numeral (index + 1))
    (property : Nat → State → Prop) (initially : property 0 state)
    (kept : ∀ index < bound, ∀ state, property index state →
      property (index + 1) (body (numeral index) state)) :
    property bound ((counted value next bound counts body).run (numeral 0, state)).2 := by
  have remaining : ∀ left index state, index + left = bound → property index state →
      property bound ((counted value next bound counts body).run (numeral index, state)).2 := by
    intro left
    induction left with
    | zero =>
        intro index state total holds
        have finished : (counted value next bound counts body).body (numeral index, state) =
            none := by
          simp only [counted]
          rw [if_neg]
          rw [numeral_value index (by omega)]
          omega
        have last : index = bound := by omega
        rw [run_of_none finished, ← last]
        exact holds
    | succ left ih =>
        intro index state total holds
        have continued : (counted value next bound counts body).body (numeral index, state) =
            some (numeral (index + 1), body (numeral index) state) := by
          simp only [counted]
          rw [if_pos, numeral_next index (by omega)]
          rw [numeral_value index (by omega)]
          omega
        rw [run_of_some continued]
        exact ih (index + 1) _ (by omega) (kept index (by omega) state holds)
  exact remaining bound 0 state (Nat.zero_add bound) initially

end Counter

/-- A loop with a 16-bit counter. -/
def countedUInt16 (bound : Nat) (small : bound < 2 ^ 16) (body : UInt16 → State → State) :
    Loop (UInt16 × State) :=
  counted UInt16.toNat (· + 1) bound (by
    intro counter below
    rw [UInt16.toNat_add, UInt16.toNat_one]
    omega) body

theorem countedUInt16_invariant {bound : Nat} {small : bound < 2 ^ 16}
    {body : UInt16 → State → State} (property : Nat → State → Prop)
    (initially : property 0 state)
    (kept : ∀ index < bound, ∀ state, property index state →
      property (index + 1) (body (UInt16.ofNat index) state)) :
    property bound ((countedUInt16 bound small body).run (0, state)).2 := by
  refine counted_invariant UInt16.ofNat ?_ ?_ property initially kept
  · intro index inside
    exact UInt16.toNat_ofNat_of_lt' (Nat.lt_of_le_of_lt inside small)
  · intro index _
    exact (UInt16.ofNat_add index 1).symm

/-! ## Ranges from one -/

/-- `for index = 1:count`. -/
def forRange (count : Nat) (body : Nat → State → State) (state : State) : State :=
  (List.range' 1 count).foldl (fun current index => body index current) state

theorem forRange_invariant {count : Nat} {body : Nat → State → State}
    (property : Nat → State → Prop) (initially : property 0 state)
    (kept : ∀ index < count, ∀ state, property index state →
      property (index + 1) (body (index + 1) state)) :
    property count (forRange count body state) := by
  induction count with
  | zero => exact initially
  | succ count ih =>
      have before := ih fun index below => kept index (Nat.lt_succ_of_lt below)
      rw [forRange, List.range'_1_concat, List.foldl_append, Nat.add_comm 1 count]
      exact kept count (Nat.lt_succ_self count) _ before

/-! ## Bodies without a measure -/

/-- The state after a number of iterations, unless the loop is left before. -/
def after (body : State → Option State) (start : State) : Nat → Option State
  | 0 => some start
  | count + 1 => (after body start count).bind body

/-- The loop is left after exactly the given number of iterations. -/
def LeavesAfter (body : State → Option State) (start : State) (count : Nat) : Prop :=
  ∃ last, after body start count = some last ∧ body last = none

section After

variable {body : State → Option State} {start : State}

/-- While an invariant says that the loop goes on, it does. -/
theorem after_invariant {bound : Nat} {property : Nat → State → Prop}
    (initially : property 0 start)
    (kept : ∀ count < bound, ∀ state, property count state →
      ∃ next, body state = some next ∧ property (count + 1) next) :
    ∀ count ≤ bound, ∃ state, after body start count = some state ∧ property count state := by
  intro count
  induction count with
  | zero =>
      intro _
      exact ⟨start, rfl, initially⟩
  | succ count ih =>
      intro inside
      rcases ih (by omega) with ⟨state, reached, holds⟩
      rcases kept count (by omega) state holds with ⟨next, continued, nextHolds⟩
      refine ⟨next, ?_, nextHolds⟩
      rw [after, reached, Option.bind_some, continued]

/-- The first iteration taken apart. -/
theorem after_succ (body : State → Option State) (start : State) (count : Nat) :
    after body start (count + 1) = (body start).bind fun next => after body next count := by
  induction count with
  | zero =>
      rw [after, after, Option.bind_some]
      cases body start <;> rfl
  | succ count ih =>
      rw [after, ih, Option.bind_assoc]
      rfl

end After

end Loop

end ECam.Library
