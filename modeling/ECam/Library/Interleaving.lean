import Mathlib.Tactic

/-!
# Interleavings of atomic steps

A pool of processes shares one state.  A step picks any process of the pool and
lets it take one atomic step, which may be refused.  `Interleaved` relates the
configurations that any scheduler can reach; a property of configurations that
every single step keeps holds in all of them.
-/

namespace ECam.Library

variable {State Process : Type}

/-- Configurations reached from `start` by letting processes of the pool take steps
in any order.  The pool keeps its order, so a process can be followed by its
position. -/
inductive Interleaved (step : Process → State → Option (Process × State))
    (start : State × List Process) : State × List Process → Prop where
  | refl : Interleaved step start start
  | step {state next : State} {left right : List Process} {process after : Process} :
      Interleaved step start (state, left ++ process :: right) →
      step process state = some (after, next) →
      Interleaved step start (next, left ++ after :: right)

variable {step : Process → State → Option (Process × State)}

/-- A property kept by every step of every process holds in all configurations. -/
theorem Interleaved.invariant {property : State → List Process → Prop}
    (kept : ∀ (state next : State) (left right : List Process) (process after : Process),
      property state (left ++ process :: right) → step process state = some (after, next) →
      property next (left ++ after :: right))
    {state : State} {pool : List Process} (initially : property state pool)
    {final : State × List Process} (run : Interleaved step (state, pool) final) :
    property final.1 final.2 := by
  induction run with
  | refl => exact initially
  | step previous taken ih => exact kept _ _ _ _ _ _ ih taken

theorem Interleaved.trans {start middle final : State × List Process}
    (first : Interleaved step start middle) (second : Interleaved step middle final) :
    Interleaved step start final := by
  induction second with
  | refl => exact first
  | step previous taken ih => exact ih.step taken

/-- One step as a run. -/
theorem Interleaved.single {state next : State} {left right : List Process}
    {process after : Process} (taken : step process state = some (after, next)) :
    Interleaved step (state, left ++ process :: right) (next, left ++ after :: right) :=
  Interleaved.refl.step taken

end ECam.Library
