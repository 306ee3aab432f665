import Mathlib.Tactic

/-!
# Linearization

Requests are handled at the same time and share one state.  The handling of a request takes
some steps that change nothing, and then one step that answers; afterwards it does nothing.
If every answering step does what a sequential specification allows, then every run has the
answers and the effect of a sequential run.  The sequential order is the one of the
answering steps, so a request that was answered before another one was received comes first.
-/

namespace ECam.Library

variable {State Abstract Request Stage Answer : Type}

/-- How requests are handled: the stage in which the handling of a request starts, one step of
it, and the answer of a stage in which the handling has ended. -/
structure Handler (State Request Stage Answer : Type) where
  first : Request → Stage
  next : Stage → State → Stage × State
  answer : Stage → Option Answer

namespace Handler

variable (handler : Handler State Request Stage Answer)

/-- The handling with a number takes a step, if it has not ended. -/
def pick (config : State × List Stage) (number : Nat) : State × List Stage :=
  match config.2[number]? with
  | none => config
  | some stage =>
      match handler.answer stage with
      | some _ => config
      | none =>
          ((handler.next stage config.1).2, config.2.set number (handler.next stage config.1).1)

/-- The requests are handled with the steps of a schedule. -/
def run (requests : List Request) (state : State) (schedule : List Nat) : State × List Stage :=
  schedule.foldl handler.pick (state, requests.map handler.first)

/-- The answer to the request with a number. -/
def answered (config : State × List Stage) (number : Nat) : Option Answer :=
  config.2[number]?.bind handler.answer

/-- The answer that a step gives, if it is the last one of its request. -/
def stepAnswer (config : State × List Stage) (number : Nat) : Option Answer :=
  if (handler.answered config number).isSome then none
  else handler.answered (handler.pick config number) number

/-- The answers that the steps of a schedule give, in the order of these steps. -/
def answersFrom (config : State × List Stage) : List Nat → List (Nat × Answer)
  | [] => []
  | number :: schedule =>
      ((handler.stepAnswer config number).map fun answer => (number, answer)).toList ++
        answersFrom (handler.pick config number) schedule

/-- The requests in the order of their last steps, with their answers. -/
def answers (requests : List Request) (state : State) (schedule : List Nat) :
    List (Nat × Answer) :=
  handler.answersFrom (state, requests.map handler.first) schedule

variable {handler : Handler State Request Stage Answer} {config : State × List Stage}
  {requests : List Request} {state : State} {number : Nat}

theorem run_snoc (schedule : List Nat) :
    handler.run requests state (schedule ++ [number]) =
      handler.pick (handler.run requests state schedule) number := by
  rw [run, List.foldl_append]
  rfl

theorem run_cons_append (first between : List Nat) :
    handler.run requests state (first ++ number :: between) =
      between.foldl handler.pick (handler.pick (handler.run requests state first) number) := by
  rw [run, List.foldl_append]
  rfl

theorem answersFrom_snoc (schedule : List Nat) :
    handler.answersFrom config (schedule ++ [number]) = handler.answersFrom config schedule ++
      ((handler.stepAnswer (schedule.foldl handler.pick config) number).map
        fun answer => (number, answer)).toList := by
  induction schedule generalizing config with
  | nil => exact List.append_nil _
  | cons earlier schedule ih =>
      rw [List.cons_append, answersFrom, answersFrom, ih, List.append_assoc]
      rfl

/-- The handling of a request goes on. -/
theorem pick_running {stage : Stage} (stands : config.2[number]? = some stage)
    (running : handler.answer stage = none) :
    handler.pick config number = ((handler.next stage config.1).2,
        config.2.set number (handler.next stage config.1).1) ∧
      handler.stepAnswer config number = handler.answer (handler.next stage config.1).1 := by
  have moved : handler.pick config number = ((handler.next stage config.1).2,
      config.2.set number (handler.next stage config.1).1) := by
    simp only [pick, stands, running]
  refine ⟨moved, ?_⟩
  rcases List.getElem?_eq_some_iff.mp stands with ⟨inside, -⟩
  rw [stepAnswer, moved, answered, answered, stands, Option.bind_some, running]
  simp [inside]

/-- A step does nothing, or the handling of its request goes on. -/
theorem pick_cases (config : State × List Stage) (number : Nat) :
    handler.pick config number = config ∧ handler.stepAnswer config number = none ∨
      ∃ stage, config.2[number]? = some stage ∧ handler.answer stage = none ∧
        handler.pick config number = ((handler.next stage config.1).2,
          config.2.set number (handler.next stage config.1).1) ∧
        handler.stepAnswer config number = handler.answer (handler.next stage config.1).1 := by
  cases stands : config.2[number]? with
  | none =>
      have same : handler.pick config number = config := by rw [pick, stands]
      refine Or.inl ⟨same, ?_⟩
      rw [stepAnswer, same, answered, stands]
      rfl
  | some stage =>
      cases ended : handler.answer stage with
      | some answer =>
          have same : handler.pick config number = config := by simp only [pick, stands, ended]
          refine Or.inl ⟨same, ?_⟩
          rw [stepAnswer, answered, stands, Option.bind_some, ended]
          rfl
      | none => exact Or.inr ⟨stage, rfl, ended, pick_running stands ended⟩

theorem stepAnswer_eq_some {answer : Answer}
    (given : handler.stepAnswer config number = some answer) :
    handler.answered config number = none ∧
      handler.answered (handler.pick config number) number = some answer := by
  rw [stepAnswer] at given
  split at given
  next => cases given
  next running => exact ⟨Option.not_isSome_iff_eq_none.mp running, given⟩

/-- An answer stays. -/
theorem answered_pick {answer : Answer} (given : handler.answered config number = some answer)
    (other : Nat) : handler.answered (handler.pick config other) number = some answer := by
  rcases handler.pick_cases config other with ⟨same, -⟩ | ⟨stage, stands, running, moved, -⟩
  · rw [same]
    exact given
  · have different : other ≠ number := by
      rintro rfl
      rw [answered, stands, Option.bind_some, running] at given
      cases given
    rw [moved, answered, List.getElem?_set_ne different]
    exact given

theorem answered_foldl {answer : Answer} (given : handler.answered config number = some answer)
    (schedule : List Nat) :
    handler.answered (schedule.foldl handler.pick config) number = some answer := by
  induction schedule generalizing config with
  | nil => exact given
  | cons other schedule ih => exact ih (answered_pick given other)

/-- A request that is answered later is another one. -/
theorem answers_once {before rest : List Nat} {other : Nat} {first second : Answer}
    (earlier : handler.stepAnswer (handler.run requests state before) other = some first)
    (later : handler.stepAnswer (handler.run requests state (before ++ other :: rest)) number =
      some second) : other ≠ number := by
  rintro rfl
  have kept := answered_foldl (stepAnswer_eq_some earlier).2 rest
  rw [← run_cons_append, (stepAnswer_eq_some later).1] at kept
  cases kept

/-- A request is in the stage in which it has started, or a step has led to its stage. -/
theorem entered {schedule : List Nat} {stage : Stage}
    (stands : (handler.run requests state schedule).2[number]? = some stage) :
    (∃ request, requests[number]? = some request ∧ stage = handler.first request) ∨
      ∃ earlier later previous, schedule = earlier ++ number :: later ∧
        (handler.run requests state earlier).2[number]? = some previous ∧
        handler.answer previous = none ∧
        (handler.next previous (handler.run requests state earlier).1).1 = stage := by
  induction schedule using List.reverseRecOn with
  | nil =>
      rw [run, List.foldl_nil, List.getElem?_map, Option.map_eq_some_iff] at stands
      rcases stands with ⟨request, received, rfl⟩
      exact Or.inl ⟨request, received, rfl⟩
  | append_singleton schedule other ih =>
      have earlier (before : (handler.run requests state schedule).2[number]? = some stage) :
          (∃ request, requests[number]? = some request ∧ stage = handler.first request) ∨
            ∃ earlier later previous, schedule ++ [other] = earlier ++ number :: later ∧
              (handler.run requests state earlier).2[number]? = some previous ∧
              handler.answer previous = none ∧
              (handler.next previous (handler.run requests state earlier).1).1 = stage := by
        rcases ih before with first | ⟨front, later, previous, rfl, facts⟩
        · exact Or.inl first
        · refine Or.inr ⟨front, later ++ [other], previous, ?_, facts⟩
          rw [List.append_assoc, List.cons_append]
      rw [run_snoc] at stands
      rcases handler.pick_cases (handler.run requests state schedule) other with
        ⟨same, -⟩ | ⟨previous, stood, running, moved, -⟩
      · rw [same] at stands
        exact earlier stands
      · rw [moved, List.getElem?_set] at stands
        split at stands
        next here =>
          split at stands
          next =>
            cases stands
            cases here
            exact Or.inr ⟨schedule, [], previous, rfl, stood, running, rfl⟩
          next => cases stands
        next => exact earlier stands

end Handler

/-- One request after the other is answered as the specification allows. -/
def Follows (spec : Abstract → Request → Answer → Abstract → Prop) (requests : List Request) :
    Abstract → List (Nat × Answer) → Abstract → Prop
  | before, [], after => before = after
  | before, (number, answer) :: order, after =>
      ∃ request middle, requests[number]? = some request ∧ spec before request answer middle ∧
        Follows spec requests middle order after

variable {spec : Abstract → Request → Answer → Abstract → Prop} {requests : List Request}

/-- One more request is answered. -/
theorem Follows.snoc {before middle after : Abstract} {order : List (Nat × Answer)}
    {number : Nat} {answer : Answer} {request : Request}
    (follows : Follows spec requests before order middle)
    (received : requests[number]? = some request) (allowed : spec middle request answer after) :
    Follows spec requests before (order ++ [(number, answer)]) after := by
  induction order generalizing before with
  | nil =>
      cases follows
      exact ⟨request, after, received, allowed, rfl⟩
  | cons entry order ih =>
      rcases follows with ⟨other, next, known, first, rest⟩
      exact ⟨other, next, known, first, ih rest⟩

/-- Every answering step does what the specification allows, and the other steps change
nothing.  A stage that has not ended belongs to its request. -/
structure Linearizes (handler : Handler State Request Stage Answer) (view : State → Abstract)
    (spec : Abstract → Request → Answer → Abstract → Prop)
    (belongs : Request → Stage → Prop) : Prop where
  starts : ∀ request, belongs request (handler.first request)
  unanswered : ∀ request, handler.answer (handler.first request) = none
  silent : ∀ request stage state, belongs request stage → handler.answer stage = none →
    handler.answer (handler.next stage state).1 = none →
      belongs request (handler.next stage state).1 ∧ view (handler.next stage state).2 = view state
  answers : ∀ request stage state answer, belongs request stage → handler.answer stage = none →
    handler.answer (handler.next stage state).1 = some answer →
      spec (view state) request answer (view (handler.next stage state).2)

section Runs

variable {handler : Handler State Request Stage Answer} {view : State → Abstract}
  {belongs : Request → Stage → Prop}

/-- What holds after the steps of a schedule: the answers so far are those of a sequential
run. -/
structure Ordered (handler : Handler State Request Stage Answer) (view : State → Abstract)
    (spec : Abstract → Request → Answer → Abstract → Prop) (belongs : Request → Stage → Prop)
    (requests : List Request) (start : Abstract) (config : State × List Stage)
    (order : List (Nat × Answer)) : Prop where
  nodup : (order.map Prod.fst).Nodup
  follows : Follows spec requests start order (view config.1)
  mem_iff : ∀ number answer, (number, answer) ∈ order ↔
    handler.answered config number = some answer
  pending : ∀ (number : Nat) (stage : Stage), config.2[number]? = some stage →
    handler.answer stage = none →
      ∃ request, requests[number]? = some request ∧ belongs request stage

theorem ordered_initially (linearizes : Linearizes handler view spec belongs)
    (requests : List Request) (state : State) :
    Ordered handler view spec belongs requests (view state)
      (state, requests.map handler.first) [] where
  nodup := List.nodup_nil
  follows := rfl
  mem_iff number answer := by
    have silent : handler.answered (state, requests.map handler.first) number = none := by
      rw [Handler.answered, List.getElem?_map]
      cases requests[number]? with
      | none => rfl
      | some request => exact linearizes.unanswered request
    rw [silent]
    simp
  pending number stage stands _ := by
    rw [List.getElem?_map, Option.map_eq_some_iff] at stands
    rcases stands with ⟨request, received, rfl⟩
    exact ⟨request, received, linearizes.starts request⟩

/-- The answers after a stage was replaced. -/
theorem answered_set {state next : State} {stages : List Stage} {number : Nat} {stage after : Stage}
    (stands : stages[number]? = some stage) (other : Nat) :
    handler.answered (next, stages.set number after) other =
      if number = other then handler.answer after else handler.answered (state, stages) other := by
  rcases List.getElem?_eq_some_iff.mp stands with ⟨inside, -⟩
  simp only [Handler.answered, List.getElem?_set, inside, if_true]
  split <;> rfl

theorem Ordered.silent {start : Abstract} {state next : State}
    {stages : List Stage} {order : List (Nat × Answer)} {number : Nat} {stage after : Stage}
    {request : Request}
    (ordered : Ordered handler view spec belongs requests start (state, stages) order)
    (stands : stages[number]? = some stage) (running : handler.answer stage = none)
    (received : requests[number]? = some request) (keeps : belongs request after)
    (still : handler.answer after = none) (same : view next = view state) :
    Ordered handler view spec belongs requests start (next, stages.set number after) order where
  nodup := ordered.nodup
  follows := by
    rw [same]
    exact ordered.follows
  mem_iff other answer := by
    rw [ordered.mem_iff, @answered_set _ _ _ _ handler state _ _ _ _ _ stands]
    split
    next here =>
      have before : handler.answered (state, stages) other = none := by
        rw [Handler.answered, ← here, stands]
        exact running
      rw [before, still]
    next => rfl
  pending other stage' stands' running' := by
    rw [List.getElem?_set] at stands'
    split at stands'
    next here =>
      split at stands'
      next =>
        cases stands'
        rw [← here]
        exact ⟨request, received, keeps⟩
      next => cases stands'
    next => exact ordered.pending other stage' stands' running'

theorem Ordered.answers {start : Abstract} {state next : State}
    {stages : List Stage} {order : List (Nat × Answer)} {number : Nat} {stage after : Stage}
    {request : Request} {answer : Answer}
    (ordered : Ordered handler view spec belongs requests start (state, stages) order)
    (stands : stages[number]? = some stage) (running : handler.answer stage = none)
    (received : requests[number]? = some request) (ended : handler.answer after = some answer)
    (allowed : spec (view state) request answer (view next)) :
    Ordered handler view spec belongs requests start (next, stages.set number after)
      (order ++ [(number, answer)]) := by
  have before : handler.answered (state, stages) number = none := by
    rw [Handler.answered, stands]
    exact running
  have fresh : ∀ given, (number, given) ∉ order := by
    intro given mem
    have known := (ordered.mem_iff number given).mp mem
    rw [before] at known
    cases known
  refine ⟨?_, ordered.follows.snoc received allowed, fun other given => ?_,
    fun other stage' stands' running' => ?_⟩
  · rw [List.map_append, List.nodup_append]
    refine ⟨ordered.nodup, List.nodup_singleton _, fun first mem last lastMem => ?_⟩
    rcases List.mem_map.mp mem with ⟨⟨earlier, given⟩, entryMem, rfl⟩
    rw [List.mem_singleton.mp lastMem]
    rintro rfl
    exact fresh given entryMem
  · rw [@answered_set _ _ _ _ handler state _ _ _ _ _ stands, List.mem_append, ordered.mem_iff,
      List.mem_singleton]
    split
    next here =>
      rw [← here, before, ended]
      simp [eq_comm]
    next different =>
      constructor
      · rintro (known | same)
        · exact known
        · cases same
          exact absurd rfl different
      · exact Or.inl
  · rw [List.getElem?_set] at stands'
    split at stands'
    next here =>
      split at stands'
      next =>
        cases stands'
        rw [ended] at running'
        cases running'
      next => cases stands'
    next => exact ordered.pending other stage' stands' running'

/-- One step of a run. -/
theorem Ordered.pick (linearizes : Linearizes handler view spec belongs) {start : Abstract}
    {config : State × List Stage} {order : List (Nat × Answer)}
    (ordered : Ordered handler view spec belongs requests start config order) (number : Nat) :
    Ordered handler view spec belongs requests start (handler.pick config number)
      (order ++ ((handler.stepAnswer config number).map fun answer => (number, answer)).toList) := by
  rcases config with ⟨state, stages⟩
  rcases handler.pick_cases (state, stages) number with
    ⟨same, silent⟩ | ⟨stage, stands, running, moved, given⟩
  · rw [same, silent, Option.map_none, Option.toList_none, List.append_nil]
    exact ordered
  · rcases ordered.pending number stage stands running with ⟨request, received, here⟩
    rw [moved, given]
    cases ended : handler.answer (handler.next stage state).1 with
    | none =>
        rcases linearizes.silent request stage state here running ended with ⟨keeps, same⟩
        rw [Option.map_none, Option.toList_none, List.append_nil]
        exact ordered.silent stands running received keeps ended same
    | some answer =>
        exact ordered.answers stands running received ended
          (linearizes.answers request stage state answer here running ended)

/-- Every run has the answers and the effect of a sequential run of the answered requests, in
the order of their last steps. -/
theorem Linearizes.run (linearizes : Linearizes handler view spec belongs)
    (requests : List Request) (state : State) (schedule : List Nat) :
    let order := handler.answers requests state schedule
    (order.map Prod.fst).Nodup ∧
      Follows spec requests (view state) order (view (handler.run requests state schedule).1) ∧
      ∀ number answer, (number, answer) ∈ order ↔
        handler.answered (handler.run requests state schedule) number = some answer := by
  have ordered : Ordered handler view spec belongs requests (view state)
      (handler.run requests state schedule) (handler.answers requests state schedule) := by
    induction schedule using List.reverseRecOn with
    | nil => exact ordered_initially linearizes requests state
    | append_singleton schedule number ih =>
        rw [Handler.run_snoc, Handler.answers, Handler.answersFrom_snoc]
        exact ih.pick linearizes number
  exact ⟨ordered.nodup, ordered.follows, ordered.mem_iff⟩

end Runs

end ECam.Library
