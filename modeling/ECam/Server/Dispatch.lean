import ECam.Server.TaskQueue

/-!
# Dispatching a queued route

A robot works through its queue by polling `NextTask` and reporting the answer as
its current task.  Between its requests the server handles requests of other
robots.  This module shows that the robot receives the tasks of one queued route in
order and each once, for every interleaving and every length of the route.
-/

namespace ECam.Server

open ECam.Library

variable {getPathList : Int → Int → Except Exn (NetList Int)}

/-! ## The answer of NextTask within a route -/

/-- The rows of a robot are the numbered tasks of one route. -/
structure QueuedRoute (db : DbContext) (robotId : Int) (route : List TaskModel) : Prop where
  queue : db.tasksOf robotId = route
  numbered : ∀ (index : Nat) (task : TaskModel), route[index]? = some task →
    task.orderNumber = some (index : Int)
  length_le : route.length ≤ 2 ^ 31

theorem QueuedRoute.mem_iff {db : DbContext} {robotId : Int} {route : List TaskModel}
    (queued : QueuedRoute db robotId route) {task : TaskModel} :
    task ∈ route ↔ task ∈ db.tasks.rows ∧ task.robotID = robotId := by
  rw [← queued.queue, DbContext.mem_tasksOf]

/-- Looking up an order number in a queued route is indexing. -/
theorem QueuedRoute.filter_number {db : DbContext} {robotId : Int} {route : List TaskModel}
    (queued : QueuedRoute db robotId route) (index : Nat) :
    db.tasks.rows.filter (fun task => task.orderNumber == some (index : Int) &&
      task.robotID == robotId) = route[index]?.toList := by
  cases selected : route[index]? with
  | none =>
      apply List.filter_eq_nil_iff.mpr
      intro task member accepted
      simp only [Bool.and_eq_true, beq_iff_eq] at accepted
      have inRoute := queued.mem_iff.mpr ⟨member, accepted.2⟩
      rcases List.mem_iff_getElem?.mp inRoute with ⟨other, found⟩
      have number := (queued.numbered other task found).symm.trans accepted.1
      have sameIndex : other = index := by simpa using number
      rw [sameIndex, selected] at found
      cases found
  | some task =>
      have stored := queued.mem_iff.mp (List.mem_of_getElem? selected)
      have number := queued.numbered index task selected
      apply filter_eq_singleton db.tasks.rows_nodup stored.1
      intro other member
      simp only [Bool.and_eq_true, beq_iff_eq]
      constructor
      · rintro ⟨sameNumber, owner⟩
        rcases List.mem_iff_getElem?.mp (queued.mem_iff.mpr ⟨member, owner⟩) with
          ⟨position, found⟩
        have numbers := (queued.numbered position other found).symm.trans sameNumber
        have samePosition : position = index := by simpa using numbers
        rw [samePosition, selected] at found
        exact (Option.some.inj found).symm
      · intro equal
        rw [equal]
        exact ⟨number, stored.2⟩

/-- With the task at one position of the route as current task, `NextTask` answers
the task at the next position, or none at the end. -/
theorem QueuedRoute.nextTask_eq {db : DbContext} {robotId : Int} {route : List TaskModel}
    (queued : QueuedRoute db robotId route) {status : CurrentStatusModel}
    {current : TaskModel} {position : Nat} (known : db.statusOf robotId = some status)
    (selected : route[position]? = some current)
    (reported : status.taskID = some current.taskID) :
    nextTask robotId db = .ok (.value route[position + 1]?) db := by
  have inBounds := (List.getElem?_eq_some_iff.mp selected).1
  have bound := queued.length_le
  -- the position fits an `int`; only its successor may wrap, past the end of the route
  have successorRows : db.tasks.rows.filter
      (fun task => task.orderNumber == nextOrderNumber current.orderNumber &&
        task.robotID == robotId) = route[position + 1]?.toList := by
    rw [queued.numbered position current selected]
    by_cases fits : position + 1 < 2 ^ 31
    · have next : nextOrderNumber (some (position : Int)) =
          some ((position + 1 : Nat) : Int) := by
        simp only [nextOrderNumber, Option.map_some, Option.some.injEq]
        rw [toInt32_eq_self] <;> push_cast <;> omega
      rw [next]
      exact queued.filter_number (position + 1)
    · have past : route[position + 1]? = none := List.getElem?_eq_none_iff.mpr (by omega)
      have wrapped : nextOrderNumber (some (position : Int)) = some (-2 ^ 31) := by
        have last : position = 2 ^ 31 - 1 := by omega
        rw [last]
        decide
      rw [wrapped, past]
      apply List.filter_eq_nil_iff.mpr
      intro task member accepted
      simp only [Bool.and_eq_true, beq_iff_eq] at accepted
      rcases List.mem_iff_getElem?.mp (queued.mem_iff.mpr ⟨member, accepted.2⟩) with
        ⟨index, found⟩
      have number := (queued.numbered index task found).symm.trans accepted.1
      simp only [Option.some.injEq] at number
      omega
  have queuedCurrent : current ∈ db.tasksOf robotId := by
    rw [queued.queue]
    exact List.mem_of_getElem? selected
  exact nextTask_current known queuedCurrent reported successorRows

/-! ## The cycle of a robot -/

/-- A robot in its cycle: the database it talks to, the task it has received and
not yet reported, and all answers of `NextTask` so far. -/
structure CycleState where
  db : DbContext
  held : Option TaskModel
  answers : List (Option TaskModel)

/-- What happens next: a request of another robot, or the robot's own turn, with
what it sees when the turn is a report. -/
inductive CycleEvent where
  | other (request : Request)
  | turn (qrIdInFront : Option Int) (qrDistanceInFront : Option String)

/-- The robot's turn: it reports the task it holds, or polls for the next one.
There is no next state when the server does not answer with a task or null. -/
def takeTurn (robotId : Int) (qrIdInFront : Option Int) (qrDistanceInFront : Option String)
    (state : CycleState) : Option CycleState :=
  match state.held with
  | none =>
      match nextTask robotId state.db with
      | .ok (.value task) db => some ⟨db, task, state.answers ++ [task]⟩
      | _ => none
  | some task =>
      match updateCurrentStatus robotId
        ⟨robotId, some task.taskID, qrIdInFront, qrDistanceInFront⟩ state.db with
      | .ok _ db => some ⟨db, none, state.answers⟩
      | .error _ _ => none

/-- A run of the robot's cycle interleaved with requests of other robots. -/
def runCycle (getPathList : Int → Int → Except Exn (NetList Int)) (robotId : Int) :
    CycleState → List CycleEvent → Option CycleState
  | state, [] => some state
  | state, .other request :: events =>
      runCycle getPathList robotId
        { state with db := serve getPathList state.db request } events
  | state, .turn qrIdInFront qrDistanceInFront :: events =>
      match takeTurn robotId qrIdInFront qrDistanceInFront state with
      | some next => runCycle getPathList robotId next events
      | none => none

/-- Number of the robot's own turns in a run. -/
def turnCount (events : List CycleEvent) : Nat :=
  events.countP fun event =>
    match event with
    | .turn _ _ => true
    | .other _ => false

/-- Invariant of the cycle after some number of turns.  The current task of the
status row is the last one reported; its position in the route is the number of
answers, less one while a task is held, and at most the last position. -/
structure InCycle (robotId : Int) (route : List TaskModel) (turns : Nat)
    (state : CycleState) : Prop where
  queued : QueuedRoute state.db robotId route
  answered : ∀ (index : Nat), index < state.answers.length →
    state.answers[index]? = some route[index + 1]?
  current : ∃ (status : CurrentStatusModel) (task : TaskModel) (position : Nat),
    state.db.statusOf robotId = some status ∧ route[position]? = some task ∧
    status.taskID = some task.taskID ∧
    match state.held with
    | none => position = min state.answers.length (route.length - 1)
    | some next => state.answers.length = position + 1 ∧ route[position + 1]? = some next
  progress :
    match state.held with
    | none => turns ≤ 2 * state.answers.length
    | some _ => turns + 1 ≤ 2 * state.answers.length

/-- Requests of other robots with their own id in the body spare a robot that has
a status row. -/
theorem Request.CarriesOwnId.spares {robotId : Int} {db : DbContext} {request : Request}
    (own : request.CarriesOwnId) (foreign : request.robotId ≠ robotId)
    (known : db.hasStatus robotId = true) : request.Spares robotId db := by
  refine ⟨foreign, ?_⟩
  cases request with
  | navigationTasks other startWaypointId endWaypointId => trivial
  | nextTask other => trivial
  | updateCurrentStatus other newStatus =>
      have owner : newStatus.robotID = other := own
      refine ⟨by rw [owner]; exact foreign, ?_⟩
      intro _ equal
      rcases Table.hasKey_iff.mp known with ⟨row, member, rowOwner⟩
      have below := db.currentStatuses.keys_lt row member
      omega

/-- A request of another robot keeps the invariant. -/
theorem InCycle.other {robotId : Int} {route : List TaskModel} {turns : Nat}
    {state : CycleState} (inCycle : InCycle robotId route turns state) {request : Request}
    (foreign : request.robotId ≠ robotId) (own : request.CarriesOwnId) :
    InCycle robotId route turns
      { state with db := serve getPathList state.db request } := by
  rcases inCycle.current with ⟨status, task, position, known, selected, reported, place⟩
  have frame : (serve getPathList state.db request).tasksOf robotId =
      state.db.tasksOf robotId ∧
      (serve getPathList state.db request).statusOf robotId = state.db.statusOf robotId :=
    serve_spares (own.spares foreign (DbContext.hasStatus_of_statusOf known))
  refine ⟨⟨?_, inCycle.queued.numbered, inCycle.queued.length_le⟩, inCycle.answered, ?_,
    inCycle.progress⟩
  · exact frame.1.trans inCycle.queued.queue
  · exact ⟨status, task, position, frame.2.trans known, selected, reported, place⟩

/-- A poll keeps the invariant: the answer is the next task of the route. -/
theorem InCycle.poll {robotId : Int} {route : List TaskModel} {turns : Nat}
    {state : CycleState} (inCycle : InCycle robotId route turns state)
    (idle : state.held = none) (qrIdInFront : Option Int)
    (qrDistanceInFront : Option String) :
    ∃ next, takeTurn robotId qrIdInFront qrDistanceInFront state = some next ∧
      InCycle robotId route (turns + 1) next := by
  rcases inCycle.current with ⟨status, task, position, known, selected, reported, place⟩
  have answer := inCycle.queued.nextTask_eq known selected reported
  have progress := inCycle.progress
  simp only [idle] at place progress
  have inBounds := (List.getElem?_eq_some_iff.mp selected).1
  -- past the end of the route the position is the last one and there is no successor
  have successor : route[position + 1]? = route[state.answers.length + 1]? := by
    by_cases within : state.answers.length ≤ route.length - 1
    · rw [place, Nat.min_eq_left within]
    · rw [List.getElem?_eq_none_iff.mpr (by omega), List.getElem?_eq_none_iff.mpr (by omega)]
  refine ⟨⟨state.db, route[position + 1]?, state.answers ++ [route[position + 1]?]⟩, ?_, ?_⟩
  · simp only [takeTurn, idle, answer]
  · refine ⟨inCycle.queued, ?_, ⟨status, task, position, known, selected, reported, ?_⟩, ?_⟩
    · intro index below
      simp only [List.length_append, List.length_cons, List.length_nil] at below
      rw [List.getElem?_append]
      split
      next earlier => exact inCycle.answered index earlier
      next =>
        have last : index = state.answers.length := by omega
        rw [last, Nat.sub_self, List.getElem?_cons_zero, successor]
    · cases next : route[position + 1]? with
      | none =>
          have past := List.getElem?_eq_none_iff.mp next
          simp only [List.length_append, List.length_cons, List.length_nil]
          omega
      | some other =>
          have more := (List.getElem?_eq_some_iff.mp next).1
          simp only [List.length_append, List.length_cons, List.length_nil]
          exact ⟨by omega, trivial⟩
    · cases route[position + 1]? with
      | none =>
          simp only [List.length_append, List.length_cons, List.length_nil]
          omega
      | some other =>
          simp only [List.length_append, List.length_cons, List.length_nil]
          omega

/-- A report keeps the invariant: the held task becomes the current one, and the
queue is untouched. -/
theorem InCycle.report {robotId : Int} {route : List TaskModel} {turns : Nat}
    {state : CycleState} (inCycle : InCycle robotId route turns state) {task : TaskModel}
    (holds : state.held = some task) (qrIdInFront : Option Int)
    (qrDistanceInFront : Option String) :
    ∃ next, takeTurn robotId qrIdInFront qrDistanceInFront state = some next ∧
      InCycle robotId route (turns + 1) next := by
  rcases inCycle.current with ⟨status, current, position, known, selected, reported, place⟩
  have progress := inCycle.progress
  simp only [holds] at place progress
  let body : CurrentStatusModel :=
    ⟨robotId, some task.taskID, qrIdInFront, qrDistanceInFront⟩
  have ownBody : body.robotID = robotId := rfl
  have busy : body.taskID ≠ none := Option.some_ne_none _
  rcases updateCurrentStatus_task (DbContext.hasStatus_of_statusOf known) ownBody busy with
    ⟨saved, result, tasks, stored⟩
  refine ⟨⟨saved, none, state.answers⟩, ?_, ?_⟩
  · simp only [takeTurn, holds]
    rw [result]
  · refine ⟨⟨?_, inCycle.queued.numbered, inCycle.queued.length_le⟩, inCycle.answered,
      ⟨body, task, position + 1, stored, place.2, rfl, ?_⟩, ?_⟩
    · rw [DbContext.tasksOf, tasks]
      exact inCycle.queued.queue
    · have inBounds := (List.getElem?_eq_some_iff.mp place.2).1
      simp only
      omega
    · simp only
      omega

variable (getPathList) in
/-- Every run of the cycle goes through and keeps the invariant. -/
theorem runCycle_inCycle {robotId : Int} {route : List TaskModel} {turns : Nat}
    {state : CycleState} (inCycle : InCycle robotId route turns state)
    (events : List CycleEvent)
    (foreign : ∀ request, CycleEvent.other request ∈ events →
      request.robotId ≠ robotId ∧ request.CarriesOwnId) :
    ∃ final, runCycle getPathList robotId state events = some final ∧
      InCycle robotId route (turns + turnCount events) final := by
  induction events generalizing state turns with
  | nil => exact ⟨state, rfl, inCycle⟩
  | cons event events ih =>
      have later : ∀ request, CycleEvent.other request ∈ events →
          request.robotId ≠ robotId ∧ request.CarriesOwnId :=
        fun request member => foreign request (by simp [member])
      cases event with
      | other request =>
          have here := foreign request (by simp)
          rcases ih (inCycle.other here.1 here.2) later with ⟨final, run, result⟩
          refine ⟨final, run, ?_⟩
          simpa [turnCount] using result
      | turn qrIdInFront qrDistanceInFront =>
          have step : ∃ next,
              takeTurn robotId qrIdInFront qrDistanceInFront state = some next ∧
                InCycle robotId route (turns + 1) next := by
            cases held : state.held with
            | none => exact inCycle.poll held qrIdInFront qrDistanceInFront
            | some task => exact inCycle.report held qrIdInFront qrDistanceInFront
          rcases step with ⟨next, taken, kept⟩
          rcases ih kept later with ⟨final, run, result⟩
          refine ⟨final, ?_, ?_⟩
          · simp only [runCycle, taken, run]
          · have count : turnCount (.turn qrIdInFront qrDistanceInFront :: events) =
                turnCount events + 1 := by simp [turnCount]
            rw [count, ← Nat.add_assoc, Nat.add_right_comm]
            exact result

/-- In-order, exactly-once dispatch.  The rows of the robot are those inserted by
one `NavigationTasks` call and its status names the task with number `0`.  Then in
every run of its cycle, interleaved with requests of other robots, no request of
the robot fails, the answers of `NextTask` are the tasks with numbers `1`, `2`, and
so on, followed by null, the queue stays as it was, and a final idle report removes
exactly the rows of the robot. -/
theorem dispatch_in_order {before after db : DbContext}
    {robotId startWaypointId endWaypointId : Int} {route : List TaskModel}
    {status : CurrentStatusModel}
    (requested : navigationTasks getPathList robotId startWaypointId endWaypointId before =
      .ok .noContent after)
    (inserted : after.tasks.rows = before.tasks.rows ++ route)
    (queue : db.tasksOf robotId = route)
    (known : db.statusOf robotId = some status)
    (first : ∃ task ∈ route, task.orderNumber = some 0 ∧ status.taskID = some task.taskID)
    (events : List CycleEvent)
    (foreign : ∀ request, CycleEvent.other request ∈ events →
      request.robotId ≠ robotId ∧ request.CarriesOwnId) :
    ∃ final, runCycle getPathList robotId ⟨db, none, []⟩ events = some final ∧
      (∀ (index : Nat) (task : TaskModel), route[index]? = some task →
        task.orderNumber = some (index : Int)) ∧
      (∀ (index : Nat), index < final.answers.length →
        final.answers[index]? = some route[index + 1]?) ∧
      turnCount events ≤ 2 * final.answers.length ∧
      final.db.tasksOf robotId = route ∧
      ∀ (qrIdInFront : Option Int) (qrDistanceInFront : Option String), ∃ answer last,
        updateCurrentStatus robotId ⟨robotId, none, qrIdInFront, qrDistanceInFront⟩
            final.db = .ok answer last ∧
          last.tasks.rows =
            final.db.tasks.rows.filter fun task => !(task.robotID == robotId) := by
  have shape : QueuedRoute db robotId route := by
    rcases navigationTasks_cases getPathList robotId startWaypointId endWaypointId before with
      ⟨exception, _, failed⟩ | ⟨newTasks, tasks, _, planned, result, rows, _⟩
    · rw [failed] at requested
      cases requested
    · rw [result, EStateM.Result.ok.injEq] at requested
      rw [← requested.2] at inserted
      have routeEq : route = insertedRows before newTasks :=
        List.append_cancel_left (inserted.symm.trans rows)
      refine ⟨queue, ?_, ?_⟩
      · intro index task selected
        rw [routeEq] at selected
        exact (planned.stored before selected).2.1
      · rw [routeEq, length_insertedRows]
        exact planned.length_le
  have start : InCycle robotId route 0 ⟨db, none, []⟩ := by
    rcases first with ⟨task, member, number, reported⟩
    rcases List.mem_iff_getElem?.mp member with ⟨index, selected⟩
    have numbers := (shape.numbered index task selected).symm.trans number
    have zero : index = 0 := by simpa using numbers
    rw [zero] at selected
    refine ⟨shape, ?_, ⟨status, task, 0, known, selected, reported, ?_⟩, ?_⟩
    · intro index below
      simp at below
    · simp
    · simp
  rcases runCycle_inCycle getPathList start events foreign with
    ⟨final, run, result⟩
  have progress : turnCount events ≤ 2 * final.answers.length := by
    have bound := result.progress
    cases held : final.held <;> simp only [held] at bound <;> omega
  refine ⟨final, run, shape.numbered, result.answered, progress, result.queued.queue, ?_⟩
  intro qrIdInFront qrDistanceInFront
  have ownBody : CurrentStatusModel.robotID
      ⟨robotId, none, qrIdInFront, qrDistanceInFront⟩ = robotId := rfl
  rcases saveStatus_own final.db ownBody with ⟨stored, saved, ok, effect, _⟩
  refine ⟨_, _, updateCurrentStatus_saved ok, ?_⟩
  have idle : afterStatus robotId ⟨robotId, none, qrIdInFront, qrDistanceInFront⟩ saved =
      saved.clearTasks robotId := by simp [afterStatus]
  rw [idle, DbContext.clearTasks_rows, effect.tasks_eq]

/-- Robot `7` has been given a route of three tasks and has reported the first one. -/
def startedContext : DbContext where
  waypoints := connectedContext.waypoints
  currentStatuses := {
    rows := [⟨7, some 1, none, none⟩]
    nextKey := 8
    keys_nodup := by decide
    keys_lt := by decide
    nextKey_pos := by decide }
  tasks := {
    rows := [pairTask 1 0, pairTask 2 1, pairTask 3 2]
    nextKey := 4
    keys_nodup := by decide
    keys_lt := by decide
    nextKey_pos := by decide }

/-- The dispatch theorem at that route, with a route for robot `8` in between. -/
theorem dispatch_in_order_pair :
    ∃ final, runCycle connectedPathfinder.getPath 7 ⟨startedContext, none, []⟩
        [.turn none none, .other (.navigationTasks 8 2 1), .turn none none, .turn none none,
          .turn none none] = some final ∧
      final.db.tasksOf 7 = [pairTask 1 0, pairTask 2 1, pairTask 3 2] := by
  have requested : navigationTasks connectedPathfinder.getPath 7 1 2 connectedContext =
      .ok .noContent ((navigationTasks connectedPathfinder.getPath 7 1 2).after connectedContext) := rfl
  have inserted : ((navigationTasks connectedPathfinder.getPath 7 1 2).after connectedContext).tasks.rows =
      connectedContext.tasks.rows ++ [pairTask 1 0, pairTask 2 1, pairTask 3 2] := rfl
  have queue : startedContext.tasksOf 7 =
      [pairTask 1 0, pairTask 2 1, pairTask 3 2] := rfl
  have known : startedContext.statusOf 7 = some ⟨7, some 1, none, none⟩ := rfl
  rcases dispatch_in_order requested inserted queue known
    ⟨pairTask 1 0, by simp, rfl, rfl⟩
    [.turn none none, .other (.navigationTasks 8 2 1), .turn none none, .turn none none,
      .turn none none]
    (by simp [Request.robotId, Request.CarriesOwnId]) with
    ⟨final, run, _, _, _, kept, _⟩
  exact ⟨final, run, kept⟩

end ECam.Server
