import ECam.Server.Outcomes

/-!
# Progress of a polling robot

The `Tasks` table can also be filled by hand, through `TasksAPIController`.  Then order
numbers are arbitrary and may be null.  A robot that polls `NextTask` and reports what it
receives makes progress: each task has a larger number than the one before.  There are two
exceptions.  Null plus one is null, so a single task without a number succeeds itself, and
the largest `int` plus one is the smallest.
-/

namespace ECam.Server

open ECam.Library

/-! ## The tasks controller -/

/-- Answers of `TasksAPIController`. -/
inductive TasksResult where
  | noContent
  | notFound
  | badRequest
  | createdAtAction (task : TaskModel)
  deriving DecidableEq, Repr

/-- `SaveChangesAsync` with one task tracked as added. -/
def saveAddedTask (task : TaskModel) : Action TaskModel := do
  let db ← get
  match db.tasks.add? task with
  | none => throw .dbUpdate
  | some (tasks, stored) =>
      set { db with tasks := tasks }
      return stored

/-- `SaveChangesAsync` with one task tracked as modified. -/
def saveModifiedTask (task : TaskModel) : Action Unit := do
  let db ← get
  match db.tasks.update? task with
  | none => throw .dbUpdateConcurrency
  | some tasks => set { db with tasks := tasks }

/-- `TaskExists`. -/
def taskExists (id : Int) : Action Bool := do
  return (← get).tasks.hasKey id

/-- `PostTask`. -/
def postTask (task : TaskModel) : Action TasksResult := do
  let stored ← saveAddedTask task
  return .createdAtAction stored

/-- `PutTask`. -/
def putTask (id : Int) (task : TaskModel) : Action TasksResult :=
  if id ≠ task.taskID then
    pure .badRequest
  else do
    let db ← get
    match saveModifiedTask task db with
    | .ok _ next =>
        set next
        return .noContent
    | .error .dbUpdateConcurrency _ =>
        if !(← taskExists id) then
          return .notFound
        else
          throw .dbUpdateConcurrency
    | .error exception _ => throw exception

/-- Requests to the tasks controller that write. -/
inductive TasksRequest where
  | postTask (task : TaskModel)
  | putTask (id : Int) (task : TaskModel)
  deriving DecidableEq, Repr

/-- The task in the body of a request. -/
def TasksRequest.body : TasksRequest → TaskModel
  | .postTask task => task
  | .putTask _ task => task

/-- The database after a request to the tasks controller. -/
def serveTasks (db : DbContext) : TasksRequest → DbContext
  | .postTask task => (postTask task).after db
  | .putTask id task => (putTask id task).after db

/-- The properties of a task are values of `int`. -/
structure TaskModel.InRange (task : TaskModel) : Prop where
  taskID : -2 ^ 31 ≤ task.taskID ∧ task.taskID < 2 ^ 31
  robotID : -2 ^ 31 ≤ task.robotID ∧ task.robotID < 2 ^ 31
  orderNumber : ∀ number, task.orderNumber = some number → -2 ^ 31 ≤ number ∧ number < 2 ^ 31

/-- A table that requests to the tasks controller can produce. -/
def ProducedTasks (tasks : Table TaskModel) : Prop :=
  ∃ (start : DbContext) (requests : List TasksRequest), start.tasks = .empty ∧
    (∀ request ∈ requests, request.body.InRange) ∧
    (requests.foldl serveTasks start).tasks = tasks

/-- A request stores no order number but that of its body. -/
theorem serveTasks_rows (db : DbContext) (request : TasksRequest) {task : TaskModel}
    (stored : task ∈ (serveTasks db request).tasks.rows) :
    task ∈ db.tasks.rows ∨ task.orderNumber = request.body.orderNumber := by
  cases request with
  | postTask body =>
      cases added : db.tasks.add? body with
      | none =>
          have unchanged : serveTasks db (.postTask body) = db := by
            simp [serveTasks, postTask, saveAddedTask, Action.after, added]
          rw [unchanged] at stored
          exact Or.inl stored
      | some result =>
          rcases result with ⟨tasks, row⟩
          have served : serveTasks db (.postTask body) = { db with tasks := tasks } := by
            simp [serveTasks, postTask, saveAddedTask, Action.after, added]
          rcases Table.add?_cases added with ⟨assigned, _, rows⟩
          rw [served, rows, List.mem_append, List.mem_singleton] at stored
          rcases stored with old | new
          · exact Or.inl old
          · right
            rw [new, assigned, Table.assignKey]
            split <;> rfl
  | putTask id body =>
      by_cases named : id = body.taskID
      · cases updated : db.tasks.update? body with
        | none =>
            have unchanged : serveTasks db (.putTask id body) = db := by
              cases known : db.tasks.hasKey body.taskID <;>
                simp [serveTasks, putTask, saveModifiedTask, taskExists, Action.after, updated,
                  named, known]
            rw [unchanged] at stored
            exact Or.inl stored
        | some tasks =>
            have served : serveTasks db (.putTask id body) = { db with tasks := tasks } := by
              simp [serveTasks, putTask, saveModifiedTask, Action.after, updated, named]
            rw [served, (Table.update?_some updated).2.2] at stored
            rcases List.mem_map.mp stored with ⟨old, member, rfl⟩
            split
            next => exact Or.inr rfl
            next => exact Or.inl member
      · have unchanged : serveTasks db (.putTask id body) = db := by
          simp [serveTasks, putTask, Action.after, named]
        rw [unchanged] at stored
        exact Or.inl stored

/-- Order numbers are values of `int`. -/
def NumbersInRange (tasks : Table TaskModel) : Prop :=
  ∀ task ∈ tasks.rows, ∀ number, task.orderNumber = some number →
    -2 ^ 31 ≤ number ∧ number < 2 ^ 31

theorem ProducedTasks.numbersInRange {tasks : Table TaskModel}
    (produced : ProducedTasks tasks) : NumbersInRange tasks := by
  rcases produced with ⟨start, requests, empty, inRange, rfl⟩
  have initially : NumbersInRange start.tasks := by
    rw [empty]
    intro task member
    cases member
  clear empty
  induction requests generalizing start with
  | nil => exact initially
  | cons request requests ih =>
      apply ih (serveTasks start request) fun other member => inRange other (by simp [member])
      intro task stored number numbered
      rcases serveTasks_rows start request stored with old | new
      · exact initially task old number numbered
      · exact (inRange request (by simp)).orderNumber number (new ▸ numbered)

/-! ## One poll -/

/-- The task that the status of a robot names, in the queue of the robot. -/
def CurrentTask (db : DbContext) (robotId : Int) (current : TaskModel) : Prop :=
  current ∈ db.tasksOf robotId ∧
    ∃ status, db.statusOf robotId = some status ∧ status.taskID = some current.taskID

/-- The task is the only one of the robot with its order number. -/
structure OnlyNumbered (db : DbContext) (robotId : Int) (number : Option Int)
    (task : TaskModel) : Prop where
  queued : task ∈ db.tasksOf robotId
  numbered : task.orderNumber = number
  only : ∀ other ∈ db.tasksOf robotId, other.orderNumber = number → other = task

/-- The order numbers of both tasks are set, and the first is the smaller one. -/
def Precedes (earlier later : TaskModel) : Prop :=
  ∃ number next, earlier.orderNumber = some number ∧ later.orderNumber = some next ∧
    number < next

theorem Precedes.trans {first second third : TaskModel} (left : Precedes first second)
    (right : Precedes second third) : Precedes first third := by
  rcases left with ⟨low, middle, firstNumber, secondNumber, below⟩
  rcases right with ⟨other, high, otherNumber, thirdNumber, above⟩
  rw [secondNumber, Option.some.injEq] at otherNumber
  exact ⟨low, high, firstNumber, thirdNumber, by omega⟩

theorem Precedes.ne {earlier later : TaskModel} (precedes : Precedes earlier later) :
    earlier ≠ later := by
  rcases precedes with ⟨number, next, earlierNumber, laterNumber, below⟩
  intro equal
  rw [equal, laterNumber, Option.some.injEq] at earlierNumber
  omega

/-- A task that `NextTask` returns comes after the current one. -/
def Progresses (robotId : Int) (db : DbContext) : Prop :=
  ∀ current task after, CurrentTask db robotId current →
    nextTask robotId db = .ok (.value (some task)) after → Precedes current task

/-- The current task is the only one without a number, or it has the largest number and
one task has the smallest. -/
def Stalls (robotId : Int) (db : DbContext) : Prop :=
  ∃ current, CurrentTask db robotId current ∧
    (OnlyNumbered db robotId none current ∨
      current.orderNumber = some (2 ^ 31 - 1) ∧
        ∃ task, OnlyNumbered db robotId (some (-2 ^ 31)) task)

theorem OnlyNumbered.filter_eq {db : DbContext} {robotId : Int} {number : Option Int}
    {task : TaskModel} (only : OnlyNumbered db robotId number task) :
    db.tasks.rows.filter (fun other => other.orderNumber == number &&
      other.robotID == robotId) = [task] := by
  rcases DbContext.mem_tasksOf.mp only.queued with ⟨stored, owner⟩
  apply filter_eq_singleton db.tasks.rows_nodup stored
  intro other otherStored
  simp only [Bool.and_eq_true, beq_iff_eq]
  constructor
  · rintro ⟨otherNumber, otherOwner⟩
    exact only.only other (DbContext.mem_tasksOf.mpr ⟨otherStored, otherOwner⟩) otherNumber
  · intro equal
    rw [equal]
    exact ⟨only.numbered, owner⟩

theorem OnlyNumbered.of_filter {db : DbContext} {robotId : Int} {number : Option Int}
    {task : TaskModel}
    (selected : db.tasks.rows.filter (fun other => other.orderNumber == number &&
      other.robotID == robotId) = [task]) : OnlyNumbered db robotId number task := by
  have selects : ∀ other, other = task ↔ other ∈ db.tasksOf robotId ∧
      other.orderNumber = number := by
    intro other
    rw [← List.mem_singleton, ← selected, List.mem_filter, DbContext.mem_tasksOf]
    simp only [Bool.and_eq_true, beq_iff_eq]
    constructor
    · rintro ⟨stored, otherNumber, owner⟩
      exact ⟨⟨stored, owner⟩, otherNumber⟩
    · rintro ⟨⟨stored, owner⟩, otherNumber⟩
      exact ⟨stored, otherNumber, owner⟩
  rcases (selects task).mp rfl with ⟨queued, numbered⟩
  exact ⟨queued, numbered, fun other otherQueued otherNumber =>
    (selects other).mpr ⟨otherQueued, otherNumber⟩⟩

/-- `NextTask` returns a task exactly if it is the only one with the next number. -/
theorem CurrentTask.nextTask_iff {db : DbContext} {robotId : Int} {current task : TaskModel}
    (isCurrent : CurrentTask db robotId current) :
    (∃ after, nextTask robotId db = .ok (.value (some task)) after) ↔
      OnlyNumbered db robotId (nextOrderNumber current.orderNumber) task := by
  rcases isCurrent with ⟨queued, status, known, reported⟩
  constructor
  · rintro ⟨after, answered⟩
    apply OnlyNumbered.of_filter
    simp only [nextTask, Action.bind_apply, Action.get_apply,
      singleOrDefault_some (DbContext.filter_status known), reported,
      singleAsync_some (DbContext.filter_current queued)] at answered
    rcases selected : db.tasks.rows.filter (fun other =>
      other.orderNumber == nextOrderNumber current.orderNumber &&
        other.robotID == robotId) with _ | ⟨row, _ | ⟨second, rest⟩⟩
    · rw [singleOrDefault_none selected] at answered
      cases answered
    · rw [singleOrDefault_some selected] at answered
      cases answered
      exact selected
    · simp [singleOrDefault, selected] at answered
  · intro only
    exact ⟨db, nextTask_current known queued reported only.filter_eq⟩

theorem nextOrderNumber_last : nextOrderNumber (some (2 ^ 31 - 1)) = some (-2 ^ 31) := by
  decide

/-- A poll makes progress exactly if it does not stall. -/
theorem progresses_iff {db : DbContext} (numbers : NumbersInRange db.tasks) (robotId : Int) :
    Progresses robotId db ↔ ¬Stalls robotId db := by
  constructor
  · rintro progresses ⟨current, isCurrent, unnumbered | ⟨last, task, first⟩⟩
    · have next : OnlyNumbered db robotId (nextOrderNumber current.orderNumber) current := by
        rw [unnumbered.numbered]
        exact unnumbered
      rcases isCurrent.nextTask_iff.mpr next with ⟨after, answered⟩
      exact (progresses current current after isCurrent answered).ne rfl
    · rw [← nextOrderNumber_last, ← last] at first
      rcases isCurrent.nextTask_iff.mpr first with ⟨after, answered⟩
      rcases progresses current task after isCurrent answered with
        ⟨number, next, currentNumber, taskNumber, below⟩
      rw [last, Option.some.injEq] at currentNumber
      rw [first.numbered, last, nextOrderNumber_last, Option.some.injEq] at taskNumber
      omega
  · intro moves current task after isCurrent answered
    have only := isCurrent.nextTask_iff.mp ⟨after, answered⟩
    cases currentNumber : current.orderNumber with
    | none =>
        rw [currentNumber] at only
        have same := only.only current isCurrent.1 currentNumber
        rw [← same] at only
        exact absurd ⟨current, isCurrent, Or.inl only⟩ moves
    | some number =>
        have range := numbers current (DbContext.mem_tasksOf.mp isCurrent.1).1 number currentNumber
        rw [currentNumber] at only
        by_cases last : number = 2 ^ 31 - 1
        · rw [last, nextOrderNumber_last] at only
          rw [last] at currentNumber
          exact absurd ⟨current, isCurrent, Or.inr ⟨currentNumber, task, only⟩⟩ moves
        · have next : nextOrderNumber (some number) = some (number + 1) := by
            rw [nextOrderNumber, Option.map_some, toInt32_eq_self (by omega) (by omega)]
          exact ⟨number, number + 1, currentNumber, only.numbered.trans next, by omega⟩

/-! ## Repeated polls -/

/-- A robot that polls: the database and the tasks it has received so far. -/
structure PollState where
  db : DbContext
  received : List TaskModel

/-- The robot polls, and reports a task that it receives as its current one, with the
marker it sees. -/
def pollStep (robotId : Int) (state : PollState) (seen : Option Int × Option String) :
    PollState :=
  match nextTask robotId state.db with
  | .ok (.value (some task)) db =>
      ⟨(updateCurrentStatus robotId ⟨robotId, some task.taskID, seen.1, seen.2⟩).after db,
        state.received ++ [task]⟩
  | _ => state

/-- Invariant of the polls: the table is the one at the start, the last task in the row of
current tasks is the current one, and each task in it precedes the later ones. -/
structure Polling (robotId : Int) (start : DbContext) (first : TaskModel) (state : PollState) :
    Prop where
  tasks_eq : state.db.tasks = start.tasks
  last : ∃ earlier current, first :: state.received = earlier ++ [current] ∧
    CurrentTask state.db robotId current
  ordered : (first :: state.received).Pairwise Precedes

/-- After its report the received task is the current one. -/
theorem CurrentTask.reported {db : DbContext} {robotId : Int} {current task : TaskModel}
    (isCurrent : CurrentTask db robotId current) (queued : task ∈ db.tasksOf robotId)
    (qrIdInFront : Option Int) (qrDistanceInFront : Option String) :
    ∃ next, (updateCurrentStatus robotId
        ⟨robotId, some task.taskID, qrIdInFront, qrDistanceInFront⟩).after db = next ∧
      next.tasks = db.tasks ∧ CurrentTask next robotId task := by
  rcases isCurrent with ⟨_, status, known, _⟩
  rcases updateCurrentStatus_task (DbContext.hasStatus_of_statusOf known)
    (show CurrentStatusModel.robotID
      ⟨robotId, some task.taskID, qrIdInFront, qrDistanceInFront⟩ = robotId from rfl)
    (Option.some_ne_none _) with ⟨next, reported, tasks, stored⟩
  refine ⟨next, by rw [Action.after, reported], tasks, ?_, _, stored, rfl⟩
  rw [DbContext.tasksOf, tasks]
  exact queued

/-- A poll that does not stall keeps the invariant. -/
theorem Polling.step {robotId : Int} {start : DbContext} {first : TaskModel}
    {state : PollState} (numbers : NumbersInRange start.tasks)
    (polling : Polling robotId start first state) (seen : Option Int × Option String)
    (moves : ¬Stalls robotId state.db) :
    Polling robotId start first (pollStep robotId state seen) := by
  rcases polling.last with ⟨earlier, current, history, isCurrent⟩
  unfold pollStep
  split
  next task db answered =>
    have same : db = state.db := by
      have kept := nextTask_after robotId state.db
      rwa [Action.after, answered] at kept
    have only := isCurrent.nextTask_iff.mp ⟨db, answered⟩
    have stateNumbers : NumbersInRange state.db.tasks := by
      rw [polling.tasks_eq]
      exact numbers
    have above := (progresses_iff stateNumbers robotId).mpr moves current task db isCurrent
      answered
    rw [same]
    rcases isCurrent.reported only.queued seen.1 seen.2 with ⟨next, reported, tasks, nextCurrent⟩
    rw [reported]
    refine ⟨tasks.trans polling.tasks_eq, ⟨earlier ++ [current], task, ?_, nextCurrent⟩, ?_⟩
    · rw [← history, List.cons_append]
    · have ordered := polling.ordered
      rw [← List.cons_append, List.pairwise_append]
      refine ⟨ordered, List.pairwise_singleton _ _, ?_⟩
      intro other otherReceived received member
      rw [List.mem_singleton.mp member]
      rw [history] at ordered otherReceived
      rcases List.mem_append.mp otherReceived with before | last
      · have precedes := (List.pairwise_append.mp ordered).2.2 other before current
          List.mem_cons_self
        exact precedes.trans above
      · rw [List.mem_singleton.mp last]
        exact above
  next => exact polling

/-- For every table that the tasks controller can produce and every robot whose status
names one of its tasks, a poll makes progress exactly if it does not stall.  In every run
of polls that do not stall, the tasks received have increasing order numbers above that of
the first current task, and none is received twice. -/
theorem polling_progress {db : DbContext} (produced : ProducedTasks db.tasks) {robotId : Int}
    {first : TaskModel} (isCurrent : CurrentTask db robotId first) :
    (Progresses robotId db ↔ ¬Stalls robotId db) ∧
    ∀ seen : List (Option Int × Option String),
      EachStep (pollStep robotId) (fun state _ => ¬Stalls robotId state.db) ⟨db, []⟩ seen →
      Always (pollStep robotId) (fun state => (first :: state.received).Pairwise Precedes ∧
        (first :: state.received).Nodup) ⟨db, []⟩ seen := by
  have numbers := produced.numbersInRange
  refine ⟨progresses_iff numbers robotId, ?_⟩
  intro seen moves
  have initially : Polling robotId db first ⟨db, []⟩ :=
    ⟨rfl, ⟨[], first, rfl, isCurrent⟩, List.pairwise_singleton _ _⟩
  have polls : Always (pollStep robotId) (Polling robotId db first) ⟨db, []⟩ seen :=
    Always.of_steps (fun _ report polling step => polling.step numbers report step) initially
      moves
  apply polls.imp
  intro state polling
  exact ⟨polling.ordered, polling.ordered.imp Precedes.ne⟩

/-- The tasks of robot `7` are posted by hand. -/
theorem startedContext_produced : ProducedTasks startedContext.tasks := by
  refine ⟨connectedContext, [.postTask (pairTask 0 0), .postTask (pairTask 0 1),
    .postTask (pairTask 0 2)], rfl, ?_, rfl⟩
  intro request member
  simp only [List.mem_cons, List.not_mem_nil, or_false] at member
  rcases member with rfl | rfl | rfl <;>
    exact ⟨by decide, by decide, by simp [TasksRequest.body, pairTask]⟩

theorem startedContext_current : CurrentTask startedContext 7 (pairTask 1 0) :=
  ⟨by decide, ⟨7, some 1, none, none⟩, rfl, rfl⟩

/-- Robot `7` polls once. -/
theorem polling_progress_started :
    (Progresses 7 startedContext ↔ ¬Stalls 7 startedContext) ∧
      (pollStep 7 ⟨startedContext, []⟩ (none, none)).received = [pairTask 2 1] ∧
      [pairTask 1 0, pairTask 2 1].Nodup := by
  have moves : ¬Stalls 7 startedContext := by
    rintro ⟨current, ⟨queued, _⟩, unnumbered | ⟨largest, _⟩⟩
    · have number := unnumbered.numbered
      have members : current = pairTask 1 0 ∨ current = pairTask 2 1 ∨ current = pairTask 3 2 := by
        simpa [DbContext.tasksOf, startedContext, pairTask] using queued
      rcases members with rfl | rfl | rfl <;> cases number
    · have members : current = pairTask 1 0 ∨ current = pairTask 2 1 ∨ current = pairTask 3 2 := by
        simpa [DbContext.tasksOf, startedContext, pairTask] using queued
      rcases members with rfl | rfl | rfl <;> simp [pairTask] at largest
  have progress := polling_progress startedContext_produced startedContext_current
  exact ⟨progress.1, rfl, (progress.2 [(none, none)] ⟨moves, trivial⟩).2.2⟩

/-- Robot `7` has one task, which was posted without an order number. -/
def unnumberedContext : DbContext where
  waypoints := connectedContext.waypoints
  currentStatuses := startedContext.currentStatuses
  tasks := (serveTasks connectedContext (.postTask ⟨0, 7, none, none⟩)).tasks

/-- The robot receives its current task again, as often as it polls. -/
theorem polling_repeats :
    ProducedTasks unnumberedContext.tasks ∧
      CurrentTask unnumberedContext 7 ⟨1, 7, none, none⟩ ∧
      ¬Progresses 7 unnumberedContext ∧
      ([(none, none), (none, none)].foldl (pollStep 7) ⟨unnumberedContext, []⟩).received =
        [⟨1, 7, none, none⟩, ⟨1, 7, none, none⟩] := by
  have produced : ProducedTasks unnumberedContext.tasks := by
    refine ⟨connectedContext, [.postTask ⟨0, 7, none, none⟩], rfl, ?_, rfl⟩
    intro request member
    rw [List.mem_singleton.mp member]
    exact ⟨by decide, by decide, by simp [TasksRequest.body]⟩
  have current : CurrentTask unnumberedContext 7 ⟨1, 7, none, none⟩ :=
    ⟨by decide, ⟨7, some 1, none, none⟩, rfl, rfl⟩
  refine ⟨produced, current, ?_, rfl⟩
  intro progresses
  exact (progresses _ ⟨1, 7, none, none⟩ unnumberedContext current rfl).ne rfl

end ECam.Server
