import ECam.Server.Manager

/-!
# What the handlers do to the database

One description of each handler of the manager: what it can answer, which rows it
writes, and which it leaves alone.  Every later argument about sequences of
requests uses these descriptions and never unfolds a handler.
-/

namespace ECam.Server

open ECam.Library

variable {getPathList : Int → Int → Except Exn (NetList Int)}

/-! ## Planning a route -/

/-- The outcome of an action that reads the waypoint table only. -/
def outcome {α : Type} (result : Except Exn α) (db : DbContext) :
    EStateM.Result Exn DbContext α :=
  match result with
  | .ok value => .ok value db
  | .error exception => .error exception db

@[simp] theorem outcome_ok {α : Type} (value : α) (db : DbContext) :
    outcome (.ok value) db = .ok value db := rfl

@[simp] theorem outcome_error {α : Type} (exception : Exn) (db : DbContext) :
    outcome (.error exception : Except Exn α) db = .error exception db := rfl

/-- An action whose outcome is determined by the waypoint table and that saves
nothing. -/
def ReadsWaypoints {α : Type} (action : Action α) : Prop :=
  ∃ read : Table WaypointModel → Except Exn α,
    ∀ db : DbContext, action db = outcome (read db.waypoints) db

namespace ReadsWaypoints

variable {α β : Type}

theorem ofPure (value : α) : ReadsWaypoints (pure value : Action α) :=
  ⟨fun _ => .ok value, fun _ => rfl⟩

theorem ofThrow (exception : Exn) : ReadsWaypoints (throw exception : Action α) :=
  ⟨fun _ => .error exception, fun _ => rfl⟩

theorem bind {action : Action α} {next : α → Action β} (first : ReadsWaypoints action)
    (rest : ∀ value, ReadsWaypoints (next value)) : ReadsWaypoints (action >>= next) := by
  rcases first with ⟨read, readEq⟩
  choose readNext nextEq using rest
  refine ⟨fun waypoints => (read waypoints).bind fun value => readNext value waypoints, ?_⟩
  intro db
  rw [Action.bind_apply, readEq]
  cases result : read db.waypoints with
  | error exception => simp [result, Except.bind]
  | ok value => simpa [result, Except.bind] using nextEq value db

end ReadsWaypoints

theorem elementAt_reads {α : Type} (list : List α) (index : Nat) :
    ReadsWaypoints (elementAt list index) := by
  unfold elementAt
  cases list[index]? with
  | none => exact .ofThrow _
  | some element => exact .ofPure _

theorem firstWaypoint_reads (waypointId : Int) : ReadsWaypoints (firstWaypoint waypointId) := by
  refine ⟨fun waypoints =>
    match waypoints.rows.find? fun waypoint => waypoint.waypointId == waypointId with
    | some row => .ok row
    | none => .error .invalidOperation, ?_⟩
  intro db
  simp only [firstWaypoint, Action.bind_apply, Action.get_apply, firstAsync]
  cases db.waypoints.rows.find? fun waypoint => waypoint.waypointId == waypointId <;> rfl

theorem waypointsFromListAsync_reads (waypointIds : List Int) :
    ReadsWaypoints (waypointsFromListAsync waypointIds) := by
  induction waypointIds with
  | nil => exact .ofPure _
  | cons waypointId rest ih =>
      exact (firstWaypoint_reads waypointId).bind fun _ => ih.bind fun _ => .ofPure _

variable (getPathList) in
theorem planRoute_reads (robotId startWaypointId endWaypointId : Int) :
    ReadsWaypoints (planRoute getPathList robotId startWaypointId endWaypointId) := by
  unfold planRoute
  cases getPathList startWaypointId endWaypointId with
  | error exception => exact .ofThrow _
  | ok pathWaypointIds =>
      exact (waypointsFromListAsync_reads _).bind fun _ =>
        (elementAt_reads _ _).bind fun _ => (elementAt_reads _ _).bind fun _ => .ofPure _

/-- The tasks of one route, before the database has given them keys. -/
structure RouteTasks (robotId : Int) (newTasks : List TaskModel) : Prop where
  unassigned : ∀ task ∈ newTasks, task.taskID = 0
  owner : ∀ task ∈ newTasks, task.robotID = robotId
  numbered : ∀ (index : Nat) (task : TaskModel), newTasks[index]? = some task →
    task.orderNumber = some (index : Int)
  two_le_length : 2 ≤ newTasks.length
  length_le : newTasks.length ≤ 2 ^ 31

theorem length_legTasks (robotId orderNumber : Int) (pathWaypoints : List WaypointModel) :
    (legTasks robotId orderNumber pathWaypoints).length = pathWaypoints.length - 1 := by
  induction pathWaypoints generalizing orderNumber with
  | nil => rfl
  | cons root rest ih =>
      cases rest with
      | nil => rfl
      | cons dest rest => simp [legTasks, ih]

theorem getElem?_legTasks {robotId orderNumber : Int} {pathWaypoints : List WaypointModel}
    {index : Nat} {task : TaskModel}
    (selected : (legTasks robotId orderNumber pathWaypoints)[index]? = some task) :
    task.taskID = 0 ∧ task.robotID = robotId ∧
      task.orderNumber = some (orderNumber + index) := by
  induction pathWaypoints generalizing orderNumber index with
  | nil => simp [legTasks] at selected
  | cons root rest ih =>
      cases rest with
      | nil => simp [legTasks] at selected
      | cons dest rest =>
          cases index with
          | zero =>
              simp only [legTasks, List.getElem?_cons_zero, Option.some.injEq] at selected
              subst task
              simp [newTask]
          | succ index =>
              simp only [legTasks, List.getElem?_cons_succ] at selected
              have tail := ih selected
              refine ⟨tail.1, tail.2.1, ?_⟩
              rw [tail.2.2]
              congr 1
              push_cast
              omega

/-- Every entry of a route belongs to the robot, has no key yet and carries its
position as order number. -/
theorem getElem?_routeTasks {robotId firstId lastId : Int}
    {pathWaypoints : List WaypointModel} {index : Nat} {task : TaskModel}
    (selected : (routeTasks robotId firstId lastId pathWaypoints)[index]? = some task) :
    task.taskID = 0 ∧ task.robotID = robotId ∧ task.orderNumber = some (index : Int) := by
  unfold routeTasks at selected
  cases index with
  | zero =>
      simp only [List.getElem?_cons_zero, Option.some.injEq] at selected
      subst task
      simp [newTask]
  | succ index =>
      simp only [List.getElem?_cons_succ] at selected
      rw [List.getElem?_append] at selected
      split at selected
      next =>
        have leg := getElem?_legTasks selected
        refine ⟨leg.1, leg.2.1, ?_⟩
        rw [leg.2.2]
        congr 1
        push_cast
        omega
      next outside =>
        have position : index = (legTasks robotId 1 pathWaypoints).length := by
          have inBounds := (List.getElem?_eq_some_iff.mp selected).1
          simp only [List.length_cons, List.length_nil] at inBounds
          omega
        subst position
        simp only [Nat.sub_self, List.getElem?_cons_zero, Option.some.injEq] at selected
        subst task
        refine ⟨rfl, rfl, ?_⟩
        simp only [newTask]
        congr 1
        push_cast
        omega

theorem length_routeTasks (robotId firstId lastId : Int)
    (pathWaypoints : List WaypointModel) :
    (routeTasks robotId firstId lastId pathWaypoints).length =
      pathWaypoints.length - 1 + 2 := by
  simp [routeTasks, length_legTasks]

theorem firstWaypoint_ok {waypointId : Int} {db after : DbContext} {waypoint : WaypointModel}
    (found : firstWaypoint waypointId db = .ok waypoint after) :
    after = db ∧ waypoint ∈ db.waypoints.rows ∧ waypoint.waypointId = waypointId := by
  simp only [firstWaypoint, Action.bind_apply, Action.get_apply, firstAsync] at found
  cases row : db.waypoints.rows.find? fun waypoint => waypoint.waypointId == waypointId with
  | none => simp [row] at found
  | some first =>
      simp only [row, Action.pure_apply, EStateM.Result.ok.injEq] at found
      rw [← found.1]
      exact ⟨found.2.symm, List.mem_of_find?_eq_some row, by simpa using List.find?_some row⟩

/-- A resolved path consists of stored rows with the ids of the path. -/
theorem waypointsFromListAsync_ok {waypointIds : List Int} {db after : DbContext}
    {result : List WaypointModel}
    (resolved : waypointsFromListAsync waypointIds db = .ok result after) :
    after = db ∧ result.map WaypointModel.waypointId = waypointIds ∧
      ∀ waypoint ∈ result, waypoint ∈ db.waypoints.rows := by
  induction waypointIds generalizing db after result with
  | nil =>
      simp only [waypointsFromListAsync, Action.pure_apply] at resolved
      cases resolved
      simp
  | cons waypointId rest ih =>
      simp only [waypointsFromListAsync, Action.bind_apply] at resolved
      cases first : firstWaypoint waypointId db with
      | error exception middle => simp [first] at resolved
      | ok waypoint middle =>
          rcases firstWaypoint_ok first with ⟨unchanged, stored, named⟩
          cases others : waypointsFromListAsync rest middle with
          | error exception last => simp [first, others] at resolved
          | ok waypoints last =>
              rcases ih others with ⟨kept, names, rows⟩
              simp only [first, others, Action.pure_apply, EStateM.Result.ok.injEq]
                at resolved
              rw [← resolved.1, ← resolved.2, kept, unchanged]
              refine ⟨rfl, by rw [List.map_cons, named, names], ?_⟩
              intro other member
              rcases List.mem_cons.mp member with rfl | later
              · exact stored
              · rw [← unchanged]
                exact rows other later

/-- The resolved path behind a planned route. -/
theorem planRoute_ok {robotId startWaypointId endWaypointId : Int}
    {db after : DbContext} {newTasks : List TaskModel}
    (planned : planRoute getPathList robotId startWaypointId endWaypointId db =
      .ok newTasks after) :
    ∃ path pathWaypoints firstId lastId,
      getPathList startWaypointId endWaypointId = .ok path ∧
      waypointsFromListAsync path.items db = .ok pathWaypoints db ∧
      path.items[0]? = some firstId ∧
      path.items[path.items.length - 1]? = some lastId ∧
      newTasks = routeTasks robotId firstId lastId pathWaypoints := by
  unfold planRoute at planned
  cases found : getPathList startWaypointId endWaypointId with
  | error exception => simp [found] at planned
  | ok path =>
      simp only [found, Action.bind_apply] at planned
      cases resolved : waypointsFromListAsync path.items db with
      | error exception middle => simp [resolved] at planned
      | ok pathWaypoints middle =>
          have unchanged := (waypointsFromListAsync_ok resolved).1
          simp only [resolved, elementAt] at planned
          cases first : path.items[0]? with
          | none => simp [first] at planned
          | some firstId =>
              cases last : path.items[path.items.length - 1]? with
              | none => simp [first, last] at planned
              | some lastId =>
                  simp only [first, last, Action.pure_apply, EStateM.Result.ok.injEq]
                    at planned
                  rw [unchanged] at resolved
                  exact ⟨path, pathWaypoints, firstId, lastId, rfl, resolved, first, last,
                    planned.1.symm⟩

/-- A planned route is a list of numbered tasks for the robot. -/
theorem planRoute_shape {robotId startWaypointId endWaypointId : Int}
    {db after : DbContext} {newTasks : List TaskModel}
    (planned : planRoute getPathList robotId startWaypointId endWaypointId db =
      .ok newTasks after) : RouteTasks robotId newTasks := by
  rcases planRoute_ok planned with
    ⟨path, pathWaypoints, firstId, lastId, _, resolved, first, _, rfl⟩
  have bound := path.count_lt
  have length := length_routeTasks robotId firstId lastId pathWaypoints
  have count : pathWaypoints.length = path.items.length := by
    rw [← (waypointsFromListAsync_ok resolved).2.1, List.length_map]
  have nonempty := (List.getElem?_eq_some_iff.mp first).1
  refine ⟨?_, ?_, fun index task selected => (getElem?_routeTasks selected).2.2,
    by omega, by omega⟩
  · intro task member
    rcases List.mem_iff_getElem?.mp member with ⟨index, selected⟩
    exact (getElem?_routeTasks selected).1
  · intro task member
    rcases List.mem_iff_getElem?.mp member with ⟨index, selected⟩
    exact (getElem?_routeTasks selected).2.1

/-! ## NavigationTasks -/

/-- The rows a route adds to the `Tasks` table of `db`. -/
def insertedRows (db : DbContext) (newTasks : List TaskModel) : List TaskModel :=
  Table.stamp db.tasks.nextKey newTasks

/-- `saveAddedTasks` appends the rows of a route with generated keys. -/
theorem saveAddedTasks_route {robotId : Int} {newTasks : List TaskModel}
    (route : RouteTasks robotId newTasks) (db : DbContext) :
    ∃ tasks, saveAddedTasks newTasks db = .ok () { db with tasks := tasks } ∧
      tasks.rows = db.tasks.rows ++ insertedRows db newTasks ∧
      tasks.nextKey = db.tasks.nextKey + newTasks.length := by
  rcases db.tasks.addRange?_generated newTasks route.unassigned with
    ⟨tasks, added, rows, nextKey⟩
  refine ⟨tasks, ?_, rows, nextKey⟩
  simp only [saveAddedTasks, Action.bind_apply, Action.get_apply, added, Action.set_apply]

variable (getPathList) in
/-- `NavigationTasks` either fails without a change or appends one route. -/
theorem navigationTasks_cases (robotId startWaypointId endWaypointId : Int)
    (db : DbContext) :
    (∃ exception,
      planRoute getPathList robotId startWaypointId endWaypointId db =
        .error exception db ∧
      navigationTasks getPathList robotId startWaypointId endWaypointId db =
        .error exception db) ∨
    (∃ newTasks tasks,
      planRoute getPathList robotId startWaypointId endWaypointId db = .ok newTasks db ∧
      RouteTasks robotId newTasks ∧
      navigationTasks getPathList robotId startWaypointId endWaypointId db =
        .ok .noContent { db with tasks := tasks } ∧
      tasks.rows = db.tasks.rows ++ insertedRows db newTasks ∧
      tasks.nextKey = db.tasks.nextKey + newTasks.length) := by
  rcases planRoute_reads getPathList robotId startWaypointId endWaypointId with
    ⟨read, readEq⟩
  have planned := readEq db
  cases result : read db.waypoints with
  | error exception =>
      rw [result, outcome_error] at planned
      left
      refine ⟨exception, planned, ?_⟩
      simp only [navigationTasks, Action.bind_apply, planned]
  | ok newTasks =>
      rw [result, outcome_ok] at planned
      have route := planRoute_shape planned
      rcases saveAddedTasks_route route db with ⟨tasks, saved, rows, nextKey⟩
      right
      refine ⟨newTasks, tasks, planned, route, ?_, rows, nextKey⟩
      simp only [navigationTasks, Action.bind_apply, planned, saved, Action.pure_apply]

/-! ## NextTask -/

theorem singleOrDefault_none {α : Type} {accept : α → Bool} {rows : List α}
    (selected : rows.filter accept = []) (db : DbContext) :
    singleOrDefault accept rows db = .ok none db := by
  simp [singleOrDefault, selected]

theorem singleOrDefault_some {α : Type} {accept : α → Bool} {rows : List α} {row : α}
    (selected : rows.filter accept = [row]) (db : DbContext) :
    singleOrDefault accept rows db = .ok (some row) db := by
  simp [singleOrDefault, selected]

theorem singleAsync_some {α : Type} {accept : α → Bool} {rows : List α} {row : α}
    (selected : rows.filter accept = [row]) (db : DbContext) :
    singleAsync accept rows db = .ok row db := by
  simp [singleAsync, selected]

theorem singleOrDefault_db {α : Type} (accept : α → Bool) (rows : List α) (db : DbContext) :
    (∃ row, singleOrDefault accept rows db = .ok row db) ∨
      singleOrDefault accept rows db = .error .invalidOperation db := by
  rcases selected : rows.filter accept with _ | ⟨row, _ | ⟨second, rest⟩⟩ <;>
    simp [singleOrDefault, selected]

theorem singleAsync_db {α : Type} (accept : α → Bool) (rows : List α) (db : DbContext) :
    (∃ row, singleAsync accept rows db = .ok row db) ∨
      singleAsync accept rows db = .error .invalidOperation db := by
  rcases selected : rows.filter accept with _ | ⟨row, _ | ⟨second, rest⟩⟩ <;>
    simp [singleAsync, selected]

/-- The query for the status row of a robot that has one. -/
theorem DbContext.filter_status {db : DbContext} {robotId : Int} {status : CurrentStatusModel}
    (known : db.statusOf robotId = some status) :
    db.currentStatuses.rows.filter (fun status => status.robotID == robotId) = [status] := by
  rcases DbContext.statusOf_eq_some.mp known with ⟨member, owner⟩
  apply filter_eq_singleton db.currentStatuses.rows_nodup member
  intro other otherMember
  rw [beq_iff_eq]
  constructor
  · intro otherOwner
    exact db.currentStatuses.eq_of_key_eq otherMember member (otherOwner.trans owner.symm)
  · intro equal
    rw [equal, owner]

/-- The query for the current task of a robot. -/
theorem DbContext.filter_current {db : DbContext} {robotId : Int} {current : TaskModel}
    (queued : current ∈ db.tasksOf robotId) :
    db.tasks.rows.filter
      (fun task => task.taskID == current.taskID && task.robotID == robotId) = [current] := by
  rcases DbContext.mem_tasksOf.mp queued with ⟨stored, owner⟩
  apply filter_eq_singleton db.tasks.rows_nodup stored
  intro other otherMember
  simp only [Bool.and_eq_true, beq_iff_eq]
  constructor
  · rintro ⟨sameKey, _⟩
    exact db.tasks.eq_of_key_eq otherMember stored sameKey
  · intro equal
    rw [equal]
    exact ⟨rfl, owner⟩

/-- With a current task in the queue, `NextTask` answers what the query for the next
order number selects. -/
theorem nextTask_current {db : DbContext} {robotId : Int} {status : CurrentStatusModel}
    {current : TaskModel} {successor : Option TaskModel}
    (known : db.statusOf robotId = some status) (queued : current ∈ db.tasksOf robotId)
    (reported : status.taskID = some current.taskID)
    (selected : db.tasks.rows.filter
      (fun task => task.orderNumber == nextOrderNumber current.orderNumber &&
        task.robotID == robotId) = successor.toList) :
    nextTask robotId db = .ok (.value successor) db := by
  simp only [nextTask, Action.bind_apply, Action.get_apply,
    singleOrDefault_some (DbContext.filter_status known), reported,
    singleAsync_some (DbContext.filter_current queued)]
  cases successor with
  | none => simp only [singleOrDefault_none selected, Action.pure_apply]
  | some task => simp only [singleOrDefault_some selected, Action.pure_apply]

/-- `NextTask` saves nothing. -/
theorem nextTask_db (robotId : Int) (db : DbContext) :
    (∃ answer, nextTask robotId db = .ok answer db) ∨
      ∃ exception, nextTask robotId db = .error exception db := by
  simp only [nextTask, Action.bind_apply, Action.get_apply]
  rcases singleOrDefault_db (fun status : CurrentStatusModel => status.robotID == robotId)
    db.currentStatuses.rows db with ⟨status, found⟩ | failed
  · simp only [found]
    cases status with
    | none => exact Or.inr ⟨_, rfl⟩
    | some status =>
        cases task : status.taskID with
        | none =>
            simp only [task]
            exact Or.inl ⟨_, rfl⟩
        | some currentTaskId =>
            simp only [task, Action.bind_apply, Action.get_apply]
            rcases singleAsync_db
              (fun task : TaskModel => task.taskID == currentTaskId && task.robotID == robotId)
              db.tasks.rows db with ⟨currentTask, current⟩ | missing
            · simp only [current]
              rcases singleOrDefault_db
                (fun task : TaskModel =>
                  task.orderNumber == nextOrderNumber currentTask.orderNumber &&
                    task.robotID == robotId) db.tasks.rows db with ⟨successor, next⟩ | double
              · simp only [next]
                exact Or.inl ⟨_, rfl⟩
              · simp only [double]
                exact Or.inr ⟨_, rfl⟩
            · simp only [missing]
              exact Or.inr ⟨_, rfl⟩
  · simp only [failed]
    exact Or.inr ⟨_, rfl⟩

/-- A robot whose status row has no task, or that has none, is not given a task. -/
theorem nextTask_waiting {robotId : Int} {db : DbContext}
    (waiting : ∀ status ∈ db.currentStatuses.rows, status.robotID = robotId →
      status.taskID = none) :
    nextTask robotId db = .ok .notFound db ∨
      ∃ exception, nextTask robotId db = .error exception db := by
  simp only [nextTask, Action.bind_apply, Action.get_apply]
  rcases selected : db.currentStatuses.rows.filter
    (fun status => status.robotID == robotId) with _ | ⟨status, _ | ⟨second, rest⟩⟩
  · simp [singleOrDefault, selected]
  · have member : status ∈ db.currentStatuses.rows.filter
        (fun status => status.robotID == robotId) := by
      simp [selected]
    rw [List.mem_filter, beq_iff_eq] at member
    simp [singleOrDefault, selected, waiting status member.1 member.2]
  · simp [singleOrDefault, selected]

/-! ## UpdateCurrentStatus -/

namespace DbContext

/-- The database without the tasks of a robot. -/
def clearTasks (db : DbContext) (robotId : Int) : DbContext :=
  { db with tasks := db.tasks.without (db.tasksOf robotId) }

theorem clearTasks_rows (db : DbContext) (robotId : Int) :
    (db.clearTasks robotId).tasks.rows =
      db.tasks.rows.filter fun task => !(task.robotID == robotId) :=
  db.tasks.without_filter_rows _

theorem tasksOf_clearTasks (db : DbContext) (robotId other : Int) :
    (db.clearTasks robotId).tasksOf other =
      if other = robotId then [] else db.tasksOf other := by
  rw [tasksOf, clearTasks_rows, List.filter_filter]
  split
  next equal =>
    subst other
    apply List.filter_eq_nil_iff.mpr
    intro task _
    simp
  next different =>
    apply List.filter_congr
    intro task _
    by_cases owner : task.robotID = other <;> simp [owner, different]

end DbContext

theorem saveRemovedTasks_selected (db : DbContext) (robotId : Int) :
    saveRemovedTasks (db.tasksOf robotId) db = .ok () (db.clearTasks robotId) := by
  have removed := db.tasks.removeRange?_filter fun task => task.robotID == robotId
  simp only [saveRemovedTasks, Action.bind_apply, Action.get_apply, DbContext.tasksOf,
    removed, Action.set_apply]
  rfl

/-- Effect of a successful status save: one row is stored, under the key of the
body or, for a body without a key, under a generated one. -/
structure StatusSaved (db : DbContext) (newStatus stored : CurrentStatusModel)
    (next : DbContext) : Prop where
  tasks_eq : next.tasks = db.tasks
  waypoints_eq : next.waypoints = db.waypoints
  body : (stored = newStatus ∧ (newStatus.robotID = 0 → db.hasStatus 0 = true)) ∨
    (newStatus.robotID = 0 ∧
      stored = { newStatus with robotID := db.currentStatuses.nextKey })
  statusOf_eq : ∀ robotId, next.statusOf robotId =
    if stored.robotID = robotId then some stored else db.statusOf robotId

theorem StatusSaved.taskID_eq {db next : DbContext} {newStatus stored : CurrentStatusModel}
    (saved : StatusSaved db newStatus stored next) : stored.taskID = newStatus.taskID := by
  rcases saved.body with ⟨equal, _⟩ | ⟨_, equal⟩ <;> rw [equal]

theorem saveAddedStatus_cases (newStatus : CurrentStatusModel) (db : DbContext) :
    saveAddedStatus newStatus db = .error .dbUpdate db ∨
      ∃ stored next, saveAddedStatus newStatus db = .ok stored next ∧
        StatusSaved db newStatus stored next := by
  cases added : db.currentStatuses.add? newStatus with
  | none =>
      left
      simp only [saveAddedStatus, Action.bind_apply, Action.get_apply, added,
        Action.throw_apply]
  | some result =>
      rcases result with ⟨statuses, stored⟩
      rcases Table.add?_cases added with ⟨assigned, free, rows⟩
      right
      refine ⟨stored, { db with currentStatuses := statuses }, ?_, rfl, rfl, ?_, ?_⟩
      · simp only [saveAddedStatus, Action.bind_apply, Action.get_apply, added,
          Action.set_apply, Action.pure_apply]
      · rw [assigned]
        by_cases unassigned : newStatus.robotID = 0
        · right
          simp [Table.assignKey, unassigned]
        · left
          simp [Table.assignKey, unassigned]
      · intro robotId
        simp only [DbContext.statusOf, rows, List.find?_append, List.find?_singleton]
        by_cases owner : stored.robotID = robotId
        · subst robotId
          have missing : db.statusOf stored.robotID = none := DbContext.statusOf_eq_none.mpr free
          rw [DbContext.statusOf] at missing
          simp [missing]
        · simp [owner]

theorem saveModifiedStatus_cases (newStatus : CurrentStatusModel) (db : DbContext) :
    saveModifiedStatus newStatus db = .error .dbUpdateConcurrency db ∨
      ∃ next, saveModifiedStatus newStatus db = .ok newStatus next ∧
        StatusSaved db newStatus newStatus next := by
  cases updated : db.currentStatuses.update? newStatus with
  | none =>
      left
      simp only [saveModifiedStatus, Action.bind_apply, Action.get_apply, updated,
        Action.throw_apply]
  | some statuses =>
      rcases Table.update?_some updated with ⟨used, _, rows⟩
      right
      refine ⟨{ db with currentStatuses := statuses }, ?_, rfl, rfl,
        Or.inl ⟨rfl, fun zero => ?_⟩, ?_⟩
      · simp only [saveModifiedStatus, Action.bind_apply, Action.get_apply, updated,
          Action.set_apply, Action.pure_apply]
      · rw [key_currentStatus, zero] at used
        exact used
      · intro robotId
        split
        next owner =>
          rcases Table.hasKey_iff.mp used with ⟨old, member, oldOwner⟩
          apply DbContext.statusOf_eq_some.mpr
          refine ⟨?_, owner⟩
          rw [rows]
          exact List.mem_map.mpr ⟨old, member, by simp [show old.robotID = _ from oldOwner]⟩
        next other =>
          exact Table.find?_update? updated other

theorem saveStatus_cases (known : Bool) (newStatus : CurrentStatusModel) (db : DbContext) :
    (∃ exception, saveStatus known newStatus db = .error exception db) ∨
      ∃ stored next, saveStatus known newStatus db = .ok stored next ∧
        StatusSaved db newStatus stored next := by
  cases known with
  | false =>
      rcases saveAddedStatus_cases newStatus db with failed | saved
      · exact Or.inl ⟨_, failed⟩
      · exact Or.inr saved
  | true =>
      rcases saveModifiedStatus_cases newStatus db with failed | ⟨next, saved, effect⟩
      · exact Or.inl ⟨_, failed⟩
      · exact Or.inr ⟨newStatus, next, saved, effect⟩

/-- A body that names the robot of the route is always saved. -/
theorem saveStatus_own {robotId : Int} {newStatus : CurrentStatusModel} (db : DbContext)
    (own : newStatus.robotID = robotId) :
    ∃ stored next, saveStatus (db.hasStatus robotId) newStatus db = .ok stored next ∧
      StatusSaved db newStatus stored next ∧
      (db.hasStatus robotId = true → stored = newStatus) := by
  cases known : db.hasStatus robotId with
  | true =>
      rcases saveModifiedStatus_cases newStatus db with failed | ⟨next, saved, effect⟩
      · have used : db.currentStatuses.hasKey (Entity.key newStatus) = true := by
          rw [key_currentStatus, own]
          exact known
        rcases Table.update?_of_hasKey used with ⟨statuses, updated⟩
        simp [saveModifiedStatus, updated] at failed
      · exact ⟨newStatus, next, saved, effect, fun _ => rfl⟩
  | false =>
      rcases saveAddedStatus_cases newStatus db with failed | ⟨stored, next, saved, effect⟩
      · exfalso
        by_cases unassigned : newStatus.robotID = 0
        · have noKey : Entity.key newStatus = 0 := unassigned
          rcases db.currentStatuses.add?_generated noKey with ⟨statuses, added, _⟩
          simp [saveAddedStatus, added] at failed
        · have free : db.currentStatuses.hasKey (Entity.key newStatus) = false := by
            rw [key_currentStatus, own]
            exact known
          rcases Table.add?_own unassigned free with ⟨statuses, added, _⟩
          simp [saveAddedStatus, added] at failed
      · exact ⟨stored, next, saved, effect, by simp⟩

/-- After the status save: `UpdateCurrentStatus` clears the queue of the robot of
the route when the body has no task. -/
def afterStatus (robotId : Int) (newStatus : CurrentStatusModel) (saved : DbContext) :
    DbContext :=
  if newStatus.taskID = none then saved.clearTasks robotId else saved

theorem updateCurrentStatus_saved {robotId : Int} {newStatus stored : CurrentStatusModel}
    {db next : DbContext}
    (saved : saveStatus (db.hasStatus robotId) newStatus db = .ok stored next) :
    updateCurrentStatus robotId newStatus db =
      .ok (.createdAtAction stored) (afterStatus robotId newStatus next) := by
  simp only [updateCurrentStatus, anyStatus, Action.bind_apply, Action.get_apply,
    Action.pure_apply, saved, afterStatus]
  by_cases idle : newStatus.taskID = none
  · simp [idle, selectTasks, saveRemovedTasks_selected]
  · simp [idle]

theorem updateCurrentStatus_failed {robotId : Int} {newStatus : CurrentStatusModel}
    {exception : Exn} {db : DbContext}
    (failed : saveStatus (db.hasStatus robotId) newStatus db = .error exception db) :
    updateCurrentStatus robotId newStatus db = .error exception db := by
  simp only [updateCurrentStatus, anyStatus, Action.bind_apply, Action.get_apply,
    Action.pure_apply, failed]

/-- `UpdateCurrentStatus` either fails without a change, or stores one status row
and, for a body without a task, clears the queue of the robot of the route. -/
theorem updateCurrentStatus_cases (robotId : Int) (newStatus : CurrentStatusModel)
    (db : DbContext) :
    (∃ exception, updateCurrentStatus robotId newStatus db = .error exception db) ∨
      ∃ stored saved, StatusSaved db newStatus stored saved ∧
        updateCurrentStatus robotId newStatus db =
          .ok (.createdAtAction stored) (afterStatus robotId newStatus saved) := by
  rcases saveStatus_cases (db.hasStatus robotId) newStatus db with
    ⟨exception, failed⟩ | ⟨stored, saved, ok, effect⟩
  · exact Or.inl ⟨exception, updateCurrentStatus_failed failed⟩
  · exact Or.inr ⟨stored, saved, effect, updateCurrentStatus_saved ok⟩

/-- A robot that is known reports a task under its own id: the status is stored as it is,
and the tasks are kept. -/
theorem updateCurrentStatus_task {robotId : Int} {newStatus : CurrentStatusModel}
    {db : DbContext} (known : db.hasStatus robotId = true) (own : newStatus.robotID = robotId)
    (busy : newStatus.taskID ≠ none) :
    ∃ next, updateCurrentStatus robotId newStatus db =
        .ok (.createdAtAction newStatus) next ∧
      next.tasks = db.tasks ∧ next.statusOf robotId = some newStatus := by
  rcases saveStatus_own db own with ⟨stored, saved, ok, effect, keeps⟩
  have storedEq : stored = newStatus := keeps known
  have reported := updateCurrentStatus_saved ok
  rw [afterStatus, if_neg busy, storedEq] at reported
  refine ⟨saved, reported, effect.tasks_eq, ?_⟩
  rw [effect.statusOf_eq, storedEq, if_pos own]

@[simp] theorem afterStatus_waypoints (robotId : Int) (newStatus : CurrentStatusModel)
    (saved : DbContext) : (afterStatus robotId newStatus saved).waypoints = saved.waypoints := by
  unfold afterStatus
  split <;> rfl

@[simp] theorem afterStatus_statuses (robotId : Int) (newStatus : CurrentStatusModel)
    (saved : DbContext) :
    (afterStatus robotId newStatus saved).currentStatuses = saved.currentStatuses := by
  unfold afterStatus
  split <;> rfl

theorem afterStatus_statusOf (robotId other : Int) (newStatus : CurrentStatusModel)
    (saved : DbContext) :
    (afterStatus robotId newStatus saved).statusOf other = saved.statusOf other := by
  simp [DbContext.statusOf]

theorem afterStatus_tasksOf (robotId other : Int) (newStatus : CurrentStatusModel)
    (saved : DbContext) :
    (afterStatus robotId newStatus saved).tasksOf other =
      if newStatus.taskID = none ∧ other = robotId then [] else saved.tasksOf other := by
  unfold afterStatus
  by_cases idle : newStatus.taskID = none
  · simp [idle, DbContext.tasksOf_clearTasks]
  · simp [idle]

/-! ## Requests -/

/-- Rows of a route as stored: consecutive keys, owner and number unchanged. -/
theorem getElem?_insertedRows (db : DbContext) (newTasks : List TaskModel) (index : Nat) :
    (insertedRows db newTasks)[index]? =
      newTasks[index]?.map fun task =>
        { task with taskID := db.tasks.nextKey + index } :=
  Table.getElem?_stamp _ _ _

theorem RouteTasks.stored {robotId : Int} {newTasks : List TaskModel}
    (route : RouteTasks robotId newTasks) (db : DbContext) {index : Nat} {task : TaskModel}
    (selected : (insertedRows db newTasks)[index]? = some task) :
    task.robotID = robotId ∧ task.orderNumber = some (index : Int) ∧
      task.taskID = db.tasks.nextKey + index := by
  rw [getElem?_insertedRows, Option.map_eq_some_iff] at selected
  rcases selected with ⟨original, found, rfl⟩
  exact ⟨route.owner original (List.mem_of_getElem? found),
    route.numbered index original found, rfl⟩

theorem RouteTasks.stored_owner {robotId : Int} {newTasks : List TaskModel}
    (route : RouteTasks robotId newTasks) (db : DbContext) {task : TaskModel}
    (member : task ∈ insertedRows db newTasks) : task.robotID = robotId := by
  rcases List.mem_iff_getElem?.mp member with ⟨index, selected⟩
  exact (route.stored db selected).1

@[simp] theorem length_insertedRows (db : DbContext) (newTasks : List TaskModel) :
    (insertedRows db newTasks).length = newTasks.length :=
  Table.length_stamp _ _

/-- The queue of each robot after a route has been added. -/
theorem RouteTasks.tasksOf_added {robotId : Int} {newTasks : List TaskModel}
    (route : RouteTasks robotId newTasks) {db : DbContext} {tasks : Table TaskModel}
    (rows : tasks.rows = db.tasks.rows ++ insertedRows db newTasks) (other : Int) :
    DbContext.tasksOf { db with tasks := tasks } other =
      db.tasksOf other ++ if other = robotId then insertedRows db newTasks else [] := by
  simp only [DbContext.tasksOf, rows, List.filter_append]
  congr 1
  split
  next equal =>
    apply List.filter_eq_self.mpr
    intro task member
    simp [route.stored_owner db member, equal]
  next different =>
    apply List.filter_eq_nil_iff.mpr
    intro task member
    simp only [route.stored_owner db member, beq_iff_eq]
    exact fun equal => different equal.symm

@[simp] theorem serve_nextTask (db : DbContext) (robotId : Int) :
    serve getPathList db (.nextTask robotId) = db := by
  simp only [serve, handle, Action.after]
  rcases nextTask_db robotId db with ⟨answer, result⟩ | ⟨exception, result⟩ <;> rw [result]

variable (getPathList) in
/-- A route request changes nothing or appends one route. -/
theorem serve_navigationTasks (db : DbContext)
    (robotId startWaypointId endWaypointId : Int) :
    ((∃ exception, planRoute getPathList robotId startWaypointId endWaypointId db =
        .error exception db) ∧
      serve getPathList db (.navigationTasks robotId startWaypointId endWaypointId) = db) ∨
    (∃ newTasks tasks,
      planRoute getPathList robotId startWaypointId endWaypointId db = .ok newTasks db ∧
      RouteTasks robotId newTasks ∧
      tasks.rows = db.tasks.rows ++ insertedRows db newTasks ∧
      serve getPathList db (.navigationTasks robotId startWaypointId endWaypointId) =
        { db with tasks := tasks }) := by
  simp only [serve, handle, Action.after]
  rcases navigationTasks_cases getPathList robotId startWaypointId
    endWaypointId db with
    ⟨exception, planned, failed⟩ | ⟨newTasks, tasks, planned, route, result, rows, _⟩
  · left
    exact ⟨⟨exception, planned⟩, by rw [failed]⟩
  · right
    exact ⟨newTasks, tasks, planned, route, rows, by rw [result]⟩

variable (getPathList) in
/-- A status report changes nothing, or stores one row and perhaps clears the
queue of the robot of the route. -/
theorem serve_updateCurrentStatus (db : DbContext) (robotId : Int)
    (newStatus : CurrentStatusModel) :
    serve getPathList db (.updateCurrentStatus robotId newStatus) = db ∨
      ∃ stored saved, StatusSaved db newStatus stored saved ∧
        serve getPathList db (.updateCurrentStatus robotId newStatus) =
          afterStatus robotId newStatus saved := by
  simp only [serve, handle, Action.after]
  rcases updateCurrentStatus_cases robotId newStatus db with
    ⟨exception, failed⟩ | ⟨stored, saved, effect, result⟩
  · left
    rw [failed]
  · right
    exact ⟨stored, saved, effect, by rw [result]⟩

@[simp] theorem serve_waypoints (db : DbContext) (request : Request) :
    (serve getPathList db request).waypoints = db.waypoints := by
  cases request with
  | navigationTasks robotId startWaypointId endWaypointId =>
      rcases serve_navigationTasks getPathList db robotId startWaypointId
        endWaypointId with ⟨_, result⟩ | ⟨_, _, _, _, _, result⟩ <;> rw [result]
  | nextTask robotId => rw [serve_nextTask]
  | updateCurrentStatus robotId newStatus =>
      rcases serve_updateCurrentStatus getPathList db robotId newStatus with
        result | ⟨_, saved, effect, result⟩
      · rw [result]
      · rw [result, afterStatus_waypoints, effect.waypoints_eq]

/-- The body of a status report carries the id of its route. -/
def Request.CarriesOwnId : Request → Prop
  | .updateCurrentStatus robotId newStatus => newStatus.robotID = robotId
  | _ => True

/-- A request that leaves the rows of a robot alone: it is addressed to another
robot, and its body neither names the robot nor receives its id as a generated
key. -/
def Request.Spares (robotId : Int) (db : DbContext) (request : Request) : Prop :=
  request.robotId ≠ robotId ∧
    match request with
    | .updateCurrentStatus _ newStatus =>
        newStatus.robotID ≠ robotId ∧
          (newStatus.robotID = 0 → db.currentStatuses.nextKey ≠ robotId)
    | _ => True

/-- Rows of a robot are not touched by requests that spare it. -/
theorem serve_spares {db : DbContext} {robotId : Int} {request : Request}
    (spares : request.Spares robotId db) :
    (serve getPathList db request).tasksOf robotId = db.tasksOf robotId ∧
      (serve getPathList db request).statusOf robotId = db.statusOf robotId := by
  cases request with
  | navigationTasks other startWaypointId endWaypointId =>
      rcases serve_navigationTasks getPathList db other startWaypointId
        endWaypointId with ⟨_, result⟩ | ⟨newTasks, tasks, _, route, rows, result⟩
      · rw [result]
        exact ⟨rfl, rfl⟩
      · rw [result, route.tasksOf_added rows]
        have different : robotId ≠ other := fun equal => spares.1 equal.symm
        simp [different, DbContext.statusOf]
  | nextTask other =>
      rw [serve_nextTask]
      exact ⟨rfl, rfl⟩
  | updateCurrentStatus other newStatus =>
      rcases serve_updateCurrentStatus getPathList db other newStatus with
        result | ⟨stored, saved, effect, result⟩
      · rw [result]
        exact ⟨rfl, rfl⟩
      · have different : robotId ≠ other := fun equal => spares.1 equal.symm
        have storedOther : stored.robotID ≠ robotId := by
          rcases effect.body with ⟨equal, _⟩ | ⟨unassigned, equal⟩
          · rw [equal]
            exact spares.2.1
          · rw [equal]
            exact spares.2.2 unassigned
        rw [result, afterStatus_tasksOf, afterStatus_statusOf, effect.statusOf_eq,
          DbContext.tasksOf, effect.tasks_eq]
        simp [different, storedOther, DbContext.tasksOf]

end ECam.Server
