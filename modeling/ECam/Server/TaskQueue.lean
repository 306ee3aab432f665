import ECam.Library.Run
import ECam.Server.Effects

/-!
# Order numbers in the task queue

`NextTask` looks up the successor of a task by robot and order number and relies on
there being at most one.  No handler checks this.  It holds along a run exactly
when every route is requested for a robot whose queue is empty: `NavigationTasks`
numbers its tasks from `0` on, whatever the table already holds.
-/

namespace ECam.Server

open ECam.Library

variable {getPathList : Int → Int → Except Exn (NetList Int)}

/-- For every robot and every number there is at most one task row. -/
def UniqueOrderNumbers (db : DbContext) : Prop :=
  ∀ (robotId number : Int) (left right : TaskModel),
    left ∈ db.tasks.rows → right ∈ db.tasks.rows →
    left.robotID = robotId → right.robotID = robotId →
    left.orderNumber = some number → right.orderNumber = some number → left = right

/-- What the manager relies on in the external pathfinder: a path it finds is a
non-empty list of existing waypoint ids. -/
def PathsExist (getPathList : Int → Int → Except Exn (NetList Int)) (db : DbContext) : Prop :=
  ∀ startWaypointId endWaypointId path,
    getPathList startWaypointId endWaypointId = .ok path →
      path.items ≠ [] ∧ ∀ waypointId ∈ path.items, db.waypoints.hasKey waypointId = true

/-- A route for which a path is found is requested with an empty queue. -/
def QueueIsEmpty (getPathList : Int → Int → Except Exn (NetList Int)) (db : DbContext)
    (request : Request) : Prop :=
  match request with
  | .navigationTasks robotId startWaypointId endWaypointId =>
      ∀ path, getPathList startWaypointId endWaypointId = .ok path →
        db.tasksOf robotId = []
  | _ => True

/-- A queue that is not empty has a task with number `0`. -/
def QueuesStartAtZero (db : DbContext) : Prop :=
  ∀ robotId, db.tasksOf robotId ≠ [] →
    ∃ task ∈ db.tasksOf robotId, task.orderNumber = some 0

/-! ## Paths that exist are planned -/

theorem firstWaypoint_of_hasKey {db : DbContext} {waypointId : Int}
    (present : db.waypoints.hasKey waypointId = true) :
    ∃ waypoint, firstWaypoint waypointId db = .ok waypoint db := by
  simp only [firstWaypoint, Action.bind_apply, Action.get_apply, firstAsync]
  cases found : db.waypoints.rows.find? fun waypoint => waypoint.waypointId == waypointId with
  | none =>
      rcases Table.hasKey_iff.mp present with ⟨row, member, owner⟩
      have missing := List.find?_eq_none.mp found row member
      simp [show row.waypointId = waypointId from owner] at missing
  | some waypoint => exact ⟨waypoint, rfl⟩

theorem waypointsFromListAsync_of_hasKey {db : DbContext} {waypointIds : List Int}
    (exist : ∀ waypointId ∈ waypointIds, db.waypoints.hasKey waypointId = true) :
    ∃ result, waypointsFromListAsync waypointIds db = .ok result db := by
  induction waypointIds with
  | nil => exact ⟨[], rfl⟩
  | cons waypointId rest ih =>
      rcases firstWaypoint_of_hasKey (exist waypointId (by simp)) with ⟨waypoint, first⟩
      rcases ih (fun other member => exist other (by simp [member])) with ⟨result, others⟩
      refine ⟨waypoint :: result, ?_⟩
      simp [waypointsFromListAsync, first, others]

theorem planRoute_of_path {db : DbContext} {startWaypointId endWaypointId : Int}
    {path : NetList Int} (robotId : Int)
    (found : getPathList startWaypointId endWaypointId = .ok path)
    (nonempty : path.items ≠ [])
    (exist : ∀ waypointId ∈ path.items, db.waypoints.hasKey waypointId = true) :
    ∃ newTasks, planRoute getPathList robotId startWaypointId endWaypointId db =
      .ok newTasks db := by
  rcases waypointsFromListAsync_of_hasKey exist with ⟨waypoints, resolved⟩
  have positive : 0 < path.items.length := List.length_pos_iff.mpr nonempty
  have lastInBounds : path.items.length - 1 < path.items.length := by omega
  refine ⟨routeTasks robotId path.items[0] path.items[path.items.length - 1] waypoints, ?_⟩
  simp only [planRoute, found, Action.bind_apply, resolved, elementAt,
    List.getElem?_eq_getElem positive, List.getElem?_eq_getElem lastInBounds,
    Action.pure_apply]

theorem PathsExist.serve {db : DbContext} (paths : PathsExist getPathList db)
    (request : Request) : PathsExist getPathList (serve getPathList db request) := by
  intro startWaypointId endWaypointId path found
  rw [serve_waypoints]
  exact paths startWaypointId endWaypointId path found

/-! ## Steps -/

theorem RouteTasks.head {robotId : Int} {newTasks : List TaskModel}
    (route : RouteTasks robotId newTasks) (db : DbContext) :
    ∃ task ∈ insertedRows db newTasks, task.robotID = robotId ∧
      task.orderNumber = some 0 ∧ db.tasks.nextKey ≤ task.taskID := by
  have inBounds : 0 < (insertedRows db newTasks).length := by
    have two := route.two_le_length
    rw [length_insertedRows]
    omega
  have selected := List.getElem?_eq_getElem inBounds
  have facts := route.stored db selected
  refine ⟨_, List.getElem_mem inBounds, facts.1, facts.2.1, ?_⟩
  rw [facts.2.2]
  omega

/-- Appending a route to an empty queue keeps the numbers unique. -/
theorem RouteTasks.unique_added {robotId : Int} {newTasks : List TaskModel}
    (route : RouteTasks robotId newTasks) {db : DbContext} {tasks : Table TaskModel}
    (rows : tasks.rows = db.tasks.rows ++ insertedRows db newTasks)
    (unique : UniqueOrderNumbers db) (empty : db.tasksOf robotId = []) :
    UniqueOrderNumbers { db with tasks := tasks } := by
  have notOld : ∀ task ∈ db.tasks.rows, task.robotID ≠ robotId := by
    intro task member owner
    have queued : task ∈ db.tasksOf robotId := DbContext.mem_tasksOf.mpr ⟨member, owner⟩
    rw [empty] at queued
    cases queued
  intro owner number left right leftMember rightMember leftOwner rightOwner leftNumber
    rightNumber
  simp only [rows, List.mem_append] at leftMember rightMember
  rcases leftMember with leftOld | leftNew <;> rcases rightMember with rightOld | rightNew
  · exact unique owner number left right leftOld rightOld leftOwner rightOwner leftNumber
      rightNumber
  · have newOwner := route.stored_owner db rightNew
    exact absurd (leftOwner.trans (rightOwner.symm.trans newOwner)) (notOld left leftOld)
  · have newOwner := route.stored_owner db leftNew
    exact absurd (rightOwner.trans (leftOwner.symm.trans newOwner)) (notOld right rightOld)
  · -- both rows are new: the number is the position in the route
    rcases List.mem_iff_getElem?.mp leftNew with ⟨leftIndex, leftSelected⟩
    rcases List.mem_iff_getElem?.mp rightNew with ⟨rightIndex, rightSelected⟩
    have leftFacts := route.stored db leftSelected
    have rightFacts := route.stored db rightSelected
    have sameIndex : leftIndex = rightIndex := by
      have numbers := leftFacts.2.1.symm.trans (leftNumber.trans
        (rightNumber.symm.trans rightFacts.2.1))
      simpa using numbers
    rw [sameIndex, rightSelected] at leftSelected
    exact (Option.some.inj leftSelected).symm

theorem UniqueOrderNumbers.of_subset {db next : DbContext} (unique : UniqueOrderNumbers db)
    (subset : ∀ task ∈ next.tasks.rows, task ∈ db.tasks.rows) :
    UniqueOrderNumbers next := by
  intro robotId number left right leftMember rightMember
  exact unique robotId number left right (subset left leftMember) (subset right rightMember)

/-- A status report only removes task rows. -/
theorem serve_updateCurrentStatus_subset (db : DbContext) (robotId : Int)
    (newStatus : CurrentStatusModel) (task : TaskModel)
    (member : task ∈ (serve getPathList db
      (.updateCurrentStatus robotId newStatus)).tasks.rows) : task ∈ db.tasks.rows := by
  rcases serve_updateCurrentStatus getPathList db robotId newStatus with
    result | ⟨stored, saved, effect, result⟩
  · rwa [result] at member
  · rw [result] at member
    unfold afterStatus at member
    split at member
    next =>
      rw [DbContext.clearTasks_rows, List.mem_filter, effect.tasks_eq] at member
      exact member.1
    next => rwa [effect.tasks_eq] at member

/-- One request keeps the order numbers unique if routes find an empty queue. -/
theorem serve_unique {db : DbContext} {request : Request}
    (unique : UniqueOrderNumbers db) (condition : QueueIsEmpty getPathList db request) :
    UniqueOrderNumbers (serve getPathList db request) := by
  cases request with
  | navigationTasks robotId startWaypointId endWaypointId =>
      rcases serve_navigationTasks getPathList db robotId startWaypointId endWaypointId with
        ⟨_, result⟩ | ⟨newTasks, tasks, planned, route, rows, result⟩
      · rw [result]
        exact unique
      · rw [result]
        cases found : getPathList startWaypointId endWaypointId with
        | error exception => simp [planRoute, found] at planned
        | ok path => exact route.unique_added rows unique (condition path found)
  | nextTask robotId =>
      rw [serve_nextTask]
      exact unique
  | updateCurrentStatus robotId newStatus =>
      exact unique.of_subset (serve_updateCurrentStatus_subset db robotId newStatus)

/-- Queues are filled from `0` on and emptied as a whole. -/
theorem serve_startAtZero {db : DbContext} (request : Request)
    (start : QueuesStartAtZero db) : QueuesStartAtZero (serve getPathList db request) := by
  cases request with
  | navigationTasks robotId startWaypointId endWaypointId =>
      rcases serve_navigationTasks getPathList db robotId startWaypointId endWaypointId with
        ⟨_, result⟩ | ⟨newTasks, tasks, _, route, rows, result⟩
      · rw [result]
        exact start
      · rw [result]
        intro other nonempty
        rw [route.tasksOf_added rows] at nonempty ⊢
        by_cases owner : other = robotId
        · rcases route.head db with ⟨task, member, _, number, _⟩
          exact ⟨task, by simp [owner, member], number⟩
        · simp only [owner, if_false, List.append_nil] at nonempty ⊢
          exact start other nonempty
  | nextTask robotId =>
      rw [serve_nextTask]
      exact start
  | updateCurrentStatus robotId newStatus =>
      rcases serve_updateCurrentStatus getPathList db robotId newStatus with
        result | ⟨stored, saved, effect, result⟩
      · rw [result]
        exact start
      · rw [result]
        intro other nonempty
        rw [afterStatus_tasksOf] at nonempty ⊢
        split at nonempty
        next => exact absurd rfl nonempty
        next kept =>
          rw [if_neg kept]
          rw [DbContext.tasksOf, effect.tasks_eq] at nonempty ⊢
          exact start other nonempty

/-- A route request that keeps the numbers unique has found an empty queue. -/
theorem queueIsEmpty_of_unique {db : DbContext} {request : Request}
    (paths : PathsExist getPathList db) (start : QueuesStartAtZero db)
    (unique : UniqueOrderNumbers (serve getPathList db request)) :
    QueueIsEmpty getPathList db request := by
  cases request with
  | nextTask robotId => trivial
  | updateCurrentStatus robotId newStatus => trivial
  | navigationTasks robotId startWaypointId endWaypointId =>
      intro path found
      by_contra nonempty
      rcases start robotId nonempty with ⟨old, oldMember, oldNumber⟩
      rw [DbContext.mem_tasksOf] at oldMember
      rcases serve_navigationTasks getPathList db robotId startWaypointId endWaypointId with
        ⟨⟨exception, failed⟩, _⟩ | ⟨newTasks, tasks, _, route, rows, result⟩
      · rcases paths startWaypointId endWaypointId path found with ⟨someId, exist⟩
        rcases planRoute_of_path robotId found someId exist with ⟨newTasks, planned⟩
        rw [planned] at failed
        cases failed
      · -- the old and the new task with number `0` are two rows
        rw [result] at unique
        rcases route.head db with ⟨new, newMember, newOwner, newNumber, newKey⟩
        have same := unique robotId 0 old new (by simp [rows, oldMember.1])
          (by simp [rows, newMember]) oldMember.2 newOwner oldNumber newNumber
        have below := db.tasks.keys_lt old oldMember.1
        rw [same, key_task] at below
        omega

/-! ## Runs -/

theorem always_unique_iff {db : DbContext} (paths : PathsExist getPathList db)
    (start : QueuesStartAtZero db) (unique : UniqueOrderNumbers db)
    (requests : List Request) :
    Always (serve getPathList) UniqueOrderNumbers db requests ↔
      EachStep (serve getPathList) (QueueIsEmpty getPathList) db requests := by
  induction requests generalizing db with
  | nil => simp [Always, EachStep, unique]
  | cons request requests ih =>
      have later : ∀ holds : UniqueOrderNumbers (serve getPathList db request),
          Always (serve getPathList) UniqueOrderNumbers (serve getPathList db request)
              requests ↔
            EachStep (serve getPathList) (QueueIsEmpty getPathList)
              (serve getPathList db request) requests :=
        fun holds => ih (paths.serve request) (serve_startAtZero request start) holds
      constructor
      · rintro ⟨_, rest⟩
        have next : UniqueOrderNumbers (serve getPathList db request) :=
          always_iff_prefix.mp rest [] requests rfl
        exact ⟨queueIsEmpty_of_unique paths start next, (later next).mp rest⟩
      · rintro ⟨condition, rest⟩
        exact ⟨unique, (later (serve_unique unique condition)).mpr rest⟩

/-- Along a run from a database without tasks the order numbers of every robot
stay unique if and only if each route is requested for a robot with an empty
queue. -/
theorem orderNumbers_unique_iff (db : DbContext) (paths : PathsExist getPathList db)
    (noTasks : db.tasks.rows = []) (requests : List Request) :
    Always (serve getPathList) UniqueOrderNumbers db requests ↔
      EachStep (serve getPathList) (QueueIsEmpty getPathList) db requests := by
  apply always_unique_iff paths
  · intro robotId nonempty
    simp [DbContext.tasksOf, noTasks] at nonempty
  · intro robotId number left right leftMember
    simp [noTasks] at leftMember

/-! ## Two routes in one queue -/

/-- A map with the waypoints `1` and `2`, connected at the right side of `1`. -/
def connectedContext : DbContext where
  waypoints := {
    rows := [⟨1, some 11, none, none, none, some "0.5", none, none, none, none, some 2,
        none, none, none, some "3", none, none⟩,
      ⟨2, none, some 12, none, none, none, some "0.7", none, none, some 1, none,
        none, none, some "3", none, none, none⟩]
    nextKey := 3
    keys_nodup := by decide
    keys_lt := by decide
    nextKey_pos := (by decide : (1 : Int) ≤ 3) }
  currentStatuses := .empty
  tasks := .empty

/-- The pathfinder on that map. -/
def connectedPathfinder : Pathfinder Int where
  nodeId := id
  waypoints := [1, 2]
  search := fun startWaypoint endWaypoint =>
    if startWaypoint = endWaypoint then
      .ok ⟨[startWaypoint], by simp⟩
    else
      .ok ⟨[startWaypoint, endWaypoint], by simp⟩

theorem connectedPathfinder_exists :
    PathsExist connectedPathfinder.getPath connectedContext := by
  intro idStart idEnd path found
  unfold Pathfinder.getPath at found
  split at found
  next startWaypoint endWaypoint startFound endFound =>
    have known : ∀ waypointId ∈ connectedPathfinder.waypoints,
        connectedContext.waypoints.hasKey waypointId = true := by decide
    have first := known _ (List.mem_of_find?_eq_some startFound)
    have last := known _ (List.mem_of_find?_eq_some endFound)
    by_cases same : startWaypoint = endWaypoint
    · simp only [connectedPathfinder, if_pos same, Except.ok.injEq] at found
      rw [← found]
      simpa using first
    · simp only [connectedPathfinder, if_neg same, Except.ok.injEq] at found
      rw [← found]
      simpa using ⟨first, last⟩
  next => cases found

/-- The commands of the route from `1` to `2`. -/
def pairCommand : Int → String
  | 0 => CommandConstructor.goto 1 none none none
  | 1 => CommandConstructor.goto 1 (some 12) (some "0.7") (some "RIGHT")
  | _ => CommandConstructor.goto 2 none none none

/-- A task of robot `7` for this route, as stored. -/
def pairTask (taskID orderNumber : Int) : TaskModel where
  taskID := taskID
  robotID := 7
  orderNumber := some orderNumber
  command := some (pairCommand orderNumber)

/-- The status of robot `7` waiting for work. -/
def idleStatus : CurrentStatusModel where
  robotID := 7
  taskID := none
  qrIdInFront := none
  qrDistanceInFront := none

/-- Robot `7` has reported itself waiting. -/
def idleContext : DbContext :=
  (updateCurrentStatus 7 idleStatus).after connectedContext

/-- Robot `7` waits with a route of three tasks. -/
def queuedContext : DbContext :=
  serve connectedPathfinder.getPath idleContext (.navigationTasks 7 1 2)

/-- The equivalence at a run with two routes for robot `7`. -/
theorem orderNumbers_unique_iff_pair :
    Always (serve connectedPathfinder.getPath) UniqueOrderNumbers connectedContext
        [.navigationTasks 7 1 2, .navigationTasks 7 1 2] ↔
      EachStep (serve connectedPathfinder.getPath) (QueueIsEmpty connectedPathfinder.getPath)
        connectedContext [.navigationTasks 7 1 2, .navigationTasks 7 1 2] :=
  orderNumbers_unique_iff connectedContext connectedPathfinder_exists rfl _

/-- Two routes requested one after the other put two tasks with number `0` into
the queue of the robot. -/
theorem orderNumbers_not_unique :
    PathsExist connectedPathfinder.getPath connectedContext ∧ connectedContext.tasks.rows = [] ∧
      ¬Always (serve connectedPathfinder.getPath) UniqueOrderNumbers connectedContext
        [.navigationTasks 7 1 2, .navigationTasks 7 1 2] := by
  refine ⟨connectedPathfinder_exists, rfl, ?_⟩
  intro always
  have rows : ([Request.navigationTasks 7 1 2, .navigationTasks 7 1 2].foldl
      (serve connectedPathfinder.getPath) connectedContext).tasks.rows =
        [pairTask 1 0, pairTask 2 1, pairTask 3 2, pairTask 4 0, pairTask 5 1, pairTask 6 2] := rfl
  have same := always.last 7 0 (pairTask 1 0) (pairTask 4 0) (by rw [rows]; simp)
    (by rw [rows]; simp) rfl rfl rfl rfl
  simp [pairTask] at same

end ECam.Server
