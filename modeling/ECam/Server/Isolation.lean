import ECam.Server.TaskQueue

/-!
# Isolation between robots

What a robot sees of the database is its status row and its queue.  Requests of
other robots should not influence it.  `UpdateCurrentStatus` tests the id of the
route and writes the id of the body, so this holds for runs in which reports of the
robot name the robot and reports of the others do not.  `PutCurrentStatus`, the
sibling handler for single rows, compares the two ids and needs no such condition.
-/

namespace ECam.Server

open ECam.Library

variable {getPathList : Int → Int → Except Exn (NetList Int)}

/-- A task up to its generated key. -/
def TaskModel.withoutKey (task : TaskModel) : TaskModel :=
  { task with taskID := 0 }

/-- The part of the database that concerns one robot, with the waypoint map that no
request of the manager changes. -/
def robotView (robotId : Int) (db : DbContext) :
    Table WaypointModel × Option CurrentStatusModel × List TaskModel :=
  (db.waypoints, db.statusOf robotId, (db.tasksOf robotId).map TaskModel.withoutKey)

/-- Condition on one request: a status report of the robot names the robot, and a
request of another robot spares its rows. -/
def Request.Respects (robotId : Int) (db : DbContext) (request : Request) : Prop :=
  if request.robotId = robotId then request.CarriesOwnId else request.Spares robotId db

/-! ## Requests of other robots -/

theorem robotView_spares {robotId : Int} {db : DbContext} {request : Request}
    (spares : request.Spares robotId db) :
    robotView robotId (serve getPathList db request) = robotView robotId db := by
  have frame : (serve getPathList db request).tasksOf robotId = db.tasksOf robotId ∧
      (serve getPathList db request).statusOf robotId = db.statusOf robotId :=
    serve_spares spares
  rw [robotView, serve_waypoints, frame.1, frame.2]
  rfl

/-! ## Requests of the robot itself -/

theorem withoutKey_insertedRows (db : DbContext) (newTasks : List TaskModel) :
    (insertedRows db newTasks).map TaskModel.withoutKey =
      newTasks.map TaskModel.withoutKey := by
  apply List.ext_getElem?
  intro index
  rw [List.getElem?_map, List.getElem?_map, getElem?_insertedRows, Option.map_map]
  rfl

variable (getPathList) in
/-- A report that names the robot of its route, seen by that robot. -/
theorem serve_ownReport {robotId : Int} {newStatus : CurrentStatusModel} (db : DbContext)
    (own : newStatus.robotID = robotId) :
    (serve getPathList db (.updateCurrentStatus robotId newStatus)).statusOf robotId =
        (if robotId = 0 ∧ db.statusOf robotId = none then none else some newStatus) ∧
      (serve getPathList db (.updateCurrentStatus robotId newStatus)).tasksOf robotId =
        if newStatus.taskID = none then [] else db.tasksOf robotId := by
  rcases saveStatus_own db own with ⟨stored, saved, ok, effect, keeps⟩
  have result : serve getPathList db (.updateCurrentStatus robotId newStatus) =
      afterStatus robotId newStatus saved := by
    simp only [serve, handle, Action.after, updateCurrentStatus_saved ok]
  rw [result, afterStatus_statusOf, afterStatus_tasksOf, effect.statusOf_eq]
  constructor
  · cases known : db.hasStatus robotId with
    | true =>
        have present : ¬db.statusOf robotId = none := by
          rw [DbContext.statusOf_eq_none, known]
          exact Bool.noConfusion
        simp [keeps known, own, present]
    | false =>
        have missing : db.statusOf robotId = none := DbContext.statusOf_eq_none.mpr known
        rw [missing]
        rcases effect.body with ⟨equal, zeroKnown⟩ | ⟨unassigned, equal⟩
        · have nonzero : robotId ≠ 0 := by
            intro zero
            rw [zero, zeroKnown (own.trans zero)] at known
            cases known
          simp [equal, own, nonzero]
        · -- the database generates a key, which is not `0`
          have positive := db.currentStatuses.nextKey_pos
          have zero : robotId = 0 := own.symm.trans unassigned
          have generated : stored.robotID ≠ robotId := by
            rw [equal]
            simp only
            omega
          rw [if_neg generated, if_pos ⟨zero, rfl⟩]
  · simp only [and_true]
    rw [DbContext.tasksOf, effect.tasks_eq]
    rfl

/-- A request of the robot acts on what the robot sees. -/
theorem robotView_own {robotId : Int} {left right : DbContext} {request : Request}
    (addressed : request.robotId = robotId) (respects : request.Respects robotId left)
    (same : robotView robotId left = robotView robotId right) :
    robotView robotId (serve getPathList left request) =
      robotView robotId (serve getPathList right request) := by
  simp only [robotView, Prod.mk.injEq] at same
  rcases same with ⟨sameWaypoints, sameStatus, sameTasks⟩
  rw [Request.Respects, if_pos addressed] at respects
  cases request with
  | nextTask route =>
      simp only [serve_nextTask, robotView, sameWaypoints, sameStatus, sameTasks]
  | navigationTasks route startWaypointId endWaypointId =>
      have sameRoute : route = robotId := addressed
      subst route
      rcases planRoute_reads getPathList robotId startWaypointId endWaypointId with
        ⟨read, readEq⟩
      have leftPlan := readEq left
      have rightPlan := readEq right
      rw [← sameWaypoints] at rightPlan
      rcases serve_navigationTasks getPathList left robotId startWaypointId endWaypointId with
        ⟨⟨exception, leftFailed⟩, leftResult⟩ |
          ⟨newTasks, leftTasks, leftPlanned, leftRoute, leftRows, leftResult⟩ <;>
      rcases serve_navigationTasks getPathList right robotId startWaypointId
        endWaypointId with ⟨⟨other, rightFailed⟩, rightResult⟩ |
          ⟨otherTasks, rightTasks, rightPlanned, rightRoute, rightRows, rightResult⟩
      · simp only [leftResult, rightResult, robotView, sameWaypoints, sameStatus, sameTasks]
      · rw [leftFailed] at leftPlan
        rw [rightPlanned] at rightPlan
        cases result : read left.waypoints <;> simp [result] at leftPlan rightPlan
      · rw [leftPlanned] at leftPlan
        rw [rightFailed] at rightPlan
        cases result : read left.waypoints <;> simp [result] at leftPlan rightPlan
      · have samePlan : newTasks = otherTasks := by
          rw [leftPlanned] at leftPlan
          rw [rightPlanned] at rightPlan
          cases result : read left.waypoints with
          | error exception => simp [result] at leftPlan
          | ok tasks =>
              simp only [result, outcome_ok, EStateM.Result.ok.injEq, and_true]
                at leftPlan rightPlan
              rw [leftPlan, rightPlan]
        simp only [leftResult, rightResult, robotView, leftRoute.tasksOf_added leftRows,
          rightRoute.tasksOf_added rightRows, if_pos, List.map_append, sameTasks,
          withoutKey_insertedRows, samePlan, Prod.mk.injEq, and_true]
        exact ⟨sameWaypoints, sameStatus⟩
  | updateCurrentStatus route newStatus =>
      have sameRoute : route = robotId := addressed
      have named : newStatus.robotID = route := respects
      have own : newStatus.robotID = robotId := named.trans sameRoute
      rw [sameRoute]
      have leftView := serve_ownReport getPathList left own
      have rightView := serve_ownReport getPathList right own
      simp only [robotView, serve_waypoints, leftView, rightView, sameWaypoints, sameStatus,
        Prod.mk.injEq, true_and]
      split
      next => rfl
      next => exact sameTasks

/-! ## Runs -/

/-- Isolation.  In two runs from one database whose requests respect the robot and
that contain the same requests of the robot, the robot ends with the same status row
and, up to generated keys, the same queue. -/
theorem requests_isolated (db : DbContext) (robotId : Int) (left right : List Request)
    (leftRespects : EachStep (serve getPathList) (Request.Respects robotId) db left)
    (rightRespects : EachStep (serve getPathList) (Request.Respects robotId) db right)
    (sameRequests : left.filter (fun request => request.robotId == robotId) =
      right.filter (fun request => request.robotId == robotId)) :
    (serveAll getPathList db left).statusOf robotId =
        (serveAll getPathList db right).statusOf robotId ∧
      ((serveAll getPathList db left).tasksOf robotId).map TaskModel.withoutKey =
        ((serveAll getPathList db right).tasksOf robotId).map TaskModel.withoutKey := by
  have sameView : robotView robotId (serveAll getPathList db left) =
      robotView robotId (serveAll getPathList db right) := by
    refine view_foldl_eq ?_ ?_ leftRespects rightRespects sameRequests
    · intro state request respects unseen
      have foreign : ¬request.robotId = robotId := by simpa using unseen
      rw [Request.Respects, if_neg foreign] at respects
      exact robotView_spares respects
    · intro leftState rightState request respects seen same
      have addressed : request.robotId = robotId := by simpa using seen
      exact robotView_own addressed respects same
  simp only [robotView, Prod.mk.injEq] at sameView
  exact sameView.2

/-- Robots `7` and `8` have reported, and neither has a queue. -/
def pairContext : DbContext where
  waypoints := connectedContext.waypoints
  currentStatuses := {
    rows := [⟨7, some 1, none, none⟩, ⟨8, some 2, none, none⟩]
    nextKey := 9
    keys_nodup := by decide
    keys_lt := by decide
    nextKey_pos := by decide }
  tasks := .empty

/-- The isolation theorem for robot `7` with a report of robot `8`. -/
theorem requests_isolated_pair :
    (serveAll connectedPathfinder.getPath pairContext
        [.updateCurrentStatus 8 ⟨8, some 5, none, none⟩, .nextTask 7]).statusOf 7 =
      (serveAll connectedPathfinder.getPath pairContext [.nextTask 7]).statusOf 7 :=
  (requests_isolated pairContext 7
    [.updateCurrentStatus 8 ⟨8, some 5, none, none⟩, .nextTask 7] [.nextTask 7]
    (by simp [EachStep, Request.Respects, Request.robotId, Request.Spares,
      Request.CarriesOwnId])
    (by simp [EachStep, Request.Respects, Request.robotId, Request.CarriesOwnId])
    (by decide)).1

/-- A report addressed to robot `8` with a body for robot `7` rewrites the row of
robot `7`, although the two runs have the same requests of robot `7`. -/
theorem requests_not_isolated :
    [Request.updateCurrentStatus 8 ⟨7, some 5, none, none⟩].filter
        (fun request => request.robotId == 7) =
      ([] : List Request).filter (fun request => request.robotId == 7) ∧
    (serveAll connectedPathfinder.getPath pairContext
        [.updateCurrentStatus 8 ⟨7, some 5, none, none⟩]).statusOf 7 ≠
      (serveAll connectedPathfinder.getPath pairContext []).statusOf 7 := by
  decide

/-! ## The sibling handler -/

/-- `PutCurrentStatus`. -/
def putCurrentStatus (id : Int) (currentStatus : CurrentStatusModel) : Action ActionResult :=
  if id ≠ currentStatus.robotID then
    pure .badRequest
  else do
    let db ← get
    match saveModifiedStatus currentStatus db with
    | .ok _ next =>
        set next
        return .noContent
    | .error .dbUpdateConcurrency _ =>
        if !(← anyStatus id) then
          return .notFound
        else
          throw .dbUpdateConcurrency
    | .error exception _ => throw exception

/-- `PutCurrentStatus` writes no status row but that of its route, whatever the
body. -/
theorem putCurrentStatus_isolated {id robotId : Int} (currentStatus : CurrentStatusModel)
    (db : DbContext) (different : id ≠ robotId) :
    ((putCurrentStatus id currentStatus).after db).statusOf robotId =
        db.statusOf robotId ∧
      ((putCurrentStatus id currentStatus).after db).tasks = db.tasks := by
  by_cases named : id = currentStatus.robotID
  · subst id
    rcases saveModifiedStatus_cases currentStatus db with failed | ⟨next, saved, effect⟩
    · cases known : db.hasStatus currentStatus.robotID <;>
        simp [putCurrentStatus, Action.after, failed, anyStatus, known]
    · have result : (putCurrentStatus currentStatus.robotID currentStatus).after db = next := by
        simp [putCurrentStatus, Action.after, saved]
      rw [result, effect.statusOf_eq, if_neg different]
      exact ⟨rfl, effect.tasks_eq⟩
  · simp [putCurrentStatus, named, Action.after]

end ECam.Server
