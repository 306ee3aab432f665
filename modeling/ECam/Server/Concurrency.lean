import ECam.Library.Interleaving
import ECam.Server.TaskQueue

/-!
# Requests split into database calls

`UpdateCurrentStatus` and `NavigationTasks` as sequences of atomic database calls,
for requests of one robot that the server handles at the same time.  Each call is
the query or save of the same name in the handler, so a request whose calls run
without interruption does what its handler does.
-/

namespace ECam.Server

open ECam.Library

variable (getPathList : Int → Int → Except Exn (NetList Int)) (robotId : Int)

/-- The requests considered here, all addressed to one robot. -/
inductive RobotRequest where
  | updateCurrentStatus (newStatus : CurrentStatusModel)
  | navigationTasks (startWaypointId endWaypointId : Int)
  deriving DecidableEq

/-- The request as the manager receives it. -/
def RobotRequest.toRequest (robotId : Int) : RobotRequest → Request
  | .updateCurrentStatus newStatus => .updateCurrentStatus robotId newStatus
  | .navigationTasks startWaypointId endWaypointId =>
      .navigationTasks robotId startWaypointId endWaypointId

/-- Where a request stands: the database call it makes next, with the data its
handler holds at that point. -/
inductive Stage where
  | check (newStatus : CurrentStatusModel)
  | save (known : Bool) (newStatus : CurrentStatusModel)
  | select
  | delete (oldTasks : List TaskModel)
  | findPath (startWaypointId endWaypointId : Int)
  | read (path : NetList Int) (remaining : List Int) (pathWaypoints : List WaypointModel)
  | done

/-- The next call of a request. -/
def Stage.next : Stage → Action Stage
  | .check newStatus => do
      return .save (← anyStatus robotId) newStatus
  | .save known newStatus => do
      let _ ← saveStatus known newStatus
      return if newStatus.taskID = none then .select else .done
  | .select => do
      return .delete (← selectTasks robotId)
  | .delete oldTasks => do
      saveRemovedTasks oldTasks
      return .done
  | .findPath startWaypointId endWaypointId =>
      match getPathList startWaypointId endWaypointId with
      | .error exception => throw exception
      | .ok path => return .read path path.items []
  | .read path (waypointId :: remaining) pathWaypoints => do
      let waypoint ← firstWaypoint waypointId
      return .read path remaining (pathWaypoints ++ [waypoint])
  | .read path [] pathWaypoints => do
      let firstId ← elementAt path.items 0
      let lastId ← elementAt path.items (path.items.length - 1)
      saveAddedTasks (routeTasks robotId firstId lastId pathWaypoints)
      return .done
  | .done => throw .invalidOperation

/-- A request that is being handled. -/
structure Job where
  request : RobotRequest
  stage : Stage

/-- The stage a request starts in. -/
def RobotRequest.firstStage : RobotRequest → Stage
  | .updateCurrentStatus newStatus => .check newStatus
  | .navigationTasks startWaypointId endWaypointId =>
      .findPath startWaypointId endWaypointId

def RobotRequest.toJob (request : RobotRequest) : Job where
  request := request
  stage := request.firstStage

/-- One atomic step of a job; a call that throws is no step. -/
def Job.step (job : Job) (db : DbContext) : Option (Job × DbContext) :=
  match job.stage.next getPathList robotId db with
  | .ok stage next => some ({ job with stage := stage }, next)
  | .error _ _ => none

variable {getPathList robotId}

theorem Job.step_of_next {request : RobotRequest} {stage after : Stage} {db next : DbContext}
    (call : stage.next getPathList robotId db = .ok after next) :
    Job.step getPathList robotId ⟨request, stage⟩ db = some (⟨request, after⟩, next) := by
  simp only [Job.step, call]

theorem Job.step_some {job after : Job} {db next : DbContext}
    (taken : job.step getPathList robotId db = some (after, next)) :
    after.request = job.request ∧
      job.stage.next getPathList robotId db = .ok after.stage next := by
  simp only [Job.step] at taken
  cases call : job.stage.next getPathList robotId db with
  | error exception failed => simp [call] at taken
  | ok stage result =>
      simp only [call, Option.some.injEq, Prod.mk.injEq] at taken
      rw [← taken.1, ← taken.2]
      exact ⟨rfl, rfl⟩

/-! ## An uninterrupted request -/

/-- Reading the waypoints of a path one call at a time. -/
theorem interleaved_reads {request : RobotRequest} {path : NetList Int}
    {remaining : List Int} {pathWaypoints rest : List WaypointModel} {db : DbContext}
    {left right : List Job}
    (resolved : waypointsFromListAsync remaining db = .ok rest db) :
    Interleaved (Job.step getPathList robotId)
      (db, left ++ ⟨request, .read path remaining pathWaypoints⟩ :: right)
      (db, left ++ ⟨request, .read path [] (pathWaypoints ++ rest)⟩ :: right) := by
  induction remaining generalizing pathWaypoints rest with
  | nil =>
      simp only [waypointsFromListAsync, Action.pure_apply, EStateM.Result.ok.injEq] at resolved
      rw [← resolved.1, List.append_nil]
      exact .refl
  | cons waypointId remaining ih =>
      simp only [waypointsFromListAsync, Action.bind_apply] at resolved
      rcases firstWaypoint_reads waypointId with ⟨read, readEq⟩
      cases found : read db.waypoints with
      | error exception => simp [readEq, found] at resolved
      | ok waypoint =>
          have first : firstWaypoint waypointId db = .ok waypoint db := by
            rw [readEq, found, outcome_ok]
          rcases waypointsFromListAsync_reads remaining with ⟨readRest, readRestEq⟩
          cases others : readRest db.waypoints with
          | error exception => simp [first, readRestEq, others] at resolved
          | ok waypoints =>
              have restResolved : waypointsFromListAsync remaining db = .ok waypoints db := by
                rw [readRestEq, others, outcome_ok]
              simp only [first, restResolved, Action.pure_apply, EStateM.Result.ok.injEq]
                at resolved
              have call : Stage.next getPathList robotId
                  (.read path (waypointId :: remaining) pathWaypoints) db =
                    .ok (.read path remaining (pathWaypoints ++ [waypoint])) db := by
                simp [Stage.next, first]
              have later := @ih (pathWaypoints ++ [waypoint]) waypoints restResolved
              rw [List.append_assoc] at later
              rw [← resolved.1]
              exact (Interleaved.single (Job.step_of_next call)).trans later

/-- The calls of a status report without interruption. -/
theorem interleaved_report {newStatus stored : CurrentStatusModel} {db saved : DbContext}
    {left right : List Job}
    (ok : saveStatus (db.hasStatus robotId) newStatus db = .ok stored saved) :
    Interleaved (Job.step getPathList robotId)
      (db, left ++ (RobotRequest.updateCurrentStatus newStatus).toJob :: right)
      (afterStatus robotId newStatus saved,
        left ++ ⟨.updateCurrentStatus newStatus, .done⟩ :: right) := by
  have check : Stage.next getPathList robotId (.check newStatus) db =
      .ok (.save (db.hasStatus robotId) newStatus) db := by
    simp [Stage.next, anyStatus]
  have save : Stage.next getPathList robotId (.save (db.hasStatus robotId) newStatus) db =
      .ok (if newStatus.taskID = none then .select else .done) saved := by
    simp [Stage.next, ok]
  have checked : Interleaved (Job.step getPathList robotId)
      (db, left ++ ⟨.updateCurrentStatus newStatus, .check newStatus⟩ :: right)
      (db, left ++ ⟨.updateCurrentStatus newStatus,
        .save (db.hasStatus robotId) newStatus⟩ :: right) :=
    .single (Job.step_of_next check)
  have saving := checked.trans (.single (Job.step_of_next save))
  by_cases idle : newStatus.taskID = none
  · rw [if_pos idle] at saving
    have select : Stage.next getPathList robotId .select saved =
        .ok (.delete (saved.tasksOf robotId)) saved := by
      simp [Stage.next, selectTasks]
    have delete : Stage.next getPathList robotId (.delete (saved.tasksOf robotId)) saved =
        .ok .done (saved.clearTasks robotId) := by
      simp [Stage.next, saveRemovedTasks_selected]
    have selecting := saving.trans (.single (Job.step_of_next select))
    have deleting := selecting.trans (.single (Job.step_of_next delete))
    rw [afterStatus, if_pos idle]
    exact deleting
  · rw [if_neg idle] at saving
    rw [afterStatus, if_neg idle]
    exact saving

/-- The last call of a route request. -/
theorem Stage.next_insert {path : NetList Int} {pathWaypoints : List WaypointModel}
    {firstId lastId : Int} {db next : DbContext}
    (first : path.items[0]? = some firstId)
    (last : path.items[path.items.length - 1]? = some lastId)
    (saved : saveAddedTasks (routeTasks robotId firstId lastId pathWaypoints) db =
      .ok () next) :
    Stage.next getPathList robotId (.read path [] pathWaypoints) db = .ok .done next := by
  simp [Stage.next, elementAt, first, last, saved]

/-- A request whose calls run without interruption does what its handler does. -/
theorem interleaved_handler {request : RobotRequest} {answer : ActionResult}
    {db next : DbContext} {left right : List Job}
    (handled : handle getPathList (request.toRequest robotId) db = .ok answer next) :
    Interleaved (Job.step getPathList robotId)
      (db, left ++ request.toJob :: right) (next, left ++ ⟨request, .done⟩ :: right) := by
  cases request with
  | updateCurrentStatus newStatus =>
      change updateCurrentStatus robotId newStatus db = .ok answer next at handled
      rcases saveStatus_cases (db.hasStatus robotId) newStatus db with
        ⟨exception, failed⟩ | ⟨stored, saved, ok, _⟩
      · rw [updateCurrentStatus_failed failed] at handled
        cases handled
      · rw [updateCurrentStatus_saved ok, EStateM.Result.ok.injEq] at handled
        rw [← handled.2]
        exact interleaved_report ok
  | navigationTasks startWaypointId endWaypointId =>
      change navigationTasks getPathList robotId startWaypointId endWaypointId db =
        .ok answer next at handled
      rcases navigationTasks_cases getPathList robotId startWaypointId endWaypointId db with
        ⟨exception, _, failed⟩ | ⟨newTasks, tasks, planned, route, result, _, _⟩
      · rw [failed] at handled
        cases handled
      · rw [result, EStateM.Result.ok.injEq] at handled
        rw [← handled.2]
        rcases planRoute_ok planned with
          ⟨path, pathWaypoints, firstId, lastId, found, resolved, first, last, shape⟩
        have saved : saveAddedTasks (routeTasks robotId firstId lastId pathWaypoints) db =
            .ok () { db with tasks := tasks } := by
          rw [← shape]
          rcases saveAddedTasks_route route db with ⟨added, addedEq, _, _⟩
          simp only [navigationTasks, Action.bind_apply, planned, addedEq,
            Action.pure_apply, EStateM.Result.ok.injEq, true_and] at result
          rw [addedEq, result]
        have find : Stage.next getPathList robotId
            (.findPath startWaypointId endWaypointId) db = .ok (.read path path.items []) db := by
          simp [Stage.next, found]
        have reading : Interleaved (Job.step getPathList robotId)
            (db, left ++ (RobotRequest.navigationTasks startWaypointId
              endWaypointId).toJob :: right)
            (db, left ++ ⟨.navigationTasks startWaypointId endWaypointId,
              .read path path.items []⟩ :: right) :=
          .single (Job.step_of_next find)
        exact (reading.trans (interleaved_reads resolved)).trans
          (.single (Job.step_of_next (Stage.next_insert first last saved)))

end ECam.Server
