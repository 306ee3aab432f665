import ECam.Server.TaskQueue

/-!
# A waiting robot

A robot without work reports a status without a task.  `NextTask` answers such a
robot `NotFound` without looking at the queue, and the robot has no other request
that yields a task.  This module shows that it therefore keeps waiting, whatever
route is queued for it.
-/

namespace ECam.Server

open ECam.Library

variable {getPathList : Int → Int → Except Exn (NetList Int)}

/-- The status row of the robot, if it has one, has no task; only the robot `0`,
whose key the database treats as unset, may lack a row. -/
structure WaitingRobot (db : DbContext) (robotId : Int) : Prop where
  noTask : ∀ status, db.statusOf robotId = some status → status.taskID = none
  known : robotId = 0 ∨ db.hasStatus robotId = true

theorem WaitingRobot.ne_nextKey {db : DbContext} {robotId : Int}
    (waiting : WaitingRobot db robotId) : db.currentStatuses.nextKey ≠ robotId := by
  intro equal
  rcases waiting.known with zero | known
  · have positive := db.currentStatuses.nextKey_pos
    omega
  · rcases Table.hasKey_iff.mp known with ⟨row, member, owner⟩
    have below := db.currentStatuses.keys_lt row member
    omega

/-- A status save keeps a robot waiting unless it stores a task for that robot. -/
theorem WaitingRobot.statusSaved {db next : DbContext} {robotId : Int}
    {newStatus stored : CurrentStatusModel} (waiting : WaitingRobot db robotId)
    (saved : StatusSaved db newStatus stored next)
    (keeps : newStatus.robotID = robotId → newStatus.taskID = none) :
    WaitingRobot next robotId := by
  constructor
  · intro status found
    rw [saved.statusOf_eq] at found
    split at found
    next owner =>
      rw [← Option.some.inj found, saved.taskID_eq]
      apply keeps
      rcases saved.body with ⟨equal, _⟩ | ⟨_, equal⟩
      · rw [← equal]
        exact owner
      · rw [equal] at owner
        exact absurd owner waiting.ne_nextKey
    next => exact waiting.noTask status found
  · rcases waiting.known with zero | known
    · exact Or.inl zero
    · right
      cases found : next.statusOf robotId with
      | some status => exact DbContext.hasStatus_of_statusOf found
      | none =>
          rw [saved.statusOf_eq] at found
          split at found
          next => cases found
          next =>
            rw [DbContext.statusOf_eq_none, known] at found
            cases found

theorem WaitingRobot.afterStatus {db : DbContext} {robotId route : Int}
    {newStatus : CurrentStatusModel} (waiting : WaitingRobot db robotId) :
    WaitingRobot (afterStatus route newStatus db) robotId := by
  constructor
  · intro status found
    rw [afterStatus_statusOf] at found
    exact waiting.noTask status found
  · rw [DbContext.hasStatus, afterStatus_statuses]
    exact waiting.known

/-- Only a report that stores a task for the robot ends its waiting. -/
theorem WaitingRobot.serve {db : DbContext} {robotId : Int}
    (waiting : WaitingRobot db robotId) (request : Request)
    (keeps : ∀ route newStatus, request = .updateCurrentStatus route newStatus →
      newStatus.robotID = robotId → newStatus.taskID = none) :
    WaitingRobot (serve getPathList db request) robotId := by
  cases request with
  | navigationTasks route startWaypointId endWaypointId =>
      rcases serve_navigationTasks getPathList db route startWaypointId endWaypointId with
        ⟨_, result⟩ | ⟨newTasks, tasks, _, _, _, result⟩
      · rw [result]
        exact waiting
      · rw [result]
        exact ⟨waiting.noTask, waiting.known⟩
  | nextTask route =>
      rw [serve_nextTask]
      exact waiting
  | updateCurrentStatus route newStatus =>
      rcases serve_updateCurrentStatus getPathList db route newStatus with
        result | ⟨stored, saved, effect, result⟩
      · rw [result]
        exact waiting
      · rw [result]
        exact (waiting.statusSaved effect (keeps route newStatus rfl)).afterStatus

/-- An idle report of the robot itself makes it wait. -/
theorem WaitingRobot.of_report {db waiting : DbContext} {robotId : Int}
    {status : CurrentStatusModel} {answer : ActionResult} (own : status.robotID = robotId)
    (idle : status.taskID = none)
    (reported : updateCurrentStatus robotId status db = .ok answer waiting) :
    WaitingRobot waiting robotId := by
  rcases saveStatus_own db own with ⟨stored, saved, ok, effect, keeps⟩
  rw [updateCurrentStatus_saved ok, EStateM.Result.ok.injEq] at reported
  rw [← reported.2]
  apply WaitingRobot.afterStatus
  have storedIdle : stored.taskID = none := effect.taskID_eq.trans idle
  by_cases owner : stored.robotID = robotId
  · have found : saved.statusOf robotId = some stored := by
      rw [effect.statusOf_eq, if_pos owner]
    refine ⟨?_, Or.inr (DbContext.hasStatus_of_statusOf found)⟩
    intro other otherFound
    rw [found, Option.some.injEq] at otherFound
    rw [← otherFound]
    exact storedIdle
  · -- the body has key `0`, the robot had no row, and a new key was generated
    have different : stored ≠ status := by
      intro equal
      rw [equal] at owner
      exact owner own
    have unknown : db.hasStatus robotId = false := by
      rw [Bool.eq_false_iff]
      exact fun known => different (keeps known)
    have missing : saved.statusOf robotId = none := by
      rw [effect.statusOf_eq, if_neg owner]
      exact DbContext.statusOf_eq_none.mpr unknown
    rcases effect.body with ⟨equal, _⟩ | ⟨unassigned, _⟩
    · exact absurd equal different
    · refine ⟨?_, Or.inl (own.symm.trans unassigned)⟩
      intro other otherFound
      rw [missing] at otherFound
      cases otherFound

/-- The task a poll hands out, if any. -/
def offeredTask : EStateM.Result Exn DbContext ActionResult → List TaskModel
  | .ok (.value (some task)) _ => [task]
  | _ => []

/-- Databases the robot can reach from `start` with its own requests, together with
the tasks it has been offered: it polls, and it reports no task or one it has been
offered before. -/
inductive OwnRun (robotId : Int) (start : DbContext) : DbContext → List TaskModel → Prop where
  | start : OwnRun robotId start start []
  | poll {db : DbContext} {offered : List TaskModel} : OwnRun robotId start db offered →
      OwnRun robotId start ((nextTask robotId).after db)
        (offeredTask (nextTask robotId db) ++ offered)
  | report {db : DbContext} {offered : List TaskModel} (status : CurrentStatusModel) :
      OwnRun robotId start db offered →
      (status.taskID = none ∨ ∃ task ∈ offered, status.taskID = some task.taskID) →
      OwnRun robotId start ((updateCurrentStatus robotId status).after db) offered

/-- Some run of the robot's own requests offers it a task that is queued for it. -/
def Startable (robotId : Int) (start : DbContext) : Prop :=
  ∃ db offered, OwnRun robotId start db offered ∧
    ∃ task ∈ offered, task ∈ start.tasksOf robotId

/-- A waiting robot keeps waiting and is offered nothing. -/
theorem OwnRun.waiting {robotId : Int} {start db : DbContext} {offered : List TaskModel}
    (waiting : WaitingRobot start robotId) (run : OwnRun robotId start db offered) :
    WaitingRobot db robotId ∧ offered = [] := by
  induction run with
  | start => exact ⟨waiting, rfl⟩
  | @poll db offered run ih =>
      have rowsIdle : ∀ status ∈ db.currentStatuses.rows, status.robotID = robotId →
          status.taskID = none := fun status member owner =>
        ih.1.noTask status (DbContext.statusOf_eq_some.mpr ⟨member, owner⟩)
      rcases nextTask_waiting rowsIdle with answer | ⟨exception, answer⟩
      · rw [Action.after, answer, ih.2]
        exact ⟨ih.1, rfl⟩
      · rw [Action.after, answer, ih.2]
        exact ⟨ih.1, rfl⟩
  | @report db offered status run allowed ih =>
      refine ⟨?_, ih.2⟩
      have idle : status.taskID = none := by
        rcases allowed with idle | ⟨task, member, _⟩
        · exact idle
        · rw [ih.2] at member
          cases member
      rcases updateCurrentStatus_cases robotId status db with
        ⟨exception, failed⟩ | ⟨stored, saved, effect, result⟩
      · rw [Action.after, failed]
        exact ih.1
      · rw [Action.after, result]
        exact (ih.1.statusSaved effect fun _ => idle).afterStatus

theorem WaitingRobot.not_startable {start : DbContext} {robotId : Int}
    (waiting : WaitingRobot start robotId) : ¬Startable robotId start := by
  rintro ⟨db, offered, run, task, member, _⟩
  rw [(run.waiting waiting).2] at member
  cases member

theorem serveAll_waiting {db : DbContext} {robotId : Int}
    (waiting : WaitingRobot db robotId) (requests : List Request)
    (keeps : ∀ route newStatus, Request.updateCurrentStatus route newStatus ∈ requests →
      newStatus.robotID = robotId → newStatus.taskID = none) :
    WaitingRobot (serveAll getPathList db requests) robotId := by
  induction requests generalizing db with
  | nil => exact waiting
  | cons request requests ih =>
      apply ih
      · apply waiting.serve
        intro route newStatus equal
        exact keeps route newStatus (by simp [equal])
      · intro route newStatus member
        exact keeps route newStatus (by simp [member])

/-- After an idle report of a robot, whatever requests follow that do not store a
task for it, a route that is then queued for it cannot be started by its own
requests. -/
theorem waiting_never_startable {db waiting after : DbContext} {robotId : Int}
    {status : CurrentStatusModel} {answer : ActionResult}
    (own : status.robotID = robotId) (idle : status.taskID = none)
    (reported : updateCurrentStatus robotId status db = .ok answer waiting)
    (between : List Request)
    (keeps : ∀ route newStatus, Request.updateCurrentStatus route newStatus ∈ between →
      newStatus.robotID = robotId → newStatus.taskID = none)
    {startWaypointId endWaypointId : Int}
    (requested : navigationTasks getPathList robotId startWaypointId endWaypointId
      (serveAll getPathList waiting between) = .ok .noContent after) :
    after.tasksOf robotId ≠ [] ∧ ¬Startable robotId after := by
  have before : WaitingRobot (serveAll getPathList waiting between) robotId :=
    serveAll_waiting (.of_report own idle reported) between keeps
  rcases navigationTasks_cases getPathList robotId startWaypointId endWaypointId
    (serveAll getPathList waiting between) with
    ⟨exception, _, failed⟩ | ⟨newTasks, tasks, _, route, result, rows, _⟩
  · rw [failed] at requested
    cases requested
  · rw [result, EStateM.Result.ok.injEq] at requested
    rw [← requested.2]
    constructor
    · rcases route.head (serveAll getPathList waiting between) with ⟨task, member, _⟩
      rw [route.tasksOf_added rows]
      intro empty
      rw [if_pos rfl, List.append_eq_nil_iff] at empty
      rw [empty.2] at member
      cases member
    · exact WaitingRobot.not_startable ⟨before.noTask, before.known⟩

/-- Robot `7` waits, robot `8` is given a route, and then robot `7`. -/
theorem waiting_never_startable_pair :
    ((navigationTasks connectedPathfinder.getPath 7 1 2).after
        (serveAll connectedPathfinder.getPath idleContext [.navigationTasks 8 2 1])).tasksOf 7 ≠ [] ∧
      ¬Startable 7 ((navigationTasks connectedPathfinder.getPath 7 1 2).after
        (serveAll connectedPathfinder.getPath idleContext [.navigationTasks 8 2 1])) := by
  have reported : updateCurrentStatus 7 idleStatus connectedContext =
      .ok (.createdAtAction idleStatus) idleContext := rfl
  have requested : navigationTasks connectedPathfinder.getPath 7 1 2
      (serveAll connectedPathfinder.getPath idleContext [.navigationTasks 8 2 1]) =
        .ok .noContent ((navigationTasks connectedPathfinder.getPath 7 1 2).after
          (serveAll connectedPathfinder.getPath idleContext [.navigationTasks 8 2 1])) := rfl
  exact waiting_never_startable rfl rfl reported [.navigationTasks 8 2 1] (by simp) requested

/-- Robot `7` reports itself waiting and is given a route, which it cannot start. -/
theorem queued_route_not_startable :
    updateCurrentStatus 7 idleStatus connectedContext =
        .ok (.createdAtAction idleStatus) idleContext ∧
      navigationTasks connectedPathfinder.getPath 7 1 2 idleContext =
        .ok .noContent (serve connectedPathfinder.getPath idleContext (.navigationTasks 7 1 2)) ∧
      ¬Startable 7 (serve connectedPathfinder.getPath idleContext (.navigationTasks 7 1 2)) := by
  have reported : updateCurrentStatus 7 idleStatus connectedContext =
      .ok (.createdAtAction idleStatus) idleContext := rfl
  have waiting : WaitingRobot idleContext 7 := .of_report rfl rfl reported
  refine ⟨reported, rfl, ?_⟩
  exact (waiting.serve (.navigationTasks 7 1 2) (by simp)).not_startable

end ECam.Server
