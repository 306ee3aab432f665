import ECam.Library.Text
import ECam.Server.Models

/-!
# The manager controller

`MainManagerAPIController` and the `CommandConstructor` it uses.  A handler is an
action on the committed database: it either answers or throws, and what it has
saved before throwing stays saved.  Queries and saves are named after the calls on
`DbContextECam` they stand for; each of them is one atomic database call.

The injected `NavigationAPIController` enters through its `GetPathList` only, a
parameter that answers with a list of waypoint ids or throws.
-/

namespace ECam.Server

open ECam.Library

/-- A request handler, or a part of one. -/
abbrev Action := EStateM Exn DbContext

/-- Answers of the handlers. -/
inductive ActionResult where
  | noContent
  | notFound
  | badRequest
  | value (task : Option TaskModel)
  | createdAtAction (status : CurrentStatusModel)
  deriving DecidableEq, Repr

namespace Action

variable {α β : Type}

@[simp] theorem pure_apply (value : α) (db : DbContext) :
    (pure value : Action α) db = .ok value db := rfl

@[simp] theorem throw_apply (exception : Exn) (db : DbContext) :
    (throw exception : Action α) db = .error exception db := rfl

@[simp] theorem get_apply (db : DbContext) :
    (get : Action DbContext) db = .ok db db := rfl

@[simp] theorem set_apply (next db : DbContext) :
    (set next : Action PUnit) db = .ok ⟨⟩ next := rfl

@[simp] theorem bind_apply (action : Action α) (next : α → Action β) (db : DbContext) :
    (action >>= next) db =
      match action db with
      | .ok value after => next value after
      | .error exception after => .error exception after := by
  change EStateM.bind action next db = _
  unfold EStateM.bind
  cases action db <;> rfl

@[simp] theorem map_apply (image : α → β) (action : Action α) (db : DbContext) :
    (image <$> action) db =
      match action db with
      | .ok value after => .ok (image value) after
      | .error exception after => .error exception after := by
  change EStateM.map image action db = _
  unfold EStateM.map
  cases action db <;> rfl

/-- The database a handler leaves behind, whether it answers or throws. -/
def after (action : Action α) (db : DbContext) : DbContext :=
  match action db with
  | .ok _ next => next
  | .error _ next => next

end Action

/-! ## Queries -/

/-- `SingleOrDefault`: no match is `null`, two matches throw. -/
def singleOrDefault {α : Type} (accept : α → Bool) (rows : List α) : Action (Option α) :=
  match rows.filter accept with
  | [] => pure none
  | [row] => pure (some row)
  | _ => throw .invalidOperation

/-- `SingleAsync`: exactly one match, otherwise it throws. -/
def singleAsync {α : Type} (accept : α → Bool) (rows : List α) : Action α :=
  match rows.filter accept with
  | [row] => pure row
  | _ => throw .invalidOperation

/-- `FirstAsync`: the first match, or it throws. -/
def firstAsync {α : Type} (accept : α → Bool) (rows : List α) : Action α :=
  match rows.find? accept with
  | some row => pure row
  | none => throw .invalidOperation

/-- `list[index]`. -/
def elementAt {α : Type} (list : List α) (index : Nat) : Action α :=
  match list[index]? with
  | some element => pure element
  | none => throw .argumentOutOfRange

/-- `_context.Waypoints.FirstAsync(w => w.WaypointId == waypointId)`. -/
def firstWaypoint (waypointId : Int) : Action WaypointModel := do
  firstAsync (fun waypoint => waypoint.waypointId == waypointId) (← get).waypoints.rows

/-- `_context.CurrentStatuses.Any(cs => cs.RobotID == robotId)`. -/
def anyStatus (robotId : Int) : Action Bool := do
  return (← get).hasStatus robotId

/-- `_context.Tasks.Where(t => t.RobotID == robotId).ToList()`. -/
def selectTasks (robotId : Int) : Action (List TaskModel) := do
  return (← get).tasksOf robotId

/-! ## Saves -/

/-- `SaveChangesAsync` with the new tasks tracked as added. -/
def saveAddedTasks (newTasks : List TaskModel) : Action Unit := do
  let db ← get
  match db.tasks.addRange? newTasks with
  | none => throw .dbUpdate
  | some tasks => set { db with tasks := tasks }

/-- `SaveChangesAsync` with the status tracked as added.  A key left at `0` is
generated by the database and written back into the entity. -/
def saveAddedStatus (newStatus : CurrentStatusModel) : Action CurrentStatusModel := do
  let db ← get
  match db.currentStatuses.add? newStatus with
  | none => throw .dbUpdate
  | some (statuses, stored) =>
      set { db with currentStatuses := statuses }
      return stored

/-- `SaveChangesAsync` with the status tracked as modified.  An update that
affects no row is a concurrency error. -/
def saveModifiedStatus (newStatus : CurrentStatusModel) : Action CurrentStatusModel := do
  let db ← get
  match db.currentStatuses.update? newStatus with
  | none => throw .dbUpdateConcurrency
  | some statuses =>
      set { db with currentStatuses := statuses }
      return newStatus

/-- The first `SaveChangesAsync` of `UpdateCurrentStatus`. -/
def saveStatus (known : Bool) (newStatus : CurrentStatusModel) : Action CurrentStatusModel :=
  if known then saveModifiedStatus newStatus else saveAddedStatus newStatus

/-- `SaveChangesAsync` with the old tasks tracked as deleted.  A delete that
affects no row is a concurrency error. -/
def saveRemovedTasks (oldTasks : List TaskModel) : Action Unit := do
  let db ← get
  match db.tasks.removeRange? oldTasks with
  | none => throw .dbUpdateConcurrency
  | some tasks => set { db with tasks := tasks }

/-! ## Commands -/

namespace CommandConstructor

/-- `Command.GOTO`. -/
def gotoTemplate : List Char :=
  "goto [\x7bwaypointId\x7d, \x7bQR_ID_InFront\x7d, \x7bQR_Distance_InFront\x7d, \x7bQR_Orient_InFront\x7d]".toList

/-- `CommandConstructor.Goto`: the placeholders are replaced one after another. -/
def goto (waypointId : Int) (qrId : Option Int) (qrDistance qrOrient : Option String) :
    String :=
  let command := gotoTemplate
  let command := replaceAll command "\x7bwaypointId\x7d".toList (decimal waypointId)
  let command := replaceAll command "\x7bQR_ID_InFront\x7d".toList
    (match qrId with
    | some value => decimal value
    | none => "null".toList)
  let command := replaceAll command "\x7bQR_Distance_InFront\x7d".toList
    (match qrDistance with
    | some value => value.toList
    | none => "null".toList)
  let command := replaceAll command "\x7bQR_Orient_InFront\x7d".toList
    (match qrOrient with
    | some value => value.toList
    | none => "null".toList)
  String.ofList command

end CommandConstructor

/-- `TaskCommand`: the command for travelling from `root` to `dest`. -/
def taskCommand (root dest : WaypointModel) : String :=
  if root.waypointIdTop = some dest.waypointId then
    CommandConstructor.goto root.waypointId dest.qrIdTop dest.qrDistanceTop (some "TOP")
  else if root.waypointIdBottom = some dest.waypointId then
    CommandConstructor.goto root.waypointId dest.qrIdBottom dest.qrDistanceBottom
      (some "BOTTOM")
  else if root.waypointIdLeft = some dest.waypointId then
    CommandConstructor.goto root.waypointId dest.qrIdLeft dest.qrDistanceLeft (some "LEFT")
  else if root.waypointIdRight = some dest.waypointId then
    CommandConstructor.goto root.waypointId dest.qrIdRight dest.qrDistanceRight
      (some "RIGHT")
  else
    "null"

/-! ## Handlers -/

/-- `WaypointsFromListAsync`. -/
def waypointsFromListAsync : List Int → Action (List WaypointModel)
  | [] => pure []
  | waypointId :: rest => do
      let waypoint ← firstWaypoint waypointId
      let result ← waypointsFromListAsync rest
      return waypoint :: result

/-- A task as `NavigationTasks` fills it in; its key is left to the database. -/
def newTask (robotId orderNumber : Int) (command : String) : TaskModel where
  taskID := 0
  robotID := robotId
  orderNumber := some orderNumber
  command := some command

/-- The loop over the legs of the path, numbering from `orderNumber` on. -/
def legTasks (robotId orderNumber : Int) : List WaypointModel → List TaskModel
  | root :: dest :: rest =>
      newTask robotId orderNumber (taskCommand root dest) ::
        legTasks robotId (orderNumber + 1) (dest :: rest)
  | _ => []

/-- The tasks of one route: the first waypoint, the legs, and the last waypoint. -/
def routeTasks (robotId firstId lastId : Int) (pathWaypoints : List WaypointModel) :
    List TaskModel :=
  let legs := legTasks robotId 1 pathWaypoints
  newTask robotId 0 (CommandConstructor.goto firstId none none none) ::
    (legs ++ [newTask robotId (1 + legs.length)
      (CommandConstructor.goto lastId none none none)])

variable (getPathList : Int → Int → Except Exn (NetList Int))

/-- The part of `NavigationTasks` that only reads: it resolves the path and builds
the tasks to add. -/
def planRoute (robotId startWaypointId endWaypointId : Int) : Action (List TaskModel) := do
  match getPathList startWaypointId endWaypointId with
  | .error exception => throw exception
  | .ok pathWaypointIds =>
      let pathWaypoints ← waypointsFromListAsync pathWaypointIds.items
      let firstId ← elementAt pathWaypointIds.items 0
      let lastId ← elementAt pathWaypointIds.items (pathWaypointIds.items.length - 1)
      return routeTasks robotId firstId lastId pathWaypoints

/-- `NavigationTasks`. -/
def navigationTasks (robotId startWaypointId endWaypointId : Int) : Action ActionResult := do
  let newTasks ← planRoute getPathList robotId startWaypointId endWaypointId
  saveAddedTasks newTasks
  return .noContent

/-- `currentTask.OrderNumber + 1`, a lifted `int` addition. -/
def nextOrderNumber (orderNumber : Option Int) : Option Int :=
  orderNumber.map fun value => toInt32 (value + 1)

/-- `NextTask`.  The answer of `NoContent()` is discarded by the source, so a
missing successor is returned as a null task. -/
def nextTask (robotId : Int) : Action ActionResult := do
  let status ← singleOrDefault (fun status => status.robotID == robotId)
    (← get).currentStatuses.rows
  match status with
  | none => throw .nullReference
  | some status =>
      match status.taskID with
      | none => return .notFound
      | some currentTaskId =>
          let currentTask ← singleAsync
            (fun task => task.taskID == currentTaskId && task.robotID == robotId)
            (← get).tasks.rows
          let successor ← singleOrDefault
            (fun task => task.orderNumber == nextOrderNumber currentTask.orderNumber &&
              task.robotID == robotId)
            (← get).tasks.rows
          return .value successor

/-- `UpdateCurrentStatus`. -/
def updateCurrentStatus (robotId : Int) (newStatus : CurrentStatusModel) :
    Action ActionResult := do
  let known ← anyStatus robotId
  let stored ← saveStatus known newStatus
  if newStatus.taskID = none then
    let oldTasks ← selectTasks robotId
    saveRemovedTasks oldTasks
  return .createdAtAction stored

/-- Requests to the manager, with the robot id of the route. -/
inductive Request where
  | navigationTasks (robotId startWaypointId endWaypointId : Int)
  | nextTask (robotId : Int)
  | updateCurrentStatus (robotId : Int) (newStatus : CurrentStatusModel)
  deriving DecidableEq, Repr

namespace Request

/-- The robot id in the route of the request. -/
def robotId : Request → Int
  | .navigationTasks robotId _ _ => robotId
  | .nextTask robotId => robotId
  | .updateCurrentStatus robotId _ => robotId

end Request

/-- The handler a request is routed to. -/
def handle : Request → Action ActionResult
  | .navigationTasks robotId startWaypointId endWaypointId =>
      navigationTasks getPathList robotId startWaypointId endWaypointId
  | .nextTask robotId => nextTask robotId
  | .updateCurrentStatus robotId newStatus => updateCurrentStatus robotId newStatus

/-- The database after a request, whatever its outcome. -/
def serve (db : DbContext) (request : Request) : DbContext :=
  (handle getPathList request).after db

/-- The database after a sequence of requests. -/
def serveAll (db : DbContext) (requests : List Request) : DbContext :=
  requests.foldl (serve getPathList) db

/-! ## The pathfinder -/

/-- `Pathfinder`: the nodes of the waypoint map and the search of the external
package.  Of a node only its id is read. -/
structure Pathfinder (Node : Type) where
  nodeId : Node → Int
  waypoints : List Node
  search : Node → Node → Except Exn (NetList Node)

/-- `Pathfinder.GetPath`, which `GetPathList` returns unchanged. -/
def Pathfinder.getPath {Node : Type} (pathfinder : Pathfinder Node) (idStart idEnd : Int) :
    Except Exn (NetList Int) :=
  match pathfinder.waypoints.find? fun node => pathfinder.nodeId node == idStart,
      pathfinder.waypoints.find? fun node => pathfinder.nodeId node == idEnd with
  | some startWaypoint, some endWaypoint =>
      match pathfinder.search startWaypoint endWaypoint with
      | .ok path => .ok ⟨path.items.map pathfinder.nodeId, by simpa using path.count_lt⟩
      | .error exception => .error exception
  | _, _ => .error .nullReference

end ECam.Server
