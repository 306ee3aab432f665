import ECam.Library.Table

/-!
# Tables of the server

Rows of the three tables behind `DbContextECam` and the database state the
controllers share.  A property of type `int?` or `string?` is an `Option`; the
`[Key]` property of each model is the table key.
-/

namespace ECam.Server

open ECam.Library

/-- Row of `current_status`. -/
@[ext] structure CurrentStatusModel where
  robotID : Int
  taskID : Option Int
  qrIdInFront : Option Int
  qrDistanceInFront : Option String
  deriving DecidableEq, Repr

/-- Row of `tasks`. -/
@[ext] structure TaskModel where
  taskID : Int
  robotID : Int
  orderNumber : Option Int
  command : Option String
  deriving DecidableEq, Repr

/-- Row of `waypoints`. -/
structure WaypointModel where
  waypointId : Int
  qrIdLeft : Option Int
  qrIdRight : Option Int
  qrIdTop : Option Int
  qrIdBottom : Option Int
  qrDistanceLeft : Option String
  qrDistanceRight : Option String
  qrDistanceTop : Option String
  qrDistanceBottom : Option String
  waypointIdLeft : Option Int
  waypointIdRight : Option Int
  waypointIdTop : Option Int
  waypointIdBottom : Option Int
  waypointDistanceLeft : Option String
  waypointDistanceRight : Option String
  waypointDistanceTop : Option String
  waypointDistanceBottom : Option String
  deriving DecidableEq, Repr

instance : Entity CurrentStatusModel where
  key := CurrentStatusModel.robotID
  withKey value row := { row with robotID := value }
  key_withKey _ _ := rfl

instance : Entity TaskModel where
  key := TaskModel.taskID
  withKey value row := { row with taskID := value }
  key_withKey _ _ := rfl

instance : Entity WaypointModel where
  key := WaypointModel.waypointId
  withKey value row := { row with waypointId := value }
  key_withKey _ _ := rfl

@[simp] theorem key_currentStatus (row : CurrentStatusModel) :
    Entity.key row = row.robotID := rfl

@[simp] theorem key_task (row : TaskModel) : Entity.key row = row.taskID := rfl

@[simp] theorem withKey_currentStatus (value : Int) (row : CurrentStatusModel) :
    Entity.withKey value row = { row with robotID := value } := rfl

/-- `DbContextECam`: the committed content of the database. -/
@[ext] structure DbContext where
  waypoints : Table WaypointModel
  currentStatuses : Table CurrentStatusModel
  tasks : Table TaskModel

namespace DbContext

/-- The rows of `Tasks` that belong to a robot, in table order. -/
def tasksOf (db : DbContext) (robotId : Int) : List TaskModel :=
  db.tasks.rows.filter fun task => task.robotID == robotId

/-- The row of `CurrentStatuses` that belongs to a robot. -/
def statusOf (db : DbContext) (robotId : Int) : Option CurrentStatusModel :=
  db.currentStatuses.rows.find? fun status => status.robotID == robotId

/-- Whether `CurrentStatuses` has a row for the robot. -/
def hasStatus (db : DbContext) (robotId : Int) : Bool :=
  db.currentStatuses.hasKey robotId

theorem mem_tasksOf {db : DbContext} {robotId : Int} {task : TaskModel} :
    task ∈ db.tasksOf robotId ↔ task ∈ db.tasks.rows ∧ task.robotID = robotId := by
  simp [tasksOf]

theorem statusOf_eq_some {db : DbContext} {robotId : Int} {status : CurrentStatusModel} :
    db.statusOf robotId = some status ↔
      status ∈ db.currentStatuses.rows ∧ status.robotID = robotId := by
  constructor
  · intro found
    exact ⟨List.mem_of_find?_eq_some found, by simpa using List.find?_some found⟩
  · rintro ⟨member, owner⟩
    cases found : db.statusOf robotId with
    | none =>
        have missing := List.find?_eq_none.mp found status member
        simp [owner] at missing
    | some other =>
        have otherMember := List.mem_of_find?_eq_some found
        have otherOwner : other.robotID = robotId := by
          simpa using List.find?_some found
        congr 1
        exact db.currentStatuses.eq_of_key_eq otherMember member
          (otherOwner.trans owner.symm)

theorem statusOf_eq_none {db : DbContext} {robotId : Int} :
    db.statusOf robotId = none ↔ db.hasStatus robotId = false := by
  simp [statusOf, hasStatus, Table.hasKey]

theorem hasStatus_of_statusOf {db : DbContext} {robotId : Int}
    {status : CurrentStatusModel} (found : db.statusOf robotId = some status) :
    db.hasStatus robotId = true := by
  obtain ⟨member, owner⟩ := statusOf_eq_some.mp found
  exact Table.hasKey_iff.mpr ⟨status, member, owner⟩

end DbContext

/-- Exceptions the request handlers can end with. -/
inductive Exn where
  | nullReference
  | invalidOperation
  | argumentOutOfRange
  | dbUpdate
  | dbUpdateConcurrency
  deriving DecidableEq, Repr

/-- A .NET `List<T>`: its `Count` is an `int`. -/
structure NetList (α : Type) where
  items : List α
  count_lt : items.length < 2 ^ 31

/-- Two's-complement value of an `int` expression. -/
def toInt32 (value : Int) : Int :=
  value.bmod (2 ^ 32)

theorem toInt32_eq_self {value : Int} (lower : -2 ^ 31 ≤ value) (upper : value < 2 ^ 31) :
    toInt32 value = value := by
  unfold toInt32
  rw [Int.bmod_eq_of_le] <;> omega

end ECam.Server
