import ECam.Library.Linearization
import ECam.Server.Isolation
import ECam.Server.Progress

/-!
# The controllers of the tables

`TasksAPIController`, `WaypointsAPIController` and `CurrentStatusAPIController` are the same
controller for three tables.  The requests are split into their calls of the database: an edit
saves the row and asks whether the row exists if nothing was saved, and a deletion looks for
the row and then removes it.  Between the calls other requests are handled.

Nevertheless the controllers answer as if they handled one request after the other, apart
from a conflict that ends a request with an exception and without an effect.
-/

namespace ECam.Server

open ECam.Library

/-! ## One controller -/

section Controller

variable (Row : Type)

/-- The requests to a table: `getall`, `get`, `edit`, `add` and `delete`. -/
inductive CrudRequest where
  | getAll
  | get (id : Int)
  | put (id : Int) (row : Row)
  | post (row : Row)
  | delete (id : Int)
  deriving DecidableEq, Repr

/-- Answers of a controller.  An exception ends the request. -/
inductive CrudAnswer where
  | values (rows : List Row)
  | value (row : Row)
  | createdAtAction (id : Int) (row : Row)
  | noContent
  | notFound
  | badRequest
  | thrown (exception : Exn)
  deriving DecidableEq, Repr

/-- Where a request stands: it was received, or the call that it makes next. -/
inductive CrudStage where
  | received (request : CrudRequest Row)
  | rowExists (id : Int)
  | saveRemoved (row : Row)
  | answered (answer : CrudAnswer Row)
  deriving DecidableEq, Repr

end Controller

variable {Row : Type} [Entity Row]

/-- The next call of a request. -/
def CrudStage.next : CrudStage Row → Table Row → CrudStage Row × Table Row
  | .received .getAll, table => (.answered (.values table.rows), table)
  | .received (.get id), table =>
      match table.lookup id with
      | none => (.answered .notFound, table)
      | some row => (.answered (.value row), table)
  | .received (.put id row), table =>
      if id ≠ Entity.key row then
        (.answered .badRequest, table)
      else
        match table.update? row with
        | none => (.rowExists id, table)
        | some next => (.answered .noContent, next)
  | .rowExists id, table =>
      if !table.hasKey id then
        (.answered .notFound, table)
      else
        (.answered (.thrown .dbUpdateConcurrency), table)
  | .received (.post row), table =>
      match table.add? row with
      | none => (.answered (.thrown .dbUpdate), table)
      | some (next, stored) => (.answered (.createdAtAction (Entity.key stored) stored), next)
  | .received (.delete id), table =>
      match table.lookup id with
      | none => (.answered .notFound, table)
      | some row => (.saveRemoved row, table)
  | .saveRemoved row, table =>
      match table.removeRange? [row] with
      | none => (.answered (.thrown .dbUpdateConcurrency), table)
      | some next => (.answered .noContent, next)
  | .answered answer, table => (.answered answer, table)

/-- The answer of a stage. -/
def CrudStage.answer : CrudStage Row → Option (CrudAnswer Row)
  | .answered answer => some answer
  | _ => none

/-- The calls of the requests and what they do. -/
inductive CrudStep (table : Table Row) : CrudStage Row → CrudStage Row → Table Row → Prop where
  | listed : CrudStep table (.received .getAll) (.answered (.values table.rows)) table
  | found {id : Int} {row : Row} (found : table.lookup id = some row) :
      CrudStep table (.received (.get id)) (.answered (.value row)) table
  | unknown {id : Int} (missing : table.lookup id = none) :
      CrudStep table (.received (.get id)) (.answered .notFound) table
  | mismatch {id : Int} {row : Row} (other : id ≠ Entity.key row) :
      CrudStep table (.received (.put id row)) (.answered .badRequest) table
  | edited {row : Row} {next : Table Row} (updated : table.update? row = some next) :
      CrudStep table (.received (.put (Entity.key row) row)) (.answered .noContent) next
  | missed {row : Row} (missing : table.hasKey (Entity.key row) = false) :
      CrudStep table (.received (.put (Entity.key row) row)) (.rowExists (Entity.key row)) table
  | notEdited {id : Int} (missing : table.hasKey id = false) :
      CrudStep table (.rowExists id) (.answered .notFound) table
  | editConflict {id : Int} (known : table.hasKey id = true) :
      CrudStep table (.rowExists id) (.answered (.thrown .dbUpdateConcurrency)) table
  | added {row stored : Row} {next : Table Row} (added : table.add? row = some (next, stored)) :
      CrudStep table (.received (.post row))
        (.answered (.createdAtAction (Entity.key stored) stored)) next
  | notAdded {row : Row} (own : Entity.key row ≠ 0)
      (used : table.hasKey (Entity.key row) = true) :
      CrudStep table (.received (.post row)) (.answered (.thrown .dbUpdate)) table
  | located {row : Row} (member : row ∈ table.rows) :
      CrudStep table (.received (.delete (Entity.key row))) (.saveRemoved row) table
  | notDeleted {id : Int} (missing : table.lookup id = none) :
      CrudStep table (.received (.delete id)) (.answered .notFound) table
  | deleted {row : Row} {next : Table Row} (removed : table.removeRange? [row] = some next) :
      CrudStep table (.saveRemoved row) (.answered .noContent) next
  | deleteConflict {row : Row} (missing : table.hasKey (Entity.key row) = false) :
      CrudStep table (.saveRemoved row) (.answered (.thrown .dbUpdateConcurrency)) table

theorem crudStep_put (id : Int) (row : Row) (table : Table Row) :
    CrudStep table (.received (.put id row)) ((CrudStage.received (.put id row)).next table).1
      ((CrudStage.received (.put id row)).next table).2 := by
  by_cases same : id = Entity.key row
  · cases same
    simp only [CrudStage.next, ne_eq, not_true_eq_false, if_false]
    cases updated : table.update? row with
    | some next => exact .edited updated
    | none =>
        apply CrudStep.missed
        cases used : table.hasKey (Entity.key row) with
        | false => rfl
        | true =>
            rcases Table.update?_of_hasKey used with ⟨next, accepted⟩
            rw [accepted] at updated
            cases updated
  · simp only [CrudStage.next, if_pos same]
    exact .mismatch same

theorem crudStep_post (row : Row) (table : Table Row) :
    CrudStep table (.received (.post row)) ((CrudStage.received (.post row)).next table).1
      ((CrudStage.received (.post row)).next table).2 := by
  simp only [CrudStage.next]
  cases added : table.add? row with
  | some result => exact .added added
  | none =>
      by_cases generated : Entity.key row = 0
      · rcases Table.add?_generated table generated with ⟨next, accepted, -⟩
        rw [accepted] at added
        cases added
      · apply CrudStep.notAdded generated
        cases used : table.hasKey (Entity.key row) with
        | true => rfl
        | false =>
            rcases Table.add?_own generated used with ⟨next, accepted, -⟩
            rw [accepted] at added
            cases added

/-- Every call of a request is one of these. -/
theorem crudStep_next {stage : CrudStage Row} (running : stage.answer = none) (table : Table Row) :
    CrudStep table stage (stage.next table).1 (stage.next table).2 := by
  cases stage with
  | answered => cases running
  | rowExists id =>
      simp only [CrudStage.next]
      cases used : table.hasKey id with
      | false => exact .notEdited used
      | true => exact .editConflict used
  | saveRemoved row =>
      simp only [CrudStage.next]
      cases removed : table.removeRange? [row] with
      | some next => exact .deleted removed
      | none =>
          apply CrudStep.deleteConflict
          cases used : table.hasKey (Entity.key row) with
          | false => rfl
          | true => simp [Table.removeRange?, used] at removed
  | received request =>
      cases request with
      | getAll => exact .listed
      | put id row => exact crudStep_put id row table
      | post row => exact crudStep_post row table
      | get id =>
          simp only [CrudStage.next]
          cases found : table.lookup id with
          | none => exact .unknown found
          | some row => exact .found found
      | delete id =>
          simp only [CrudStage.next]
          cases found : table.lookup id with
          | none => exact .notDeleted found
          | some row =>
              rcases Table.lookup_eq_some_iff.mp found with ⟨member, rfl⟩
              exact .located member

/-! ## What a controller is for -/

/-- The rows by key. -/
abbrev Store (Row : Type) := Int → Option Row

/-- The rows of a store in some order. -/
structure Lists (store : Store Row) (rows : List Row) : Prop where
  keys_nodup : (rows.map Entity.key).Nodup
  mem_iff : ∀ row, row ∈ rows ↔ store (Entity.key row) = some row

/-- The row as it is stored: a row without a key gets one. -/
def StoredAs (row stored : Row) : Prop :=
  if Entity.key row = 0 then stored = Entity.withKey (Entity.key stored) row else stored = row

/-- The answers to a request on a store, and the store after it.  An exception leaves the
store as it is. -/
inductive Serves (store : Store Row) : CrudRequest Row → CrudAnswer Row → Store Row → Prop where
  | values {rows : List Row} (lists : Lists store rows) : Serves store .getAll (.values rows) store
  | value {id : Int} {row : Row} (found : store id = some row) :
      Serves store (.get id) (.value row) store
  | unknown {id : Int} (missing : store id = none) : Serves store (.get id) .notFound store
  | mismatch {id : Int} {row : Row} (other : id ≠ Entity.key row) :
      Serves store (.put id row) .badRequest store
  | edited {id : Int} {row : Row} (same : id = Entity.key row) (known : (store id).isSome) :
      Serves store (.put id row) .noContent (Function.update store id (some row))
  | notEdited {id : Int} {row : Row} (same : id = Entity.key row) (missing : store id = none) :
      Serves store (.put id row) .notFound store
  | editConflict {id : Int} {row : Row} (same : id = Entity.key row) (known : (store id).isSome) :
      Serves store (.put id row) (.thrown .dbUpdateConcurrency) store
  | added {row stored : Row} (storedAs : StoredAs row stored)
      (free : store (Entity.key stored) = none) :
      Serves store (.post row) (.createdAtAction (Entity.key stored) stored)
        (Function.update store (Entity.key stored) (some stored))
  | notAdded {row : Row} (own : Entity.key row ≠ 0) (used : (store (Entity.key row)).isSome) :
      Serves store (.post row) (.thrown .dbUpdate) store
  | deleted {id : Int} (known : (store id).isSome) :
      Serves store (.delete id) .noContent (Function.update store id none)
  | notDeleted {id : Int} (missing : store id = none) : Serves store (.delete id) .notFound store
  | deleteConflict {id : Int} (missing : store id = none) :
      Serves store (.delete id) (.thrown .dbUpdateConcurrency) store

/-- A stage belongs to the request that it handles. -/
def CrudStage.Belongs (request : CrudRequest Row) : CrudStage Row → Prop
  | .received other => other = request
  | .rowExists id => ∃ row, request = .put id row ∧ id = Entity.key row
  | .saveRemoved row => request = .delete (Entity.key row)
  | .answered _ => True

theorem lists_rows (table : Table Row) : Lists table.lookup table.rows where
  keys_nodup := table.keys_nodup
  mem_iff row := by
    rw [Table.lookup_eq_some_iff]
    exact ⟨fun member => ⟨member, rfl⟩, fun found => found.1⟩

theorem storedAs_assignKey (table : Table Row) (row : Row) :
    StoredAs row (table.assignKey row) := by
  unfold StoredAs Table.assignKey
  split
  next => rw [Entity.key_withKey]
  next => rfl

/-- A call without an answer changes nothing, and the stage belongs to its request. -/
theorem CrudStep.silent {request : CrudRequest Row} {stage after : CrudStage Row}
    {table next : Table Row} (step : CrudStep table stage after next)
    (belongs : stage.Belongs request) (still : after.answer = none) :
    after.Belongs request ∧ next = table := by
  cases step with
  | missed =>
      cases belongs
      exact ⟨⟨_, rfl, rfl⟩, rfl⟩
  | located =>
      cases belongs
      exact ⟨rfl, rfl⟩
  | listed | found | unknown | mismatch | edited | notEdited | editConflict | added | notAdded
  | notDeleted | deleted | deleteConflict => cases still

/-- A call with an answer does what the controller is for. -/
theorem CrudStep.serves {request : CrudRequest Row} {stage after : CrudStage Row}
    {table next : Table Row} {answer : CrudAnswer Row} (step : CrudStep table stage after next)
    (belongs : stage.Belongs request) (ended : after.answer = some answer) :
    Serves table.lookup request answer next.lookup := by
  have missing : ∀ {id : Int}, table.hasKey id = false → table.lookup id = none :=
    Table.lookup_eq_none_iff.mpr
  have known : ∀ {id : Int}, table.hasKey id = true → (table.lookup id).isSome = true := by
    intro id used
    rw [Table.lookup_isSome, used]
  cases step with
  | missed | located => cases ended
  | listed =>
      cases belongs
      cases ended
      exact .values (lists_rows table)
  | found found =>
      cases belongs
      cases ended
      exact .value found
  | unknown missing =>
      cases belongs
      cases ended
      exact .unknown missing
  | mismatch other =>
      cases belongs
      cases ended
      exact .mismatch other
  | edited updated =>
      cases belongs
      cases ended
      rw [Table.lookup_update? updated]
      exact .edited rfl (known (Table.update?_some updated).1)
  | notEdited free =>
      rcases belongs with ⟨row, rfl, same⟩
      cases ended
      exact .notEdited same (missing free)
  | editConflict used =>
      rcases belongs with ⟨row, rfl, same⟩
      cases ended
      exact .editConflict same (known used)
  | added added =>
      cases belongs
      cases ended
      rcases Table.add?_cases added with ⟨rfl, free, -⟩
      rw [Table.lookup_add? added]
      exact .added (storedAs_assignKey table _) (missing free)
  | notAdded own used =>
      cases belongs
      cases ended
      exact .notAdded own (known used)
  | notDeleted missing =>
      cases belongs
      cases ended
      exact .notDeleted missing
  | deleted removed =>
      cases belongs
      cases ended
      rw [Table.lookup_removeRange? removed]
      exact .deleted (known ((Table.removeRange?_some removed).1 _ List.mem_cons_self))
  | deleteConflict free =>
      cases belongs
      cases ended
      exact .deleteConflict (missing free)

/-! ## The three controllers -/

/-- The requests to `WaypointsAPIController`, `CurrentStatusAPIController` and
`TasksAPIController`. -/
inductive ApiRequest where
  | waypoints (request : CrudRequest WaypointModel)
  | currentStatuses (request : CrudRequest CurrentStatusModel)
  | tasks (request : CrudRequest TaskModel)
  deriving DecidableEq, Repr

/-- Where a request to one of the controllers stands. -/
inductive ApiStage where
  | waypoints (stage : CrudStage WaypointModel)
  | currentStatuses (stage : CrudStage CurrentStatusModel)
  | tasks (stage : CrudStage TaskModel)
  deriving DecidableEq, Repr

/-- The answer of one of the controllers. -/
inductive ApiAnswer where
  | waypoints (answer : CrudAnswer WaypointModel)
  | currentStatuses (answer : CrudAnswer CurrentStatusModel)
  | tasks (answer : CrudAnswer TaskModel)
  deriving DecidableEq, Repr

/-- The next call of a request, on its table. -/
def ApiStage.next : ApiStage → DbContext → ApiStage × DbContext
  | .waypoints stage, db =>
      (.waypoints (stage.next db.waypoints).1, { db with waypoints := (stage.next db.waypoints).2 })
  | .currentStatuses stage, db =>
      (.currentStatuses (stage.next db.currentStatuses).1,
        { db with currentStatuses := (stage.next db.currentStatuses).2 })
  | .tasks stage, db =>
      (.tasks (stage.next db.tasks).1, { db with tasks := (stage.next db.tasks).2 })

/-- The answer of a stage. -/
def ApiStage.answer : ApiStage → Option ApiAnswer
  | .waypoints stage => stage.answer.map .waypoints
  | .currentStatuses stage => stage.answer.map .currentStatuses
  | .tasks stage => stage.answer.map .tasks

/-- The stage in which a request starts. -/
def ApiRequest.received : ApiRequest → ApiStage
  | .waypoints request => .waypoints (.received request)
  | .currentStatuses request => .currentStatuses (.received request)
  | .tasks request => .tasks (.received request)

/-- How the server handles the requests to the tables. -/
def apiHandler : Handler DbContext ApiRequest ApiStage ApiAnswer where
  first := ApiRequest.received
  next := ApiStage.next
  answer := ApiStage.answer

/-- The edit of a status without interruption. -/
theorem putCurrentStatus_uninterrupted (id : Int) (currentStatus : CurrentStatusModel)
    (db : DbContext) :
    (putCurrentStatus id currentStatus).after db =
      (apiHandler.run [.currentStatuses (.put id currentStatus)] db [0, 0]).1 := by
  have start : apiHandler.run [.currentStatuses (.put id currentStatus)] db [0, 0] =
      apiHandler.pick (apiHandler.pick
        (db, [.currentStatuses (.received (.put id currentStatus))]) 0) 0 := rfl
  rw [start]
  by_cases same : id = currentStatus.robotID
  · cases same
    cases updated : db.currentStatuses.update? currentStatus with
    | some next =>
        simp [putCurrentStatus, saveModifiedStatus, Action.after, updated, Handler.pick, apiHandler,
          ApiStage.answer, ApiStage.next, CrudStage.answer, CrudStage.next]
    | none =>
        cases used : db.currentStatuses.hasKey currentStatus.robotID <;>
          simp [putCurrentStatus, saveModifiedStatus, Action.after, updated, Handler.pick,
            apiHandler, ApiStage.answer, ApiStage.next, CrudStage.answer, CrudStage.next,
            anyStatus, DbContext.hasStatus, used]
  · simp [putCurrentStatus, Action.after, same, Handler.pick, apiHandler, ApiStage.answer,
      ApiStage.next, CrudStage.answer, CrudStage.next]

/-- The creation of a task without interruption. -/
theorem postTask_uninterrupted (task : TaskModel) (db : DbContext) :
    (postTask task).after db = (apiHandler.run [.tasks (.post task)] db [0]).1 := by
  have start : apiHandler.run [.tasks (.post task)] db [0] =
      apiHandler.pick (db, [.tasks (.received (.post task))]) 0 := rfl
  rw [start]
  cases added : db.tasks.add? task with
  | none =>
      simp [postTask, saveAddedTask, Action.after, added, Handler.pick, apiHandler,
        ApiStage.answer, ApiStage.next, CrudStage.answer, CrudStage.next]
  | some saved =>
      simp [postTask, saveAddedTask, Action.after, added, Handler.pick, apiHandler,
        ApiStage.answer, ApiStage.next, CrudStage.answer, CrudStage.next]

/-- The edit of a task without interruption. -/
theorem putTask_uninterrupted (id : Int) (task : TaskModel) (db : DbContext) :
    (putTask id task).after db = (apiHandler.run [.tasks (.put id task)] db [0, 0]).1 := by
  have start : apiHandler.run [.tasks (.put id task)] db [0, 0] =
      apiHandler.pick (apiHandler.pick (db, [.tasks (.received (.put id task))]) 0) 0 := rfl
  rw [start]
  by_cases same : id = task.taskID
  · cases same
    cases updated : db.tasks.update? task with
    | some next =>
        simp [putTask, saveModifiedTask, Action.after, updated, Handler.pick, apiHandler,
          ApiStage.answer, ApiStage.next, CrudStage.answer, CrudStage.next]
    | none =>
        cases used : db.tasks.hasKey task.taskID <;>
          simp [putTask, saveModifiedTask, Action.after, updated, Handler.pick, apiHandler,
            ApiStage.answer, ApiStage.next, CrudStage.answer, CrudStage.next, taskExists, used]
  · simp [putTask, Action.after, same, Handler.pick, apiHandler, ApiStage.answer, ApiStage.next,
      CrudStage.answer, CrudStage.next]

/-- The three stores. -/
@[ext] structure Stores where
  waypoints : Store WaypointModel
  currentStatuses : Store CurrentStatusModel
  tasks : Store TaskModel

/-- The rows of the database by key. -/
def DbContext.stores (db : DbContext) : Stores where
  waypoints := db.waypoints.lookup
  currentStatuses := db.currentStatuses.lookup
  tasks := db.tasks.lookup

/-- The answers to a request on the stores, and the stores after it.  A request leaves the
other stores alone. -/
inductive ApiServes (stores : Stores) : ApiRequest → ApiAnswer → Stores → Prop where
  | waypoints {request : CrudRequest WaypointModel} {answer : CrudAnswer WaypointModel}
      {next : Store WaypointModel} (serves : Serves stores.waypoints request answer next) :
      ApiServes stores (.waypoints request) (.waypoints answer) { stores with waypoints := next }
  | currentStatuses {request : CrudRequest CurrentStatusModel}
      {answer : CrudAnswer CurrentStatusModel} {next : Store CurrentStatusModel}
      (serves : Serves stores.currentStatuses request answer next) :
      ApiServes stores (.currentStatuses request) (.currentStatuses answer)
        { stores with currentStatuses := next }
  | tasks {request : CrudRequest TaskModel} {answer : CrudAnswer TaskModel}
      {next : Store TaskModel} (serves : Serves stores.tasks request answer next) :
      ApiServes stores (.tasks request) (.tasks answer) { stores with tasks := next }

/-- A stage belongs to a request to the same table. -/
inductive ApiStage.Belongs : ApiRequest → ApiStage → Prop where
  | waypoints {request : CrudRequest WaypointModel} {stage : CrudStage WaypointModel}
      (belongs : stage.Belongs request) : Belongs (.waypoints request) (.waypoints stage)
  | currentStatuses {request : CrudRequest CurrentStatusModel}
      {stage : CrudStage CurrentStatusModel} (belongs : stage.Belongs request) :
      Belongs (.currentStatuses request) (.currentStatuses stage)
  | tasks {request : CrudRequest TaskModel} {stage : CrudStage TaskModel}
      (belongs : stage.Belongs request) : Belongs (.tasks request) (.tasks stage)

theorem api_linearizes :
    Linearizes apiHandler DbContext.stores ApiServes ApiStage.Belongs where
  starts request := by
    cases request with
    | waypoints => exact .waypoints rfl
    | currentStatuses => exact .currentStatuses rfl
    | tasks => exact .tasks rfl
  unanswered request := by
    cases request with
    | waypoints | currentStatuses | tasks => rfl
  silent request stage db belongs running still := by
    cases belongs with
    | waypoints belongs =>
        rcases (crudStep_next (Option.map_eq_none_iff.mp running) db.waypoints).silent belongs
          (Option.map_eq_none_iff.mp still) with ⟨keeps, same⟩
        exact ⟨.waypoints keeps, Stores.ext (congrArg Table.lookup same) rfl rfl⟩
    | currentStatuses belongs =>
        rcases (crudStep_next (Option.map_eq_none_iff.mp running) db.currentStatuses).silent belongs
          (Option.map_eq_none_iff.mp still) with ⟨keeps, same⟩
        exact ⟨.currentStatuses keeps, Stores.ext rfl (congrArg Table.lookup same) rfl⟩
    | tasks belongs =>
        rcases (crudStep_next (Option.map_eq_none_iff.mp running) db.tasks).silent belongs
          (Option.map_eq_none_iff.mp still) with ⟨keeps, same⟩
        exact ⟨.tasks keeps, Stores.ext rfl rfl (congrArg Table.lookup same)⟩
  answers request stage db answer belongs running ended := by
    cases belongs with
    | waypoints belongs =>
        rcases Option.map_eq_some_iff.mp ended with ⟨given, last, rfl⟩
        have step := crudStep_next (Option.map_eq_none_iff.mp running) db.waypoints
        exact .waypoints (step.serves belongs last)
    | currentStatuses belongs =>
        rcases Option.map_eq_some_iff.mp ended with ⟨given, last, rfl⟩
        have step := crudStep_next (Option.map_eq_none_iff.mp running) db.currentStatuses
        exact .currentStatuses (step.serves belongs last)
    | tasks belongs =>
        rcases Option.map_eq_some_iff.mp ended with ⟨given, last, rfl⟩
        have step := crudStep_next (Option.map_eq_none_iff.mp running) db.tasks
        exact .tasks (step.serves belongs last)

/-- Whatever requests the three controllers receive and however their database calls are
interleaved: the answers and the final rows are those of a sequential run of the answered
requests, in the order of the calls that answer them. -/
theorem controllers_linearizable (requests : List ApiRequest) (db : DbContext)
    (schedule : List Nat) :
    let order := apiHandler.answers requests db schedule
    (order.map Prod.fst).Nodup ∧
      Follows ApiServes requests db.stores order (apiHandler.run requests db schedule).1.stores ∧
      ∀ number answer, (number, answer) ∈ order ↔
        apiHandler.answered (apiHandler.run requests db schedule) number = some answer :=
  api_linearizes.run requests db schedule

/-! ## Conflicts -/

/-- How a single controller handles its requests. -/
def crudHandler (Row : Type) [Entity Row] :
    Handler (Table Row) (CrudRequest Row) (CrudStage Row) (CrudAnswer Row) where
  first := .received
  next := CrudStage.next
  answer := CrudStage.answer

/-- Only a request that creates a row makes its key appear. -/
theorem Serves.appears {store next : Store Row} {request : CrudRequest Row}
    {answer : CrudAnswer Row} (serves : Serves store request answer next) {id : Int}
    (missing : store id = none) (known : (next id).isSome) :
    ∃ stored, answer = .createdAtAction id stored := by
  cases serves with
  | values | value | unknown | mismatch | notEdited | editConflict | notAdded | notDeleted
  | deleteConflict =>
      rw [missing] at known
      cases known
  | @edited other row same before =>
      by_cases here : id = other
      · rw [here] at missing
        rw [missing] at before
        cases before
      · rw [Function.update_of_ne here, missing] at known
        cases known
  | @added row stored storedAs free =>
      by_cases here : id = Entity.key stored
      · exact ⟨stored, by rw [here]⟩
      · rw [Function.update_of_ne here, missing] at known
        cases known
  | @deleted other before =>
      by_cases here : id = other
      · rw [here, Function.update_self] at known
        cases known
      · rw [Function.update_of_ne here, missing] at known
        cases known

/-- Only a deletion makes a key disappear. -/
theorem Serves.disappears {store next : Store Row} {request : CrudRequest Row}
    {answer : CrudAnswer Row} (serves : Serves store request answer next) {id : Int}
    (known : (store id).isSome) (missing : next id = none) :
    request = .delete id ∧ answer = .noContent := by
  cases serves with
  | values | value | unknown | mismatch | notEdited | editConflict | notAdded | notDeleted
  | deleteConflict =>
      rw [missing] at known
      cases known
  | @edited other row same before =>
      by_cases here : id = other
      · rw [here, Function.update_self] at missing
        cases missing
      · rw [Function.update_of_ne here] at missing
        rw [missing] at known
        cases known
  | @added row stored storedAs free =>
      by_cases here : id = Entity.key stored
      · rw [here, Function.update_self] at missing
        cases missing
      · rw [Function.update_of_ne here] at missing
        rw [missing] at known
        cases known
  | @deleted other before =>
      by_cases here : id = other
      · exact ⟨by rw [here], rfl⟩
      · rw [Function.update_of_ne here] at missing
        rw [missing] at known
        cases known

section Conflicts

variable {requests : List (CrudRequest Row)} {table : Table Row}

omit [Entity Row] in
theorem eq_answered {stage : CrudStage Row} {answer : CrudAnswer Row}
    (ended : stage.answer = some answer) : stage = .answered answer := by
  cases stage with
  | answered given =>
      cases ended
      rfl
  | received | rowExists | saveRemoved => cases ended

theorem CrudStep.belongs {request : CrudRequest Row} {table next : Table Row}
    {stage after : CrudStage Row} (step : CrudStep table stage after next)
    (here : stage.Belongs request) : after.Belongs request := by
  cases ended : after.answer with
  | none => exact (step.silent here ended).1
  | some answer =>
      rw [eq_answered ended]
      trivial

theorem CrudStep.to_rowExists {table next : Table Row} {stage : CrudStage Row} {id : Int}
    (step : CrudStep table stage (.rowExists id) next) :
    ∃ row, stage = .received (.put id row) ∧ id = Entity.key row ∧ table.hasKey id = false ∧
      next = table := by
  cases step with
  | missed missing => exact ⟨_, rfl, rfl, missing, rfl⟩

theorem CrudStep.to_saveRemoved {table next : Table Row} {stage : CrudStage Row} {row : Row}
    (step : CrudStep table stage (.saveRemoved row) next) :
    stage = .received (.delete (Entity.key row)) ∧ table.hasKey (Entity.key row) = true ∧
      next = table := by
  cases step with
  | located member => exact ⟨rfl, Table.hasKey_of_mem member, rfl⟩

theorem CrudStep.to_conflict {table next : Table Row} {stage : CrudStage Row}
    (step : CrudStep table stage (.answered (.thrown .dbUpdateConcurrency)) next) :
    (∃ id, stage = .rowExists id ∧ table.hasKey id = true) ∨
      ∃ row, stage = .saveRemoved row ∧ table.hasKey (Entity.key row) = false := by
  cases step with
  | editConflict known => exact Or.inl ⟨_, rfl, known⟩
  | deleteConflict missing => exact Or.inr ⟨_, rfl, missing⟩

/-- Every stage belongs to a request. -/
def AllBelong (requests : List (CrudRequest Row)) (stages : List (CrudStage Row)) : Prop :=
  ∀ (number : Nat) (stage : CrudStage Row), stages[number]? = some stage →
    ∃ request, requests[number]? = some request ∧ stage.Belongs request

theorem allBelong_pick {config : Table Row × List (CrudStage Row)}
    (belong : AllBelong requests config.2) (number : Nat) :
    AllBelong requests ((crudHandler Row).pick config number).2 := by
  rcases (crudHandler Row).pick_cases config number with
    ⟨same, -⟩ | ⟨stage, stands, running, moved, -⟩
  · rw [same]
    exact belong
  · rcases belong number stage stands with ⟨request, received, here⟩
    rw [moved]
    intro other current currentStands
    rw [List.getElem?_set] at currentStands
    split at currentStands
    next same =>
      split at currentStands
      next =>
        cases currentStands
        cases same
        exact ⟨request, received, (crudStep_next running config.1).belongs here⟩
      next => cases currentStands
    next => exact belong other current currentStands

theorem allBelong_run (requests : List (CrudRequest Row)) (table : Table Row)
    (schedule : List Nat) :
    AllBelong requests ((crudHandler Row).run requests table schedule).2 := by
  induction schedule using List.reverseRecOn with
  | nil =>
      intro number stage stands
      rw [Handler.run, List.foldl_nil, List.getElem?_map, Option.map_eq_some_iff] at stands
      rcases stands with ⟨request, received, rfl⟩
      exact ⟨request, received, rfl⟩
  | append_singleton schedule number ih =>
      rw [Handler.run_snoc]
      exact allBelong_pick ih number

/-- The call of a request, if it has one. -/
theorem pick_serves {config : Table Row × List (CrudStage Row)}
    (belong : AllBelong requests config.2) (number : Nat) :
    ((crudHandler Row).pick config number).1 = config.1 ∨
      ∃ request answer, requests[number]? = some request ∧
        (crudHandler Row).stepAnswer config number = some answer ∧
        Serves config.1.lookup request answer ((crudHandler Row).pick config number).1.lookup := by
  rcases (crudHandler Row).pick_cases config number with
    ⟨same, -⟩ | ⟨stage, stands, running, moved, given⟩
  · exact Or.inl (by rw [same])
  · rcases belong number stage stands with ⟨request, received, here⟩
    have step := crudStep_next running config.1
    rw [moved, given]
    cases ended : (stage.next config.1).1.answer with
    | none => exact Or.inl (step.silent here ended).2
    | some answer => exact Or.inr ⟨request, answer, received, ended, step.serves here ended⟩

/-- If a key appears in a part of a run, a request of this part has created its row. -/
theorem created_between {earlier later : List Nat} {id : Int}
    (missing : ((crudHandler Row).run requests table earlier).1.hasKey id = false)
    (known : ((crudHandler Row).run requests table (earlier ++ later)).1.hasKey id = true) :
    ∃ before other after stored, later = before ++ other :: after ∧
      (crudHandler Row).stepAnswer ((crudHandler Row).run requests table (earlier ++ before)) other =
        some (.createdAtAction id stored) := by
  induction later using List.reverseRecOn with
  | nil =>
      rw [List.append_nil, missing] at known
      cases known
  | append_singleton later number ih =>
      cases before : ((crudHandler Row).run requests table (earlier ++ later)).1.hasKey id with
      | true =>
          rcases ih before with ⟨front, other, after, stored, rfl, created⟩
          exact ⟨front, other, after ++ [number], stored, by simp, created⟩
      | false =>
          rw [← List.append_assoc, Handler.run_snoc] at known
          rcases pick_serves (allBelong_run requests table (earlier ++ later)) number with
            same | ⟨request, answer, -, given, serves⟩
          · rw [same, before] at known
            cases known
          · rw [← Table.lookup_isSome] at known
            rcases serves.appears (Table.lookup_eq_none_iff.mpr before) known with ⟨stored, rfl⟩
            exact ⟨later, number, [], stored, rfl, given⟩

/-- If a key disappears in a part of a run, a request of this part has deleted its row. -/
theorem deleted_between {earlier later : List Nat} {id : Int}
    (known : ((crudHandler Row).run requests table earlier).1.hasKey id = true)
    (missing : ((crudHandler Row).run requests table (earlier ++ later)).1.hasKey id = false) :
    ∃ before other after, later = before ++ other :: after ∧ requests[other]? = some (.delete id) ∧
      (crudHandler Row).stepAnswer ((crudHandler Row).run requests table (earlier ++ before)) other =
        some .noContent := by
  induction later using List.reverseRecOn with
  | nil =>
      rw [List.append_nil, known] at missing
      cases missing
  | append_singleton later number ih =>
      cases before : ((crudHandler Row).run requests table (earlier ++ later)).1.hasKey id with
      | false =>
          rcases ih before with ⟨front, other, after, rfl, facts⟩
          exact ⟨front, other, after ++ [number], by simp, facts⟩
      | true =>
          rw [← List.append_assoc, Handler.run_snoc] at missing
          rcases pick_serves (allBelong_run requests table (earlier ++ later)) number with
            same | ⟨request, answer, received, given, serves⟩
          · rw [same, before] at missing
            cases missing
          · rw [← Table.lookup_isSome] at before
            rcases serves.disappears before (Table.lookup_eq_none_iff.mpr missing) with ⟨rfl, rfl⟩
            exact ⟨later, number, [], rfl, received, given⟩

/-- The calls that come before a conflict: an edit saves after the first part of the schedule and
does not find its row, or a deletion finds it there; after the second part, another request is
answered that has created the row, or deleted it. -/
inductive CausedBy (requests : List (CrudRequest Row)) (table : Table Row) (number : Nat)
    (first between : List Nat) (other : Nat) : CrudRequest Row → Prop where
  | edit {row stored : Row}
      (missed : ((crudHandler Row).run requests table first).1.hasKey (Entity.key row) = false)
      (created : (crudHandler Row).stepAnswer
        ((crudHandler Row).run requests table (first ++ number :: between)) other =
          some (.createdAtAction (Entity.key row) stored)) :
      CausedBy requests table number first between other (.put (Entity.key row) row)
  | delete {id : Int}
      (found : ((crudHandler Row).run requests table first).1.hasKey id = true)
      (received : requests[other]? = some (.delete id))
      (deleted : (crudHandler Row).stepAnswer
        ((crudHandler Row).run requests table (first ++ number :: between)) other =
          some .noContent) :
      CausedBy requests table number first between other (.delete id)

/-- The call that has led to a stage. -/
theorem entered_step {schedule : List Nat} {number : Nat} {request : CrudRequest Row}
    {stage : CrudStage Row} (received : requests[number]? = some request)
    (stands : ((crudHandler Row).run requests table schedule).2[number]? = some stage)
    (moved : stage ≠ .received request) :
    ∃ earlier later previous, schedule = earlier ++ number :: later ∧
      ((crudHandler Row).run requests table earlier).2[number]? = some previous ∧
      previous.Belongs request ∧
      CrudStep ((crudHandler Row).run requests table earlier).1 previous stage
        ((crudHandler Row).run requests table (earlier ++ [number])).1 ∧
      (crudHandler Row).stepAnswer ((crudHandler Row).run requests table earlier) number =
        stage.answer := by
  rcases Handler.entered stands with
    ⟨other, here, rfl⟩ | ⟨earlier, later, previous, rfl, stood, running, led⟩
  · rw [received] at here
    cases here
    exact absurd rfl moved
  · rcases allBelong_run requests table earlier number previous stood with ⟨other, known, here⟩
    rw [received] at known
    cases known
    refine ⟨earlier, later, previous, rfl, stood, here, ?_⟩
    rcases Handler.pick_running stood running with ⟨picked, given⟩
    have step := crudStep_next running ((crudHandler Row).run requests table earlier).1
    rw [Handler.run_snoc, picked, given]
    exact ⟨led ▸ step, congrArg CrudStage.answer led⟩

/-- However the requests to a table are interleaved, a request ends with a concurrency exception
only if another request came in between.  An edit has not found its row when it saved, and
another request has created the row before the edit asked for it; or a deletion has found its
row, and another request has deleted it before. -/
theorem conflicts_caused (requests : List (CrudRequest Row)) (table : Table Row)
    (schedule : List Nat) {number : Nat} {request : CrudRequest Row}
    (received : requests[number]? = some request)
    (conflict : (crudHandler Row).answered ((crudHandler Row).run requests table schedule) number =
      some (.thrown .dbUpdateConcurrency)) :
    ∃ first between other rest last,
      schedule = first ++ number :: (between ++ other :: (rest ++ number :: last)) ∧
      other ≠ number ∧
      ((crudHandler Row).run requests table first).2[number]? = some (.received request) ∧
      CausedBy requests table number first between other request ∧
      (crudHandler Row).stepAnswer ((crudHandler Row).run requests table
        (first ++ number :: (between ++ other :: rest))) number =
          some (.thrown .dbUpdateConcurrency) := by
  rcases Option.bind_eq_some_iff.mp conflict with ⟨stage, stands, ended⟩
  cases eq_answered ended
  -- the last call
  rcases entered_step received stands (by simp) with
    ⟨earlier, last, previous, rfl, stood, here, step, given⟩
  have parted (first between rest : List Nat) (other : Nat) :
      first ++ number :: (between ++ other :: rest) = first ++ number :: between ++ other :: rest := by
    simp
  rcases step.to_conflict with ⟨id, rfl, known⟩ | ⟨row, rfl, missing⟩
  · rcases here with ⟨row, rfl, same⟩
    rcases entered_step received stood (by simp) with
      ⟨first, later, _, rfl, stoodFirst, here, saved, -⟩
    rcases saved.to_rowExists with ⟨_, rfl, -, missed, kept⟩
    cases here
    rw [List.append_cons] at known
    rcases created_between (kept ▸ missed) known with ⟨between, other, rest, stored, rfl, created⟩
    cases same
    rw [← List.append_cons] at created
    rw [parted] at given
    refine ⟨first, between, other, rest, last, by simp, Handler.answers_once created given,
      stoodFirst, .edit missed created, ?_⟩
    rw [parted]
    exact given
  · cases here
    rcases entered_step received stood (by simp) with
      ⟨first, later, _, rfl, stoodFirst, here, looked, -⟩
    rcases looked.to_saveRemoved with ⟨rfl, found, kept⟩
    rw [List.append_cons] at missing
    rcases deleted_between (kept ▸ found) missing with
      ⟨between, other, rest, rfl, known, deleted⟩
    rw [← List.append_cons] at deleted
    rw [parted] at given
    refine ⟨first, between, other, rest, last, by simp, Handler.answers_once deleted given,
      stoodFirst, .delete found known deleted, ?_⟩
    rw [parted]
    exact given

end Conflicts

/-- A table with one task. -/
def oneTask : Table TaskModel where
  rows := [⟨1, 7, some 0, none⟩]
  nextKey := 5
  keys_nodup := List.nodup_singleton _
  keys_lt := List.forall_mem_singleton.mpr (by decide)
  nextKey_pos := by decide

/-- Two deletions of the task find it before one of them removes it. -/
theorem conflicts_caused_twice :
    ∃ first between other rest last,
      [0, 1, 0, 1] = first ++ 1 :: (between ++ other :: (rest ++ 1 :: last)) ∧ other ≠ 1 ∧
      ((crudHandler TaskModel).run [.delete 1, .delete 1] oneTask first).2[1]? =
        some (.received (.delete 1)) ∧
      CausedBy [.delete 1, .delete 1] oneTask 1 first between other (.delete 1) ∧
      (crudHandler TaskModel).stepAnswer ((crudHandler TaskModel).run [.delete 1, .delete 1] oneTask
        (first ++ 1 :: (between ++ other :: rest))) 1 = some (.thrown .dbUpdateConcurrency) :=
  conflicts_caused [.delete 1, .delete 1] oneTask [0, 1, 0, 1] rfl (by decide)

end ECam.Server
