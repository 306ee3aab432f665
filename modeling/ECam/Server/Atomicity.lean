import ECam.Server.Dispatch

/-!
# Status reports on a failing database

`UpdateCurrentStatus` commits twice: first the status, then, for a status without a
task, the removal of the old tasks.  Each save is all-or-nothing and may fail for
reasons of its own, such as a lost connection.  A report is atomic unless it is
interrupted between its two saves; then the robot is stored as waiting while its old
tasks are still queued.
-/

namespace ECam.Server

open ECam.Library

/-- A save on a database that may fail: without a fault it is executed, with one it
throws before anything is committed. -/
def attempt {α : Type} (fault : Option Exn) (save : Action α) : Action α :=
  match fault with
  | none => save
  | some exception => throw exception

/-- `UpdateCurrentStatus`, with the faults of its two `SaveChangesAsync` calls. -/
def tryUpdateCurrentStatus (first second : Option Exn) (robotId : Int)
    (newStatus : CurrentStatusModel) : Action ActionResult := do
  let known ← anyStatus robotId
  let stored ← attempt first (saveStatus known newStatus)
  if newStatus.taskID = none then
    let oldTasks ← selectTasks robotId
    attempt second (saveRemovedTasks oldTasks)
  return .createdAtAction stored

/-- Without faults this is the handler. -/
theorem tryUpdateCurrentStatus_none :
    tryUpdateCurrentStatus none none = updateCurrentStatus := rfl

/-! ## What a failure leaves -/

/-- A report that ends with an exception leaves both tables as they were. -/
def AtomicReport (first second : Option Exn) (robotId : Int) (newStatus : CurrentStatusModel)
    (db : DbContext) : Prop :=
  ∀ exception after,
    tryUpdateCurrentStatus first second robotId newStatus db = .error exception after →
    after.currentStatuses = db.currentStatuses ∧ after.tasks = db.tasks

/-- The database accepts the status: a modified row must be there, an added one must
not, unless its key is left to the database. -/
def AcceptsStatus (db : DbContext) (robotId : Int) (newStatus : CurrentStatusModel) : Prop :=
  if db.hasStatus robotId then
    db.hasStatus newStatus.robotID = true
  else
    newStatus.robotID = 0 ∨ db.hasStatus newStatus.robotID = false

/-- The status is a change: it is not the row that is stored already. -/
def ChangesStatus (db : DbContext) (robotId : Int) (newStatus : CurrentStatusModel) : Prop :=
  ¬(db.hasStatus robotId = true ∧ newStatus ∈ db.currentStatuses.rows)

/-- An idle report whose status is committed and whose second save fails. -/
structure Interrupted (first second : Option Exn) (robotId : Int)
    (newStatus : CurrentStatusModel) (db : DbContext) : Prop where
  idle : newStatus.taskID = none
  firstSaved : first = none
  secondFails : second ≠ none
  accepted : AcceptsStatus db robotId newStatus
  changed : ChangesStatus db robotId newStatus

/-- A modified status was there, and changes the table unless it was the row stored. -/
theorem saveModifiedStatus_effect {newStatus stored : CurrentStatusModel} {db next : DbContext}
    (saved : saveModifiedStatus newStatus db = .ok stored next) :
    db.hasStatus newStatus.robotID = true ∧ next.tasks = db.tasks ∧
      (next.currentStatuses = db.currentStatuses ↔ newStatus ∈ db.currentStatuses.rows) := by
  cases updated : db.currentStatuses.update? newStatus with
  | none =>
      simp only [saveModifiedStatus, Action.bind_apply, Action.get_apply, updated,
        Action.throw_apply] at saved
      cases saved
  | some statuses =>
      simp only [saveModifiedStatus, Action.bind_apply, Action.get_apply, updated,
        Action.set_apply, Action.pure_apply] at saved
      cases saved
      exact ⟨(Table.update?_some updated).1, rfl, Table.update?_eq_self_iff updated⟩

/-- An added status had a free key or received one, and always changes the table. -/
theorem saveAddedStatus_effect {newStatus stored : CurrentStatusModel} {db next : DbContext}
    (saved : saveAddedStatus newStatus db = .ok stored next) :
    (newStatus.robotID = 0 ∨ db.hasStatus newStatus.robotID = false) ∧
      next.tasks = db.tasks ∧ next.currentStatuses ≠ db.currentStatuses := by
  cases added : db.currentStatuses.add? newStatus with
  | none =>
      simp only [saveAddedStatus, Action.bind_apply, Action.get_apply, added,
        Action.throw_apply] at saved
      cases saved
  | some result =>
      rcases result with ⟨statuses, row⟩
      rcases Table.add?_cases added with ⟨assigned, free, rows⟩
      simp only [saveAddedStatus, Action.bind_apply, Action.get_apply, added,
        Action.set_apply, Action.pure_apply] at saved
      cases saved
      refine ⟨?_, rfl, ?_⟩
      · by_cases unassigned : newStatus.robotID = 0
        · exact Or.inl unassigned
        · right
          have own : db.currentStatuses.assignKey newStatus = newStatus := if_neg unassigned
          rw [assigned, own] at free
          exact free
      · intro same
        have sameRows : statuses.rows = db.currentStatuses.rows := congrArg Table.rows same
        rw [rows] at sameRows
        simp at sameRows

/-- A status that is saved was accepted, and changes the table exactly if it is a
change. -/
theorem saveStatus_effect {robotId : Int} {newStatus stored : CurrentStatusModel}
    {db next : DbContext}
    (saved : saveStatus (db.hasStatus robotId) newStatus db = .ok stored next) :
    AcceptsStatus db robotId newStatus ∧ next.tasks = db.tasks ∧
      (next.currentStatuses = db.currentStatuses ↔ ¬ChangesStatus db robotId newStatus) := by
  cases known : db.hasStatus robotId with
  | true =>
      rw [known] at saved
      simp only [AcceptsStatus, ChangesStatus, known, if_true, true_and, not_not]
      exact saveModifiedStatus_effect saved
  | false =>
      rw [known] at saved
      simp only [AcceptsStatus, ChangesStatus, known, Bool.false_eq_true, if_false, false_and,
        not_false_eq_true, not_true_eq_false, iff_false]
      exact saveAddedStatus_effect saved

theorem AcceptsStatus.saved {db : DbContext} {robotId : Int} {newStatus : CurrentStatusModel}
    (accepted : AcceptsStatus db robotId newStatus) :
    ∃ stored next, saveStatus (db.hasStatus robotId) newStatus db = .ok stored next := by
  cases known : db.hasStatus robotId with
  | true =>
      simp only [AcceptsStatus, known, if_true] at accepted
      have used : db.currentStatuses.hasKey (Entity.key newStatus) = true := accepted
      rcases Table.update?_of_hasKey used with ⟨statuses, updated⟩
      simp [saveStatus, saveModifiedStatus, updated]
  | false =>
      simp only [AcceptsStatus, known, Bool.false_eq_true, if_false] at accepted
      by_cases unassigned : newStatus.robotID = 0
      · have noKey : Entity.key newStatus = 0 := unassigned
        rcases db.currentStatuses.add?_generated noKey with ⟨statuses, added, _⟩
        simp [saveStatus, saveAddedStatus, added]
      · have free : db.currentStatuses.hasKey (Entity.key newStatus) = false :=
          accepted.resolve_left unassigned
        rcases Table.add?_own unassigned free with ⟨statuses, added, _⟩
        simp [saveStatus, saveAddedStatus, added]

/-! ## The two saves -/

theorem tryUpdateCurrentStatus_first (exception : Exn) (second : Option Exn) (robotId : Int)
    (newStatus : CurrentStatusModel) (db : DbContext) :
    tryUpdateCurrentStatus (some exception) second robotId newStatus db =
      .error exception db := by
  simp only [tryUpdateCurrentStatus, attempt, anyStatus, Action.bind_apply, Action.get_apply,
    Action.pure_apply, Action.throw_apply]

/-- With the status rejected nothing is committed. -/
theorem tryUpdateCurrentStatus_rejected {robotId : Int} {newStatus : CurrentStatusModel}
    {exception : Exn} {db : DbContext} (second : Option Exn)
    (failed : saveStatus (db.hasStatus robotId) newStatus db = .error exception db) :
    tryUpdateCurrentStatus none second robotId newStatus db = .error exception db := by
  simp only [tryUpdateCurrentStatus, attempt, anyStatus, Action.bind_apply, Action.get_apply,
    Action.pure_apply, failed]

/-- With the status committed, a report with a task is finished, and one without a task
depends on the second save. -/
theorem tryUpdateCurrentStatus_saved {robotId : Int} {newStatus stored : CurrentStatusModel}
    {db next : DbContext} (second : Option Exn)
    (saved : saveStatus (db.hasStatus robotId) newStatus db = .ok stored next) :
    tryUpdateCurrentStatus none second robotId newStatus db =
      match newStatus.taskID, second with
      | none, some exception => .error exception next
      | _, _ => .ok (.createdAtAction stored) (afterStatus robotId newStatus next) := by
  simp only [tryUpdateCurrentStatus, attempt, anyStatus, Action.bind_apply, Action.get_apply,
    Action.pure_apply, saved, afterStatus]
  cases idle : newStatus.taskID with
  | some taskId => simp
  | none =>
      cases second with
      | none => simp [selectTasks, saveRemovedTasks_selected]
      | some exception => simp [selectTasks]

/-- A report is atomic exactly if it is not interrupted between its two saves. -/
theorem report_atomic_iff (first second : Option Exn) (robotId : Int)
    (newStatus : CurrentStatusModel) (db : DbContext) :
    AtomicReport first second robotId newStatus db ↔
      ¬Interrupted first second robotId newStatus db := by
  constructor
  · intro atomic interrupted
    rcases interrupted.accepted.saved with ⟨stored, next, saved⟩
    have same := (saveStatus_effect saved).2.2
    rcases Option.ne_none_iff_exists'.mp interrupted.secondFails with ⟨exception, fails⟩
    have failed : tryUpdateCurrentStatus first second robotId newStatus db =
        .error exception next := by
      rw [interrupted.firstSaved, fails, tryUpdateCurrentStatus_saved _ saved,
        interrupted.idle]
    exact same.mp (atomic exception next failed).1 interrupted.changed
  · intro uninterrupted exception after failed
    cases first with
    | some fault =>
        rw [tryUpdateCurrentStatus_first] at failed
        cases failed
        exact ⟨rfl, rfl⟩
    | none =>
        rcases saveStatus_cases (db.hasStatus robotId) newStatus db with
          ⟨fault, rejected⟩ | ⟨stored, next, saved, _⟩
        · rw [tryUpdateCurrentStatus_rejected second rejected] at failed
          cases failed
          exact ⟨rfl, rfl⟩
        · rw [tryUpdateCurrentStatus_saved second saved] at failed
          split at failed
          next fault idle =>
            cases failed
            rcases saveStatus_effect saved with ⟨accepted, tasks, same⟩
            refine ⟨same.mpr ?_, tasks⟩
            intro changed
            exact uninterrupted ⟨idle, rfl, Option.some_ne_none _, accepted, changed⟩
          next => cases failed

/-- Robot `7`, at work on the first of its three tasks, reports that it is idle, and the
second save fails: it is stored as waiting, and its tasks are still queued. -/
theorem report_not_atomic :
    ¬AtomicReport none (some .dbUpdate) 7 ⟨7, none, none, none⟩ startedContext ∧
      ∃ after, tryUpdateCurrentStatus none (some .dbUpdate) 7 ⟨7, none, none, none⟩
          startedContext = .error .dbUpdate after ∧
        after.statusOf 7 = some ⟨7, none, none, none⟩ ∧
        after.tasksOf 7 = [pairTask 1 0, pairTask 2 1, pairTask 3 2] := by
  let after := (tryUpdateCurrentStatus none (some .dbUpdate) 7 ⟨7, none, none, none⟩).after
    startedContext
  have failed : tryUpdateCurrentStatus none (some .dbUpdate) 7 ⟨7, none, none, none⟩
      startedContext = .error .dbUpdate after := rfl
  have waiting : after.statusOf 7 = some ⟨7, none, none, none⟩ := rfl
  refine ⟨?_, after, failed, waiting, rfl⟩
  intro atomic
  have same : after.currentStatuses = startedContext.currentStatuses :=
    (atomic _ _ failed).1
  rw [DbContext.statusOf, same] at waiting
  cases waiting

end ECam.Server
