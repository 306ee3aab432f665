import ECam.Server.Dispatch

/-!
# What NextTask answers

`NextTask` runs three queries that throw on an unexpected number of matches.  With
distinct order numbers in every queue the last of them never throws, so the answer is
determined by the status row of the robot and the task it names.  One case is left
over: the first query answers null for a robot without a status row, and the handler
dereferences it.
-/

namespace ECam.Server

open ECam.Library

/-- Every order number is set and has a successor among the values of `int`. -/
def NumbersHaveSuccessors (db : DbContext) : Prop :=
  ∀ task ∈ db.tasks.rows, ∃ number, task.orderNumber = some number ∧
    -2 ^ 31 ≤ number ∧ number < 2 ^ 31 - 1

/-- The intended outcomes of `NextTask` for a robot. -/
structure NextTaskOutcomes (db : DbContext) (robotId : Int) : Prop where
  unknown : db.statusOf robotId = none → nextTask robotId db = .ok .notFound db
  waiting : ∀ status, db.statusOf robotId = some status → status.taskID = none →
    nextTask robotId db = .ok .notFound db
  failure : ∀ exception after, nextTask robotId db = .error exception after →
    ∃ status currentTaskId, db.statusOf robotId = some status ∧
      status.taskID = some currentTaskId ∧
      ∀ task ∈ db.tasksOf robotId, task.taskID ≠ currentTaskId
  successor : ∀ status current, db.statusOf robotId = some status →
    current ∈ db.tasksOf robotId → status.taskID = some current.taskID →
    ∃ answer, nextTask robotId db = .ok (.value answer) db ∧
      ∀ task, answer = some task ↔ task ∈ db.tasksOf robotId ∧
        task.orderNumber = current.orderNumber.map (· + 1)
  unchanged : (nextTask robotId).after db = db

theorem nextTask_after (robotId : Int) (db : DbContext) :
    (nextTask robotId).after db = db := by
  rcases nextTask_db robotId db with ⟨answer, result⟩ | ⟨exception, result⟩ <;>
    simp only [Action.after, result]

/-- A missing status row is dereferenced. -/
theorem nextTask_unknown {robotId : Int} {db : DbContext}
    (unknown : db.statusOf robotId = none) :
    nextTask robotId db = .error .nullReference db := by
  have noRow : db.currentStatuses.rows.filter
      (fun status => status.robotID == robotId) = [] := by
    rw [DbContext.statusOf, List.find?_eq_none] at unknown
    exact List.filter_eq_nil_iff.mpr unknown
  simp only [nextTask, Action.bind_apply, Action.get_apply, singleOrDefault_none noRow,
    Action.throw_apply]

theorem nextTask_idle {robotId : Int} {db : DbContext} {status : CurrentStatusModel}
    (known : db.statusOf robotId = some status) (idle : status.taskID = none) :
    nextTask robotId db = .ok .notFound db := by
  simp only [nextTask, Action.bind_apply, Action.get_apply,
    singleOrDefault_some (DbContext.filter_status known), idle, Action.pure_apply]

/-- In a queue with distinct numbers, the query for a number selects at most one task. -/
theorem UniqueOrderNumbers.filter_number {db : DbContext} (unique : UniqueOrderNumbers db)
    (robotId number : Int) :
    ∃ answer : Option TaskModel,
      db.tasks.rows.filter (fun task => task.orderNumber == some number &&
        task.robotID == robotId) = answer.toList ∧
      ∀ task, answer = some task ↔ task ∈ db.tasksOf robotId ∧
        task.orderNumber = some number := by
  by_cases numbered : ∃ task ∈ db.tasksOf robotId, task.orderNumber = some number
  · rcases numbered with ⟨found, queued, foundNumber⟩
    rcases DbContext.mem_tasksOf.mp queued with ⟨stored, owner⟩
    refine ⟨some found, ?_, ?_⟩
    · apply filter_eq_singleton db.tasks.rows_nodup stored
      intro other otherStored
      simp only [Bool.and_eq_true, beq_iff_eq]
      constructor
      · rintro ⟨otherNumber, otherOwner⟩
        exact unique robotId number other found otherStored stored otherOwner owner
          otherNumber foundNumber
      · intro equal
        rw [equal]
        exact ⟨foundNumber, owner⟩
    · intro task
      constructor
      · intro equal
        cases equal
        exact ⟨queued, foundNumber⟩
      · rintro ⟨taskQueued, taskNumber⟩
        rcases DbContext.mem_tasksOf.mp taskQueued with ⟨taskStored, taskOwner⟩
        rw [unique robotId number found task stored taskStored owner taskOwner foundNumber
          taskNumber]
  · refine ⟨none, ?_, ?_⟩
    · apply List.filter_eq_nil_iff.mpr
      intro task stored accepted
      simp only [Bool.and_eq_true, beq_iff_eq] at accepted
      exact numbered ⟨task, DbContext.mem_tasksOf.mpr ⟨stored, accepted.2⟩, accepted.1⟩
    · intro task
      constructor
      · intro contradiction
        cases contradiction
      · rintro ⟨queued, number⟩
        exact absurd ⟨task, queued, number⟩ numbered

/-- With a current task in its queue, a robot is answered the task with the next
number, or none. -/
theorem nextTask_successor {db : DbContext} (numbers : NumbersHaveSuccessors db)
    (unique : UniqueOrderNumbers db) {robotId : Int} {status : CurrentStatusModel}
    {current : TaskModel} (known : db.statusOf robotId = some status)
    (queued : current ∈ db.tasksOf robotId) (reported : status.taskID = some current.taskID) :
    ∃ answer, nextTask robotId db = .ok (.value answer) db ∧
      ∀ task, answer = some task ↔ task ∈ db.tasksOf robotId ∧
        task.orderNumber = current.orderNumber.map (· + 1) := by
  rcases numbers current (DbContext.mem_tasksOf.mp queued).1 with
    ⟨number, currentNumber, lower, upper⟩
  have next : nextOrderNumber current.orderNumber = some (number + 1) := by
    rw [currentNumber, nextOrderNumber, Option.map_some,
      toInt32_eq_self (by omega) (by omega)]
  rcases unique.filter_number robotId (number + 1) with ⟨answer, selected, only⟩
  rw [← next] at selected
  refine ⟨answer, nextTask_current known queued reported selected, ?_⟩
  rw [currentNumber, Option.map_some]
  exact only

/-- `NextTask` has the intended outcomes exactly for the robots that have a status
row. -/
theorem nextTask_outcomes_iff {db : DbContext} (numbers : NumbersHaveSuccessors db)
    (unique : UniqueOrderNumbers db) (robotId : Int) :
    NextTaskOutcomes db robotId ↔ db.hasStatus robotId = true := by
  constructor
  · intro outcomes
    rw [← Bool.not_eq_false]
    intro missing
    have unknown := DbContext.statusOf_eq_none.mpr missing
    have answered := outcomes.unknown unknown
    rw [nextTask_unknown unknown] at answered
    cases answered
  · intro known
    refine ⟨?_, fun _ => nextTask_idle, ?_, fun _ _ => nextTask_successor numbers unique,
      nextTask_after robotId db⟩
    · intro unknown
      rw [DbContext.statusOf_eq_none.mp unknown] at known
      cases known
    · intro exception after failed
      cases found : db.statusOf robotId with
      | none =>
          rw [DbContext.statusOf_eq_none.mp found] at known
          cases known
      | some status =>
          cases task : status.taskID with
          | none =>
              rw [nextTask_idle found task] at failed
              cases failed
          | some currentTaskId =>
              refine ⟨status, currentTaskId, rfl, task, ?_⟩
              intro current queued named
              rw [← named] at task
              rcases nextTask_successor numbers unique found queued task with
                ⟨answer, answered, _⟩
              rw [answered] at failed
              cases failed

theorem startedContext_numbers : NumbersHaveSuccessors startedContext := by
  intro task member
  have cases : task = pairTask 1 0 ∨ task = pairTask 2 1 ∨ task = pairTask 3 2 := by
    simpa [startedContext] using member
  rcases cases with rfl | rfl | rfl
  · exact ⟨0, rfl, by decide, by decide⟩
  · exact ⟨1, rfl, by decide, by decide⟩
  · exact ⟨2, rfl, by decide, by decide⟩

theorem startedContext_unique : UniqueOrderNumbers startedContext := by
  intro robotId number left right leftMember rightMember _ _ leftNumber rightNumber
  have sameNumber := leftNumber.trans rightNumber.symm
  simp only [startedContext, List.mem_cons, List.not_mem_nil, or_false] at leftMember rightMember
  rcases leftMember with rfl | rfl | rfl <;> rcases rightMember with rfl | rfl | rfl <;>
    simp [pairTask] at sameNumber ⊢

/-- Robot `7` has reported the first of three tasks. -/
theorem nextTask_outcomes_iff_started :
    NextTaskOutcomes startedContext 7 ↔ startedContext.hasStatus 7 = true :=
  nextTask_outcomes_iff startedContext_numbers startedContext_unique 7

/-- A robot without a status row is not answered at all. -/
theorem nextTask_outcomes_fail :
    NumbersHaveSuccessors connectedContext ∧ UniqueOrderNumbers connectedContext ∧
      nextTask 7 connectedContext = .error .nullReference connectedContext ∧
      ¬NextTaskOutcomes connectedContext 7 := by
  have noTask : ∀ task, task ∉ connectedContext.tasks.rows := by
    intro task member
    cases member
  refine ⟨fun task member => absurd member (noTask task),
    fun _ _ left _ member => absurd member (noTask left), rfl, ?_⟩
  intro outcomes
  have answered := outcomes.unknown rfl
  cases answered

end ECam.Server
