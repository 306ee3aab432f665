import ECam.Server.Concurrency

/-!
# Serializability of reports and routes

Status reports and route requests of one robot run concurrently, interrupted
between any two database calls.  If every request completes without an error, the
outcome is that of a serial order: first the routes that some idle report has wiped,
in the order of their inserts, then the reports in the order of their saves, then
the routes that survive, again in the order of their inserts.

The proof follows the run with a history: which routes are wiped, which are live,
which reports have been saved.  A batch deletes the rows selected before it.  As
long as no other batch has removed one of them, they are a block at the front of the
robot's queue; once one is gone, the batch is bound to fail.
-/

namespace ECam.Server

open ECam.Library

variable {getPathList : Int → Int → Except Exn (NetList Int)} {robotId : Int}

/-- A route request together with the tasks it adds. -/
abbrev Route := RobotRequest × List TaskModel

/-- The tasks of several routes, in order. -/
def routeRows (routes : List Route) : List TaskModel :=
  routes.flatMap Prod.snd

@[simp] theorem routeRows_nil : routeRows [] = [] := rfl

@[simp] theorem routeRows_append (left right : List Route) :
    routeRows (left ++ right) = routeRows left ++ routeRows right := by
  simp [routeRows]

@[simp] theorem routeRows_singleton (route : Route) : routeRows [route] = route.2 := by
  simp [routeRows]

/-- The route request plans these tasks on the given map. -/
def Plans (getPathList : Int → Int → Except Exn (NetList Int)) (robotId : Int)
    (waypoints : Table WaypointModel) (route : Route) : Prop :=
  ∃ startWaypointId endWaypointId,
    route.1 = .navigationTasks startWaypointId endWaypointId ∧
    ∀ db : DbContext, db.waypoints = waypoints →
      planRoute getPathList robotId startWaypointId endWaypointId db = .ok route.2 db

/-- What has happened so far: routes that were inserted and deleted again, routes
that are still there, the reports in the order of their saves, and whether some
batch of deletes has been executed. -/
structure History where
  wiped : List Route
  live : List Route
  saves : List CurrentStatusModel
  cleared : Bool

/-- Rows of other robots stay; the initial rows of the robot go with the first
batch of deletes. -/
def History.base (history : History) (initial : DbContext) (robotId : Int) :
    List TaskModel :=
  if history.cleared then
    initial.tasks.rows.filter fun task => !(task.robotID == robotId)
  else
    initial.tasks.rows

/-- The first key of the live routes. -/
def History.start (history : History) (initial : DbContext) : Int :=
  initial.tasks.nextKey + (routeRows history.wiped).length

/-- The database is the one the history leads to. -/
structure Explains (getPathList : Int → Int → Except Exn (NetList Int)) (robotId : Int)
    (initial : DbContext) (history : History) (db : DbContext) : Prop where
  waypoints : db.waypoints = initial.waypoints
  statuses : history.saves.foldlM Table.update? initial.currentStatuses =
    some db.currentStatuses
  rows : db.tasks.rows = history.base initial robotId ++
    Table.stamp (history.start initial) (routeRows history.live)
  nextKey : db.tasks.nextKey =
    history.start initial + (routeRows history.live).length
  planned : ∀ route ∈ history.wiped ++ history.live,
    Plans getPathList robotId initial.waypoints route
  uncleared : history.cleared = false → history.wiped = []
  clearedBy : history.cleared = true → ∃ status ∈ history.saves, status.taskID = none
  own : ∀ status ∈ history.saves, status.robotID = robotId

/-- The selected rows are still there, as a block of whole routes at the front. -/
def Fresh (robotId : Int) (initial : DbContext) (history : History)
    (oldTasks : List TaskModel) : Prop :=
  ∃ front back, history.live = front ++ back ∧
    oldTasks = (history.base initial robotId).filter
        (fun task => task.robotID == robotId) ++
      Table.stamp (history.start initial) (routeRows front)

/-- A selected row is gone for good: its key is free and below the generator. -/
def Doomed (tasks : Table TaskModel) (oldTasks : List TaskModel) : Prop :=
  ∃ task ∈ oldTasks, tasks.hasKey task.taskID = false ∧ task.taskID < tasks.nextKey

/-- What is known about a job in its stage. -/
inductive JobOk (getPathList : Int → Int → Except Exn (NetList Int)) (robotId : Int)
    (initial : DbContext) (history : History) (tasks : Table TaskModel) : Job → Prop where
  | check {status : CurrentStatusModel} : status.robotID = robotId →
      JobOk getPathList robotId initial history tasks
        ⟨.updateCurrentStatus status, .check status⟩
  | save {status : CurrentStatusModel} : status.robotID = robotId →
      JobOk getPathList robotId initial history tasks
        ⟨.updateCurrentStatus status, .save true status⟩
  | select {status : CurrentStatusModel} : status.taskID = none →
      JobOk getPathList robotId initial history tasks
        ⟨.updateCurrentStatus status, .select⟩
  | delete {status : CurrentStatusModel} {oldTasks : List TaskModel} :
      status.taskID = none →
      (Fresh robotId initial history oldTasks ∨ Doomed tasks oldTasks) →
      JobOk getPathList robotId initial history tasks
        ⟨.updateCurrentStatus status, .delete oldTasks⟩
  | reported {status : CurrentStatusModel} :
      (status.taskID = none → history.cleared = true) →
      JobOk getPathList robotId initial history tasks
        ⟨.updateCurrentStatus status, .done⟩
  | findPath {startWaypointId endWaypointId : Int} :
      JobOk getPathList robotId initial history tasks
        ⟨.navigationTasks startWaypointId endWaypointId,
          .findPath startWaypointId endWaypointId⟩
  | read {startWaypointId endWaypointId : Int} {path : NetList Int}
      {before remaining : List Int} {pathWaypoints : List WaypointModel} :
      getPathList startWaypointId endWaypointId = .ok path →
      path.items = before ++ remaining →
      (∀ db : DbContext, db.waypoints = initial.waypoints →
        waypointsFromListAsync before db = .ok pathWaypoints db) →
      JobOk getPathList robotId initial history tasks
        ⟨.navigationTasks startWaypointId endWaypointId,
          .read path remaining pathWaypoints⟩
  | inserted {startWaypointId endWaypointId : Int} :
      JobOk getPathList robotId initial history tasks
        ⟨.navigationTasks startWaypointId endWaypointId, .done⟩

/-- The request has made the save that fixes its place in the serial order. -/
def Job.committed (job : Job) : Bool :=
  match job.stage with
  | .select => true
  | .delete _ => true
  | .done => true
  | _ => false

/-- The requests of a history in their serial order. -/
def History.order (history : History) : List RobotRequest :=
  history.wiped.map Prod.fst ++
    (history.saves.map RobotRequest.updateCurrentStatus ++ history.live.map Prod.fst)

/-- The invariant of an interleaving: some history explains the database, fits the
stage of every job, and contains exactly the requests that are committed. -/
structure Serial (getPathList : Int → Int → Except Exn (NetList Int)) (robotId : Int)
    (initial : DbContext) (history : History) (db : DbContext) (pool : List Job) :
    Prop where
  explains : Explains getPathList robotId initial history db
  jobs : ∀ job ∈ pool, JobOk getPathList robotId initial history db.tasks job
  committed : ((pool.filter Job.committed).map Job.request).Perm history.order

section Steps

variable {initial db : DbContext} {history : History}

/-! ## The queue of the robot -/

theorem Plans.shape {waypoints : Table WaypointModel} {route : Route} {db : DbContext}
    (plans : Plans getPathList robotId waypoints route) (map : db.waypoints = waypoints) :
    RouteTasks robotId route.2 := by
  rcases plans with ⟨startWaypointId, endWaypointId, _, planned⟩
  exact planRoute_shape (planned db map)

theorem stamp_owner {start : Int} {rows : List TaskModel}
    (owner : ∀ task ∈ rows, task.robotID = robotId) {task : TaskModel}
    (member : task ∈ Table.stamp start rows) : task.robotID = robotId := by
  rcases Table.key_of_mem_stamp member with ⟨original, originalMember, value, _, rfl⟩
  exact owner original originalMember

theorem Explains.live_owner
    (explains : Explains getPathList robotId initial history db) {routes : List Route}
    (subset : ∀ route ∈ routes, route ∈ history.wiped ++ history.live) :
    ∀ task ∈ routeRows routes, task.robotID = robotId := by
  intro task member
  rcases List.mem_flatMap.mp member with ⟨route, routeMember, taskMember⟩
  have plans := explains.planned route (subset route routeMember)
  exact (plans.shape rfl).owner task taskMember

/-- The robot's queue: its initial rows, unless cleared, and the live routes. -/
theorem Explains.tasksOf_eq (explains : Explains getPathList robotId initial history db) :
    db.tasksOf robotId =
      (history.base initial robotId).filter (fun task => task.robotID == robotId) ++
        Table.stamp (history.start initial) (routeRows history.live) := by
  rw [DbContext.tasksOf, explains.rows, List.filter_append]
  congr 1
  apply List.filter_eq_self.mpr
  intro task member
  have owner := stamp_owner (explains.live_owner (by simp +contextual)) member
  simp [owner]

theorem Fresh.isPrefix {oldTasks : List TaskModel}
    (explains : Explains getPathList robotId initial history db)
    (fresh : Fresh robotId initial history oldTasks) : oldTasks <+: db.tasksOf robotId := by
  rcases fresh with ⟨front, back, split, selected⟩
  rw [explains.tasksOf_eq, selected, split, routeRows_append, Table.stamp_append]
  rw [← List.append_assoc]
  exact List.prefix_append _ _

/-- A selection made now is fresh. -/
theorem Explains.fresh_selected
    (explains : Explains getPathList robotId initial history db) :
    Fresh robotId initial history (db.tasksOf robotId) :=
  ⟨history.live, [], by simp, explains.tasksOf_eq⟩

/-- Status saves keep the robot's row. -/
theorem hasKey_foldlM {statuses next : Table CurrentStatusModel}
    {saves : List CurrentStatusModel} (value : Int)
    (saved : saves.foldlM Table.update? statuses = some next) :
    next.hasKey value = statuses.hasKey value := by
  induction saves generalizing statuses with
  | nil =>
      simp only [List.foldlM_nil, Option.pure_def, Option.some.injEq] at saved
      rw [saved]
  | cons status saves ih =>
      rw [List.foldlM_cons] at saved
      cases updated : statuses.update? status with
      | none => simp [updated] at saved
      | some middle =>
          simp only [updated, Option.bind_eq_bind, Option.bind_some] at saved
          rw [ih saved, Table.hasKey_update? value updated]

theorem Explains.hasStatus (explains : Explains getPathList robotId initial history db)
    (known : initial.hasStatus robotId = true) : db.hasStatus robotId = true := by
  rw [DbContext.hasStatus, hasKey_foldlM robotId explains.statuses]
  exact known

/-! ## Jobs that do not move -/

theorem JobOk.mono {other : History} {tasks next : Table TaskModel} {job : Job}
    (ok : JobOk getPathList robotId initial history tasks job)
    (cleared : history.cleared = true → other.cleared = true)
    (pending : ∀ oldTasks, Fresh robotId initial history oldTasks ∨ Doomed tasks oldTasks →
      Fresh robotId initial other oldTasks ∨ Doomed next oldTasks) :
    JobOk getPathList robotId initial other next job := by
  cases ok with
  | check own => exact .check own
  | save own => exact .save own
  | select idle => exact .select idle
  | delete idle selection => exact .delete idle (pending _ selection)
  | reported finished => exact .reported fun idle => cleared (finished idle)
  | findPath => exact .findPath
  | read found split resolved => exact .read found split resolved
  | inserted => exact .inserted

/-- Replacing one job of the pool, when the others stay in order. -/
theorem jobs_replaced {other : History} {tasks next : Table TaskModel}
    {left right : List Job} {job after : Job}
    (jobs : ∀ entry ∈ left ++ job :: right,
      JobOk getPathList robotId initial history tasks entry)
    (cleared : history.cleared = true → other.cleared = true)
    (pending : ∀ oldTasks, Fresh robotId initial history oldTasks ∨ Doomed tasks oldTasks →
      Fresh robotId initial other oldTasks ∨ Doomed next oldTasks)
    (moved : JobOk getPathList robotId initial other next after) :
    ∀ entry ∈ left ++ after :: right,
      JobOk getPathList robotId initial other next entry := by
  intro entry member
  rw [List.mem_append, List.mem_cons] at member
  rcases member with inLeft | rfl | inRight
  · exact (jobs entry (by simp [inLeft])).mono cleared pending
  · exact moved
  · exact (jobs entry (by simp [inRight])).mono cleared pending

/-- A job that stays on the same side of its commit keeps the accounting. -/
theorem committed_same {left right : List Job} {job after : Job}
    (request : after.request = job.request) (stage : after.committed = job.committed) :
    ((left ++ after :: right).filter Job.committed).map Job.request =
      ((left ++ job :: right).filter Job.committed).map Job.request := by
  simp only [List.filter_append, List.filter_cons, stage, List.map_append]
  split
  · simp [request]
  · rfl

/-- A job that commits adds its request to the accounting. -/
theorem committed_new {left right : List Job} {job after : Job}
    (before : job.committed = false) (now : after.committed = true) :
    (((left ++ after :: right).filter Job.committed).map Job.request).Perm
      (after.request :: ((left ++ job :: right).filter Job.committed).map Job.request) := by
  simp only [List.filter_append, List.filter_cons, before, now, List.map_append, if_true,
    Bool.false_eq_true, if_false, List.map_cons]
  exact List.perm_middle

/-- A call that saves nothing and does not commit its request. -/
theorem Serial.quiet {left right : List Job} {job after : Job}
    (serial : Serial getPathList robotId initial history db (left ++ job :: right))
    (moved : JobOk getPathList robotId initial history db.tasks after)
    (request : after.request = job.request) (stage : after.committed = job.committed) :
    Serial getPathList robotId initial history db (left ++ after :: right) where
  explains := serial.explains
  jobs := jobs_replaced serial.jobs id (fun _ selection => selection) moved
  committed := by
    rw [committed_same request stage]
    exact serial.committed

/-! ## The save of a status row -/

/-- The history after a status row has been saved. -/
def History.report (history : History) (status : CurrentStatusModel) : History :=
  { history with saves := history.saves ++ [status] }

theorem Explains.report {status : CurrentStatusModel} {statuses : Table CurrentStatusModel}
    (explains : Explains getPathList robotId initial history db)
    (own : status.robotID = robotId)
    (updated : db.currentStatuses.update? status = some statuses) :
    Explains getPathList robotId initial (history.report status)
      { db with currentStatuses := statuses } where
  waypoints := explains.waypoints
  statuses := by
    change (history.saves ++ [status]).foldlM Table.update? initial.currentStatuses =
      some statuses
    rw [List.foldlM_append, explains.statuses]
    simp [updated]
  rows := explains.rows
  nextKey := explains.nextKey
  planned := explains.planned
  uncleared := explains.uncleared
  clearedBy := by
    intro cleared
    rcases explains.clearedBy cleared with ⟨idle, member, noTask⟩
    exact ⟨idle, List.mem_append_left _ member, noTask⟩
  own := by
    intro saved member
    rcases List.mem_append.mp member with old | new
    · exact explains.own saved old
    · rw [List.mem_singleton.mp new]
      exact own

/-- A saved report takes its place after the reports saved before. -/
theorem History.order_report (history : History) (status : CurrentStatusModel) :
    (history.report status).order.Perm
      (.updateCurrentStatus status :: history.order) := by
  simp only [History.order, History.report, List.map_append, List.map_cons, List.map_nil,
    List.append_assoc, List.singleton_append]
  rw [← List.append_assoc, ← List.append_assoc]
  exact List.perm_middle

theorem Serial.report {left right : List Job} {status : CurrentStatusModel}
    {statuses : Table CurrentStatusModel}
    (serial : Serial getPathList robotId initial history db
      (left ++ ⟨.updateCurrentStatus status, .save true status⟩ :: right))
    (own : status.robotID = robotId)
    (updated : db.currentStatuses.update? status = some statuses) :
    Serial getPathList robotId initial (history.report status)
      { db with currentStatuses := statuses }
      (left ++ ⟨.updateCurrentStatus status,
        if status.taskID = none then .select else .done⟩ :: right) where
  explains := serial.explains.report own updated
  jobs := by
    refine jobs_replaced serial.jobs (fun cleared => cleared)
      (fun _ selection => selection) ?_
    by_cases idle : status.taskID = none
    · rw [if_pos idle]
      exact .select idle
    · rw [if_neg idle]
      exact .reported fun noTask => absurd noTask idle
  committed := by
    have now : Job.committed ⟨.updateCurrentStatus status,
        if status.taskID = none then .select else .done⟩ = true := by
      by_cases idle : status.taskID = none <;> simp [Job.committed, idle]
    have added := @committed_new left right
      ⟨.updateCurrentStatus status, .save true status⟩ _ rfl now
    exact added.trans
      ((serial.committed.cons _).trans (history.order_report status).symm)

/-! ## The insert of a route -/

/-- The history after a route has been inserted. -/
def History.insert (history : History) (route : Route) : History :=
  { history with live := history.live ++ [route] }

theorem Explains.insert {route : Route} {tasks : Table TaskModel}
    (explains : Explains getPathList robotId initial history db)
    (plans : Plans getPathList robotId initial.waypoints route)
    (rows : tasks.rows = db.tasks.rows ++ insertedRows db route.2)
    (nextKey : tasks.nextKey = db.tasks.nextKey + route.2.length) :
    Explains getPathList robotId initial (history.insert route)
      { db with tasks := tasks } where
  waypoints := explains.waypoints
  statuses := explains.statuses
  rows := by
    change tasks.rows = history.base initial robotId ++
      Table.stamp (history.start initial) (routeRows (history.live ++ [route]))
    rw [rows, explains.rows, insertedRows, explains.nextKey, routeRows_append,
      routeRows_singleton, Table.stamp_append, List.append_assoc]
  nextKey := by
    change tasks.nextKey = history.start initial +
      (routeRows (history.live ++ [route])).length
    rw [nextKey, explains.nextKey, routeRows_append, routeRows_singleton, List.length_append]
    push_cast
    omega
  planned := by
    intro other member
    simp only [History.insert, List.mem_append, List.mem_singleton] at member
    rcases member with wiped | live | rfl
    · exact explains.planned other (List.mem_append_left _ wiped)
    · exact explains.planned other (List.mem_append_right _ live)
    · exact plans
  uncleared := explains.uncleared
  clearedBy := explains.clearedBy
  own := explains.own

/-- Rows added later have new keys, so what is gone stays gone. -/
theorem Doomed.insert {tasks : Table TaskModel} {oldTasks newTasks : List TaskModel}
    (doomed : Doomed db.tasks oldTasks)
    (rows : tasks.rows = db.tasks.rows ++ insertedRows db newTasks)
    (nextKey : tasks.nextKey = db.tasks.nextKey + newTasks.length) :
    Doomed tasks oldTasks := by
  rcases doomed with ⟨task, member, gone, below⟩
  refine ⟨task, member, ?_, by omega⟩
  rw [Table.hasKey, rows, List.any_append, Bool.or_eq_false_iff]
  refine ⟨gone, ?_⟩
  rw [List.any_eq_false]
  intro added addedMember
  rcases Table.key_of_mem_stamp addedMember with ⟨original, _, value, bound, rfl⟩
  rw [Entity.key_withKey, beq_iff_eq]
  omega

theorem Fresh.insert {oldTasks : List TaskModel} (route : Route)
    (fresh : Fresh robotId initial history oldTasks) :
    Fresh robotId initial (history.insert route) oldTasks := by
  rcases fresh with ⟨front, back, split, selected⟩
  refine ⟨front, back ++ [route], ?_, selected⟩
  simp [History.insert, split]

theorem History.order_insert (history : History) (route : Route) :
    (history.insert route).order.Perm (route.1 :: history.order) := by
  simp only [History.order, History.insert, List.map_append, List.map_cons, List.map_nil]
  rw [← List.append_assoc, ← List.append_assoc, ← List.append_assoc]
  exact List.perm_append_singleton _ _

theorem Serial.insert {left right : List Job} {startWaypointId endWaypointId : Int}
    {stage : Stage} {newTasks : List TaskModel} {tasks : Table TaskModel}
    (serial : Serial getPathList robotId initial history db
      (left ++ ⟨.navigationTasks startWaypointId endWaypointId, stage⟩ :: right))
    (before : Job.committed ⟨.navigationTasks startWaypointId endWaypointId, stage⟩ = false)
    (plans : Plans getPathList robotId initial.waypoints
      (.navigationTasks startWaypointId endWaypointId, newTasks))
    (rows : tasks.rows = db.tasks.rows ++ insertedRows db newTasks)
    (nextKey : tasks.nextKey = db.tasks.nextKey + newTasks.length) :
    Serial getPathList robotId initial
      (history.insert (.navigationTasks startWaypointId endWaypointId, newTasks))
      { db with tasks := tasks }
      (left ++ ⟨.navigationTasks startWaypointId endWaypointId, .done⟩ :: right) where
  explains := serial.explains.insert plans rows nextKey
  jobs := by
    refine jobs_replaced serial.jobs (fun cleared => cleared) ?_ .inserted
    intro oldTasks selection
    rcases selection with fresh | doomed
    · exact Or.inl (fresh.insert _)
    · exact Or.inr (doomed.insert rows nextKey)
  committed := by
    have added := @committed_new left right _
      ⟨.navigationTasks startWaypointId endWaypointId, .done⟩ before rfl
    have placed := history.order_insert (.navigationTasks startWaypointId endWaypointId, newTasks)
    exact added.trans ((serial.committed.cons _).trans placed.symm)

/-! ## A batch of deletes -/

/-- The history after a batch has deleted the initial rows and the first routes. -/
def History.clear (history : History) (front back : List Route) : History :=
  { history with wiped := history.wiped ++ front, live := back, cleared := true }

/-- The rows of other robots among the base rows are those of the initial table. -/
theorem History.base_filter (history : History) :
    ((history.base initial robotId).filter fun task => !(task.robotID == robotId)) =
      initial.tasks.rows.filter fun task => !(task.robotID == robotId) := by
  unfold History.base
  split
  · rw [List.filter_filter]
    simp
  · rfl

theorem History.start_clear (history : History) (front back : List Route) :
    (history.clear front back).start initial =
      history.start initial + (routeRows front).length := by
  simp only [History.start, History.clear, routeRows_append, List.length_append]
  push_cast
  omega

/-- No own row is left in the base after a batch of deletes. -/
theorem History.base_clear (history : History) (front back : List Route) :
    ((history.clear front back).base initial robotId).filter
      (fun task => task.robotID == robotId) = [] := by
  simp only [History.base, History.clear, if_true, List.filter_filter]
  apply List.filter_eq_nil_iff.mpr
  intro task _
  simp

/-- Routes move from behind the reports to their front when they are wiped. -/
theorem History.order_clear (history : History) {front back : List Route}
    (split : history.live = front ++ back) :
    (history.clear front back).order.Perm history.order := by
  simp only [History.order, History.clear, split, List.map_append]
  rw [List.append_assoc]
  apply List.Perm.append_left
  rw [← List.append_assoc, ← List.append_assoc]
  exact List.perm_append_comm.append_right _

/-- What the batch leaves: the rows of other robots and the later routes. -/
theorem Explains.cleared_rows {front back : List Route} {oldTasks : List TaskModel}
    (explains : Explains getPathList robotId initial history db)
    (split : history.live = front ++ back)
    (selected : oldTasks = (history.base initial robotId).filter
        (fun task => task.robotID == robotId) ++
      Table.stamp (history.start initial) (routeRows front)) :
    (db.tasks.without oldTasks).rows =
      (history.clear front back).base initial robotId ++
        Table.stamp ((history.clear front back).start initial) (routeRows back) := by
  have rows := explains.rows
  have nodup := db.tasks.rows_nodup
  have frontOwner : ∀ task ∈ Table.stamp (history.start initial) (routeRows front),
      task.robotID = robotId := fun task member =>
    stamp_owner (explains.live_owner (by simp +contextual [split])) member
  rw [split, routeRows_append, Table.stamp_append, ← history.start_clear front back] at rows
  rw [rows, List.nodup_append, List.nodup_append] at nodup
  rcases nodup with ⟨_, ⟨_, _, frontBack⟩, baseLive⟩
  have subset : ∀ task ∈ oldTasks, task ∈ db.tasks.rows := by
    intro task member
    rw [selected, List.mem_append, List.mem_filter] at member
    rw [rows, List.mem_append, List.mem_append]
    rcases member with ⟨inBase, _⟩ | inFront
    · exact Or.inl inBase
    · exact Or.inr (Or.inl inFront)
  rw [db.tasks.without_rows_of_subset subset, rows, List.filter_append, List.filter_append]
  have baseKept : (history.base initial robotId).filter (fun task => task ∉ oldTasks) =
      (history.clear front back).base initial robotId := by
    change _ = initial.tasks.rows.filter fun task => !(task.robotID == robotId)
    rw [← history.base_filter]
    apply List.filter_congr
    intro task member
    rw [decide_not]
    congr 1
    rw [Bool.eq_iff_iff, decide_eq_true_eq, selected, List.mem_append, List.mem_filter]
    constructor
    · rintro (⟨_, own⟩ | inFront)
      · exact own
      · simpa using frontOwner task inFront
    · intro own
      exact Or.inl ⟨member, own⟩
  have frontGone : (Table.stamp (history.start initial) (routeRows front)).filter
      (fun task => task ∉ oldTasks) = [] := by
    apply List.filter_eq_nil_iff.mpr
    intro task member
    simp [selected, member]
  have backKept : (Table.stamp ((history.clear front back).start initial)
      (routeRows back)).filter (fun task => task ∉ oldTasks) =
        Table.stamp ((history.clear front back).start initial) (routeRows back) := by
    apply List.filter_eq_self.mpr
    intro task member
    rw [decide_eq_true_eq, selected, List.mem_append, List.mem_filter]
    rintro (⟨inBase, _⟩ | inFront)
    · exact baseLive task inBase task (List.mem_append_right _ member) rfl
    · exact frontBack task inFront task member rfl
  rw [baseKept, frontGone, backKept, List.nil_append]

theorem Explains.clear {front back : List Route} {oldTasks : List TaskModel}
    {status : CurrentStatusModel}
    (explains : Explains getPathList robotId initial history db)
    (split : history.live = front ++ back)
    (selected : oldTasks = (history.base initial robotId).filter
        (fun task => task.robotID == robotId) ++
      Table.stamp (history.start initial) (routeRows front))
    (saved : status ∈ history.saves) (idle : status.taskID = none) :
    Explains getPathList robotId initial (history.clear front back)
      { db with tasks := db.tasks.without oldTasks } where
  waypoints := explains.waypoints
  statuses := explains.statuses
  rows := explains.cleared_rows split selected
  nextKey := by
    change db.tasks.nextKey = (history.clear front back).start initial +
      (routeRows back).length
    rw [explains.nextKey, history.start_clear, split, routeRows_append, List.length_append]
    push_cast
    omega
  planned := by
    intro route member
    apply explains.planned route
    rw [split, ← List.append_assoc]
    exact member
  uncleared := fun never => by cases never
  clearedBy := fun _ => ⟨status, saved, idle⟩
  own := explains.own

/-- Two selections that are both at the front of the queue share its first row, so
deleting one dooms the other. -/
theorem Fresh.clear {front back : List Route} {oldTasks others : List TaskModel}
    (explains : Explains getPathList robotId initial history db)
    (split : history.live = front ++ back)
    (selected : oldTasks = (history.base initial robotId).filter
        (fun task => task.robotID == robotId) ++
      Table.stamp (history.start initial) (routeRows front))
    (fresh : Fresh robotId initial history others) :
    Fresh robotId initial (history.clear front back) others ∨
      Doomed (db.tasks.without oldTasks) others := by
  have oldPrefix : oldTasks <+: db.tasksOf robotId :=
    Fresh.isPrefix explains ⟨front, back, split, selected⟩
  have othersPrefix := fresh.isPrefix explains
  cases others with
  | nil =>
      left
      refine ⟨[], back, rfl, ?_⟩
      rw [history.base_clear, routeRows_nil, Table.stamp_nil, List.append_nil]
  | cons task others =>
      cases oldTasks with
      | nil =>
          -- nothing was selected, so there is no initial row and no route to wipe
          left
          rcases fresh with ⟨otherFront, otherBack, otherSplit, otherSelected⟩
          have nothing := List.append_eq_nil_iff.mp selected.symm
          have noRows : routeRows front = [] := by
            rw [← List.length_eq_zero_iff, ← Table.length_stamp, nothing.2]
            rfl
          have noRoute : front = [] := by
            cases front with
            | nil => rfl
            | cons route front =>
                have plans := explains.planned route (by simp [split])
                have long := (plans.shape rfl).two_le_length
                have short : route.2 = [] := by
                  simp only [routeRows, List.flatMap_cons, List.append_eq_nil_iff] at noRows
                  exact noRows.1
                rw [short] at long
                simp at long
          refine ⟨otherFront, otherBack, ?_, ?_⟩
          · rw [← otherSplit, split, noRoute]
            rfl
          · rw [history.base_clear, history.start_clear, noRows, otherSelected, nothing.1]
            simp
      | cons first rest =>
          right
          rcases othersPrefix with ⟨othersRest, othersEq⟩
          rcases oldPrefix with ⟨oldRest, oldEq⟩
          have sameHead : first = task := by
            rw [← othersEq, List.cons_append, List.cons_append, List.cons.injEq] at oldEq
            exact oldEq.1
          have member : task ∈ db.tasksOf robotId := by
            rw [← othersEq]
            exact List.mem_append_left _ List.mem_cons_self
          refine ⟨task, List.mem_cons_self, ?_, ?_⟩
          · apply db.tasks.hasKey_without_of_mem
            rw [sameHead]
            exact List.mem_cons_self
          · exact db.tasks.keys_lt task (DbContext.mem_tasksOf.mp member).1

theorem Doomed.without {tasks : Table TaskModel} {oldTasks others : List TaskModel}
    (doomed : Doomed tasks others) : Doomed (tasks.without oldTasks) others := by
  rcases doomed with ⟨task, member, gone, below⟩
  exact ⟨task, member, tasks.hasKey_without_of_not gone, below⟩

/-- A committed report is among the saves. -/
theorem Serial.saved {pool : List Job} {status : CurrentStatusModel} {stage : Stage}
    (serial : Serial getPathList robotId initial history db pool)
    (member : ⟨.updateCurrentStatus status, stage⟩ ∈ pool)
    (committed : Job.committed ⟨.updateCurrentStatus status, stage⟩ = true) :
    status ∈ history.saves := by
  have counted : RobotRequest.updateCurrentStatus status ∈ history.order := by
    rw [← serial.committed.mem_iff, List.mem_map]
    exact ⟨_, List.mem_filter.mpr ⟨member, committed⟩, rfl⟩
  have noRoute : ∀ route ∈ history.wiped ++ history.live,
      route.1 ≠ .updateCurrentStatus status := by
    intro route routeMember equal
    rcases serial.explains.planned route routeMember with ⟨_, _, request, _⟩
    rw [equal] at request
    cases request
  simp only [History.order, List.mem_append, List.mem_map] at counted
  rcases counted with ⟨route, wiped, equal⟩ | ⟨saved, savedMember, equal⟩ | ⟨route, live, equal⟩
  · exact absurd equal (noRoute route (List.mem_append_left _ wiped))
  · cases equal
    exact savedMember
  · exact absurd equal (noRoute route (List.mem_append_right _ live))

theorem Serial.clear {left right : List Job} {status : CurrentStatusModel}
    {oldTasks : List TaskModel}
    (serial : Serial getPathList robotId initial history db
      (left ++ ⟨.updateCurrentStatus status, .delete oldTasks⟩ :: right))
    (idle : status.taskID = none) (fresh : Fresh robotId initial history oldTasks) :
    ∃ later, Serial getPathList robotId initial later
      { db with tasks := db.tasks.without oldTasks }
      (left ++ ⟨.updateCurrentStatus status, .done⟩ :: right) := by
  rcases fresh with ⟨front, back, split, selected⟩
  have saved := serial.saved (List.mem_append_right _ List.mem_cons_self) rfl
  refine ⟨history.clear front back, serial.explains.clear split selected saved idle, ?_, ?_⟩
  · refine jobs_replaced serial.jobs (fun _ => rfl) ?_ (.reported fun _ => rfl)
    intro others selection
    rcases selection with fresh | doomed
    · exact fresh.clear serial.explains split selected
    · exact Or.inr doomed.without
  · rw [@committed_same left right ⟨.updateCurrentStatus status, .delete oldTasks⟩
      ⟨.updateCurrentStatus status, .done⟩ rfl rfl]
    exact serial.committed.trans (history.order_clear split).symm

/-! ## One step of an interleaving -/

/-- Reading one more waypoint of a path. -/
theorem waypointsFromListAsync_snoc {before : List Int} {waypointId : Int}
    {pathWaypoints : List WaypointModel} {waypoint : WaypointModel}
    (resolved : waypointsFromListAsync before db = .ok pathWaypoints db)
    (found : firstWaypoint waypointId db = .ok waypoint db) :
    waypointsFromListAsync (before ++ [waypointId]) db =
      .ok (pathWaypoints ++ [waypoint]) db := by
  induction before generalizing pathWaypoints with
  | nil =>
      simp only [waypointsFromListAsync, Action.pure_apply, EStateM.Result.ok.injEq] at resolved
      rw [← resolved.1]
      simp [waypointsFromListAsync, found]
  | cons first before ih =>
      simp only [waypointsFromListAsync, Action.bind_apply] at resolved
      rcases firstWaypoint_reads first with ⟨read, readEq⟩
      rcases waypointsFromListAsync_reads before with ⟨readRest, readRestEq⟩
      cases head : read db.waypoints with
      | error exception => simp [readEq, head] at resolved
      | ok row =>
          cases others : readRest db.waypoints with
          | error exception => simp [readEq, head, readRestEq, others] at resolved
          | ok rows =>
              simp only [readEq, head, readRestEq, others, outcome_ok, Action.pure_apply,
                EStateM.Result.ok.injEq] at resolved
              have restRead : waypointsFromListAsync before db = .ok rows db := by
                rw [readRestEq, others, outcome_ok]
              rw [← resolved.1]
              simp [waypointsFromListAsync, readEq, head, ih restRead]

variable (robotId) in
/-- The tasks that the last call of a route request inserts are those it plans. -/
theorem plans_of_reads {startWaypointId endWaypointId firstId lastId : Int}
    {path : NetList Int} {pathWaypoints : List WaypointModel}
    (found : getPathList startWaypointId endWaypointId = .ok path)
    (resolved : ∀ db : DbContext, db.waypoints = initial.waypoints →
      waypointsFromListAsync path.items db = .ok pathWaypoints db)
    (first : path.items[0]? = some firstId)
    (last : path.items[path.items.length - 1]? = some lastId) :
    Plans getPathList robotId initial.waypoints
      (.navigationTasks startWaypointId endWaypointId,
        routeTasks robotId firstId lastId pathWaypoints) := by
  refine ⟨startWaypointId, endWaypointId, rfl, ?_⟩
  intro db map
  simp only [planRoute, found, Action.bind_apply, resolved db map, elementAt, first, last,
    Action.pure_apply]

/-- Every step of every job keeps the invariant, with a later history. -/
theorem Serial.step {left right : List Job} {job after : Job} {next : DbContext}
    (known : initial.hasStatus robotId = true)
    (serial : Serial getPathList robotId initial history db (left ++ job :: right))
    (taken : job.step getPathList robotId db = some (after, next)) :
    ∃ later, Serial getPathList robotId initial later next (left ++ after :: right) := by
  rcases Job.step_some taken with ⟨request, call⟩
  rcases after with ⟨afterRequest, stage⟩
  have ok := serial.jobs job (List.mem_append_right _ List.mem_cons_self)
  cases ok with
  | @check status own =>
      change afterRequest = _ at request
      simp only [Stage.next, anyStatus, Action.bind_apply, Action.get_apply,
        Action.pure_apply, EStateM.Result.ok.injEq] at call
      rcases call with ⟨rfl, rfl⟩
      rw [request, serial.explains.hasStatus known]
      exact ⟨history, serial.quiet (.save own) rfl rfl⟩
  | @save status own =>
      change afterRequest = _ at request
      cases updated : db.currentStatuses.update? status with
      | none =>
          simp [Stage.next, saveStatus, saveModifiedStatus, updated] at call
      | some statuses =>
          simp only [Stage.next, saveStatus, if_true, saveModifiedStatus, Action.bind_apply,
            Action.get_apply, updated, Action.set_apply, Action.pure_apply,
            EStateM.Result.ok.injEq] at call
          rcases call with ⟨rfl, rfl⟩
          rw [request]
          exact ⟨_, serial.report own updated⟩
  | @select status idle =>
      change afterRequest = _ at request
      simp only [Stage.next, selectTasks, Action.bind_apply, Action.get_apply,
        Action.pure_apply, EStateM.Result.ok.injEq] at call
      rcases call with ⟨rfl, rfl⟩
      rw [request]
      exact ⟨history,
        serial.quiet (.delete idle (Or.inl serial.explains.fresh_selected)) rfl rfl⟩
  | @delete status oldTasks idle selection =>
      change afterRequest = _ at request
      cases removed : db.tasks.removeRange? oldTasks with
      | none => simp [Stage.next, saveRemovedTasks, removed] at call
      | some tasks =>
          simp only [Stage.next, saveRemovedTasks, Action.bind_apply, Action.get_apply,
            removed, Action.set_apply, Action.pure_apply, EStateM.Result.ok.injEq] at call
          rcases call with ⟨rfl, rfl⟩
          rcases Table.removeRange?_some removed with ⟨present, rfl⟩
          rw [request]
          apply serial.clear idle
          rcases selection with fresh | ⟨task, member, gone, _⟩
          · exact fresh
          · have there := present task member
            rw [key_task, gone] at there
            cases there
  | reported finished => cases call
  | @findPath startWaypointId endWaypointId =>
      change afterRequest = _ at request
      cases found : getPathList startWaypointId endWaypointId with
      | error exception => simp [Stage.next, found] at call
      | ok path =>
          simp only [Stage.next, found, Action.pure_apply, EStateM.Result.ok.injEq] at call
          rcases call with ⟨rfl, rfl⟩
          rw [request]
          exact ⟨history, serial.quiet (.read found (List.nil_append _).symm fun _ _ => rfl)
            rfl rfl⟩
  | @read startWaypointId endWaypointId path before remaining pathWaypoints found split resolved =>
      change afterRequest = _ at request
      cases remaining with
      | cons waypointId remaining =>
          rcases firstWaypoint_reads waypointId with ⟨read, readEq⟩
          cases first : read db.waypoints with
          | error exception => simp [Stage.next, readEq, first] at call
          | ok waypoint =>
              simp only [Stage.next, Action.bind_apply, readEq, first, outcome_ok,
                Action.pure_apply, EStateM.Result.ok.injEq] at call
              rcases call with ⟨rfl, rfl⟩
              rw [request]
              have longer : path.items = (before ++ [waypointId]) ++ remaining := by
                rw [split, List.append_assoc, List.singleton_append]
              refine ⟨history, serial.quiet (.read found longer ?_) rfl rfl⟩
              intro other map
              apply waypointsFromListAsync_snoc (resolved other map)
              rw [readEq, map, ← serial.explains.waypoints, first, outcome_ok]
      | nil =>
          rw [List.append_nil] at split
          rw [← split] at resolved
          cases first : path.items[0]? with
          | none => simp [Stage.next, elementAt, first] at call
          | some firstId =>
              cases last : path.items[path.items.length - 1]? with
              | none => simp [Stage.next, elementAt, first, last] at call
              | some lastId =>
                  have plans := plans_of_reads robotId found resolved first last
                  rcases saveAddedTasks_route (plans.shape rfl) db with
                    ⟨tasks, saved, rows, nextKey⟩
                  rw [Stage.next_insert first last saved, EStateM.Result.ok.injEq] at call
                  rcases call with ⟨rfl, rfl⟩
                  rw [request]
                  exact ⟨_, serial.insert rfl plans rows nextKey⟩
  | inserted => cases call

end Steps

/-! ## Serial runs -/

/-- The request as the only one: its handler runs to the end and answers. -/
def RobotRequest.serve (getPathList : Int → Int → Except Exn (NetList Int)) (robotId : Int)
    (db : DbContext) (request : RobotRequest) : Option DbContext :=
  match handle getPathList (request.toRequest robotId) db with
  | .ok _ next => some next
  | .error _ _ => none

/-- The requests one after the other, all of them answered. -/
def serveSerially (getPathList : Int → Int → Except Exn (NetList Int)) (robotId : Int)
    (db : DbContext) (requests : List RobotRequest) : Option DbContext :=
  requests.foldlM (RobotRequest.serve getPathList robotId) db

theorem serveSerially_append {db middle : DbContext} {left right : List RobotRequest}
    (first : serveSerially getPathList robotId db left = some middle) :
    serveSerially getPathList robotId db (left ++ right) =
      serveSerially getPathList robotId middle right := by
  rw [serveSerially, List.foldlM_append]
  change (serveSerially getPathList robotId db left).bind _ = _
  rw [first, Option.bind_some]
  rfl

theorem serveSerially_cons {db next : DbContext} {request : RobotRequest}
    {requests : List RobotRequest}
    (first : request.serve getPathList robotId db = some next) :
    serveSerially getPathList robotId db (request :: requests) =
      serveSerially getPathList robotId next requests := by
  rw [serveSerially, List.foldlM_cons, first, Option.bind_eq_bind, Option.bind_some]
  rfl

/-- Routes one after the other append their tasks. -/
theorem serveSerially_routes {db : DbContext} {routes : List Route}
    (planned : ∀ route ∈ routes, Plans getPathList robotId db.waypoints route) :
    ∃ tasks, serveSerially getPathList robotId db (routes.map Prod.fst) =
        some { db with tasks := tasks } ∧
      tasks.rows = db.tasks.rows ++ Table.stamp db.tasks.nextKey (routeRows routes) ∧
      tasks.nextKey = db.tasks.nextKey + (routeRows routes).length := by
  induction routes generalizing db with
  | nil => exact ⟨db.tasks, rfl, by simp, by simp⟩
  | cons route routes ih =>
      have plans := planned route List.mem_cons_self
      rcases saveAddedTasks_route (plans.shape rfl) db with ⟨tasks, saved, rows, nextKey⟩
      have first : route.1.serve getPathList robotId db = some { db with tasks := tasks } := by
        rcases plans with ⟨startWaypointId, endWaypointId, request, plan⟩
        simp only [RobotRequest.serve, request, RobotRequest.toRequest, handle,
          navigationTasks, Action.bind_apply, plan db rfl, saved, Action.pure_apply]
      have later : ∀ other ∈ routes, Plans getPathList robotId
          ({ db with tasks := tasks } : DbContext).waypoints other :=
        fun other member => planned other (List.mem_cons_of_mem _ member)
      rcases ih later with ⟨final, run, finalRows, finalKey⟩
      have together : routeRows (route :: routes) = route.2 ++ routeRows routes := by
        simp [routeRows]
      refine ⟨final, ?_, ?_, ?_⟩
      · rw [List.map_cons, serveSerially_cons first, run]
      · rw [finalRows, rows, insertedRows, nextKey, together, Table.stamp_append,
          List.append_assoc]
      · rw [finalKey, nextKey, together, List.length_append]
        push_cast
        omega

/-- Reports one after the other: the status rows are saved in turn, and the queue is
cleared if one of them is idle. -/
theorem serveSerially_reports {db : DbContext} {saves : List CurrentStatusModel}
    {statuses : Table CurrentStatusModel}
    (own : ∀ status ∈ saves, status.robotID = robotId)
    (saved : saves.foldlM Table.update? db.currentStatuses = some statuses) :
    ∃ next, serveSerially getPathList robotId db
        (saves.map RobotRequest.updateCurrentStatus) = some next ∧
      next.waypoints = db.waypoints ∧ next.currentStatuses = statuses ∧
      next.tasks.nextKey = db.tasks.nextKey ∧
      next.tasks.rows =
        if ∃ status ∈ saves, status.taskID = none then
          db.tasks.rows.filter fun task => !(task.robotID == robotId)
        else
          db.tasks.rows := by
  induction saves generalizing db with
  | nil =>
      simp only [List.foldlM_nil, Option.pure_def, Option.some.injEq] at saved
      exact ⟨db, rfl, rfl, saved, rfl, by simp⟩
  | cons status saves ih =>
      rw [List.foldlM_cons] at saved
      cases updated : db.currentStatuses.update? status with
      | none => simp [updated] at saved
      | some middle =>
          simp only [updated, Option.bind_eq_bind, Option.bind_some] at saved
          have statusOwn := own status List.mem_cons_self
          have known : db.hasStatus robotId = true := by
            rw [← statusOwn]
            exact (Table.update?_some updated).1
          have save : saveStatus (db.hasStatus robotId) status db =
              .ok status { db with currentStatuses := middle } := by
            simp [known, saveStatus, saveModifiedStatus, updated]
          have first : (RobotRequest.updateCurrentStatus status).serve getPathList robotId db =
              some (afterStatus robotId status { db with currentStatuses := middle }) := by
            simp only [RobotRequest.serve, RobotRequest.toRequest, handle,
              updateCurrentStatus_saved save]
          have rest : saves.foldlM Table.update? (afterStatus robotId status
              { db with currentStatuses := middle }).currentStatuses = some statuses := by
            rw [afterStatus_statuses]
            exact saved
          rcases ih (fun other member => own other (List.mem_cons_of_mem _ member)) rest with
            ⟨next, run, waypoints, statusesEq, nextKey, rows⟩
          refine ⟨next, ?_, ?_, statusesEq, ?_, ?_⟩
          · rw [List.map_cons, serveSerially_cons first, run]
          · rw [waypoints, afterStatus_waypoints]
          · rw [nextKey]
            unfold afterStatus
            split <;> rfl
          · rw [rows]
            by_cases idle : status.taskID = none
            · simp [idle, afterStatus, DbContext.clearTasks_rows]
            · simp [idle, afterStatus]

/-! ## Whole runs -/

theorem serial_initially {initial : DbContext} {requests : List RobotRequest}
    (own : ∀ status, RobotRequest.updateCurrentStatus status ∈ requests →
      status.robotID = robotId) :
    Serial getPathList robotId initial ⟨[], [], [], false⟩ initial
      (requests.map RobotRequest.toJob) where
  explains := {
    waypoints := rfl
    statuses := rfl
    rows := by simp [History.base]
    nextKey := by simp [History.start]
    planned := by simp
    uncleared := fun _ => rfl
    clearedBy := by simp
    own := by simp }
  jobs := by
    intro job member
    rcases List.mem_map.mp member with ⟨request, requestMember, rfl⟩
    cases request with
    | updateCurrentStatus status => exact .check (own status requestMember)
    | navigationTasks startWaypointId endWaypointId => exact .findPath
  committed := by
    have none : (requests.map RobotRequest.toJob).filter Job.committed = [] := by
      apply List.filter_eq_nil_iff.mpr
      intro job member
      rcases List.mem_map.mp member with ⟨request, _, rfl⟩
      cases request <;> simp [RobotRequest.toJob, RobotRequest.firstStage, Job.committed]
    rw [none]
    exact List.Perm.refl _

/-- Jobs never change the request they serve. -/
theorem interleaved_requests {start final : DbContext × List Job}
    (run : Interleaved (Job.step getPathList robotId) start final) :
    final.2.map Job.request = start.2.map Job.request := by
  induction run with
  | refl => rfl
  | step previous taken ih =>
      rw [← ih]
      simp [(Job.step_some taken).1]

/-- Once all requests are done, an idle report has cleared the queue. -/
theorem Serial.cleared_iff {initial db : DbContext} {history : History} {pool : List Job}
    (serial : Serial getPathList robotId initial history db pool)
    (finished : ∀ job ∈ pool, job.stage = .done) :
    history.cleared = true ↔ ∃ status ∈ history.saves, status.taskID = none := by
  constructor
  · exact serial.explains.clearedBy
  · rintro ⟨status, saved, idle⟩
    have counted : RobotRequest.updateCurrentStatus status ∈ history.order := by
      simp [History.order, saved]
    rw [← serial.committed.mem_iff, List.mem_map] at counted
    rcases counted with ⟨job, member, request⟩
    have inPool := (List.mem_filter.mp member).1
    have stage := finished job inPool
    have ok := serial.jobs job inPool
    rcases job with ⟨jobRequest, jobStage⟩
    change jobRequest = _ at request
    change jobStage = _ at stage
    rw [request, stage] at ok
    cases ok with
    | reported cleared => exact cleared idle

/-- The reports of a finished run leave the base rows of its history. -/
theorem Serial.base_eq {initial db : DbContext} {history : History} {pool : List Job}
    (serial : Serial getPathList robotId initial history db pool)
    (finished : ∀ job ∈ pool, job.stage = .done) {rows : List TaskModel}
    (wiped : rows = initial.tasks.rows ++
      Table.stamp initial.tasks.nextKey (routeRows history.wiped)) :
    (if ∃ status ∈ history.saves, status.taskID = none then
      rows.filter fun task => !(task.robotID == robotId)
    else
      rows) = history.base initial robotId := by
  have explains := serial.explains
  by_cases idle : ∃ status ∈ history.saves, status.taskID = none
  · have cleared := (serial.cleared_iff finished).mpr idle
    have wipedOwner : ∀ task ∈ routeRows history.wiped, task.robotID = robotId :=
      explains.live_owner fun route member => List.mem_append_left _ member
    rw [if_pos idle, History.base, if_pos cleared, wiped, List.filter_append]
    have wipedGone : (Table.stamp initial.tasks.nextKey (routeRows history.wiped)).filter
        (fun task => !(task.robotID == robotId)) = [] := by
      apply List.filter_eq_nil_iff.mpr
      intro task member
      simp [stamp_owner wipedOwner member]
    rw [wipedGone, List.append_nil]
  · have uncleared : history.cleared = false := by
      rw [← Bool.not_eq_true, serial.cleared_iff finished]
      exact idle
    rw [if_neg idle, History.base, uncleared, wiped, explains.uncleared uncleared]
    simp

/-- The history of a finished run, executed serially, ends in the same database. -/
theorem Serial.serveSerially_order {initial db : DbContext} {history : History}
    {pool : List Job} (serial : Serial getPathList robotId initial history db pool)
    (finished : ∀ job ∈ pool, job.stage = .done) :
    serveSerially getPathList robotId initial history.order = some db := by
  have explains := serial.explains
  -- first the routes that are wiped later
  have wipedPlanned : ∀ route ∈ history.wiped,
      Plans getPathList robotId initial.waypoints route :=
    fun route member => explains.planned route (List.mem_append_left _ member)
  rcases serveSerially_routes wipedPlanned with ⟨wipedTasks, wipedRun, wipedRows, wipedKey⟩
  -- then the reports, which delete them
  rcases @serveSerially_reports getPathList robotId { initial with tasks := wipedTasks }
    _ _ explains.own explains.statuses with
    ⟨reported, reportRun, map, statuses, reportKey, reportRows⟩
  rw [serial.base_eq finished wipedRows] at reportRows
  have startKey : reported.tasks.nextKey = history.start initial := by
    rw [reportKey, wipedKey, History.start]
  -- last the routes that survive
  have livePlanned : ∀ route ∈ history.live,
      Plans getPathList robotId reported.waypoints route := by
    intro route member
    rw [map]
    exact explains.planned route (List.mem_append_right _ member)
  rcases serveSerially_routes livePlanned with ⟨liveTasks, liveRun, liveRows, liveKey⟩
  rw [History.order, serveSerially_append wipedRun, serveSerially_append reportRun, liveRun]
  have sameTasks : liveTasks = db.tasks := by
    apply Table.ext
    · rw [liveRows, reportRows, startKey, explains.rows]
    · rw [liveKey, startKey, explains.nextKey]
  have sameMap : reported.waypoints = db.waypoints := by
    rw [map, explains.waypoints]
  rw [sameTasks, sameMap, statuses]

/-- Status reports and route requests of one robot are serializable: whatever the
order of their database calls, if all of them are answered then the database is the
one that some serial order of the same requests leads to. -/
theorem reports_and_routes_serializable {db final : DbContext}
    {requests : List RobotRequest} {pool : List Job}
    (known : db.hasStatus robotId = true)
    (own : ∀ status, RobotRequest.updateCurrentStatus status ∈ requests →
      status.robotID = robotId)
    (run : Interleaved (Job.step getPathList robotId)
      (db, requests.map RobotRequest.toJob) (final, pool))
    (finished : ∀ job ∈ pool, job.stage = .done) :
    ∃ order, order.Perm requests ∧
      serveSerially getPathList robotId db order = some final := by
  have reached : ∃ history, Serial getPathList robotId db history final pool := by
    have kept : ∀ (state next : DbContext) (left right : List Job) (job after : Job),
        (∃ history, Serial getPathList robotId db history state (left ++ job :: right)) →
        job.step getPathList robotId state = some (after, next) →
        ∃ history, Serial getPathList robotId db history next (left ++ after :: right) := by
      rintro state next left right job after ⟨history, serial⟩ taken
      exact serial.step known taken
    exact @Interleaved.invariant DbContext Job _
      (fun state jobs => ∃ history, Serial getPathList robotId db history state jobs)
      kept _ _ ⟨_, serial_initially own⟩ _ run
  rcases reached with ⟨history, serial⟩
  refine ⟨history.order, ?_, serial.serveSerially_order finished⟩
  have allCommitted : pool.filter Job.committed = pool := by
    apply List.filter_eq_self.mpr
    intro job member
    rw [Job.committed, finished job member]
  have committed := serial.committed
  rw [allCommitted, interleaved_requests run, List.map_map] at committed
  have same : Job.request ∘ RobotRequest.toJob = id := rfl
  rw [same, List.map_id] at committed
  exact committed.symm

/-- An idle report of robot `7` selects its three tasks, then a route is inserted, then the
report deletes what it has selected. -/
theorem reports_and_routes_serializable_pair :
    ∃ order, order.Perm [.updateCurrentStatus idleStatus, .navigationTasks 1 2] ∧
      serveSerially connectedPathfinder.getPath 7 queuedContext order =
        some (serveAll connectedPathfinder.getPath queuedContext
          [.updateCurrentStatus 7 idleStatus, .navigationTasks 7 1 2]) := by
  let selected := [pairTask 1 0, pairTask 2 1, pairTask 3 2]
  let routed := serve connectedPathfinder.getPath queuedContext (.navigationTasks 7 1 2)
  have selecting : Interleaved (Job.step connectedPathfinder.getPath 7)
      (queuedContext, [] ++ ⟨.updateCurrentStatus idleStatus, .check idleStatus⟩ ::
        [(RobotRequest.navigationTasks 1 2).toJob])
      (queuedContext, [] ++ ⟨.updateCurrentStatus idleStatus, .delete selected⟩ ::
        [(RobotRequest.navigationTasks 1 2).toJob]) :=
    ((Interleaved.refl.step rfl).step rfl).step rfl
  have inserting : Interleaved (Job.step connectedPathfinder.getPath 7)
      (queuedContext, [⟨.updateCurrentStatus idleStatus, .delete selected⟩] ++
        (RobotRequest.navigationTasks 1 2).toJob :: [])
      (routed, [⟨.updateCurrentStatus idleStatus, .delete selected⟩] ++
        ⟨.navigationTasks 1 2, .done⟩ :: []) :=
    interleaved_handler rfl
  have deleting : Interleaved (Job.step connectedPathfinder.getPath 7)
      (routed, [] ++ ⟨.updateCurrentStatus idleStatus, .delete selected⟩ ::
        [⟨.navigationTasks 1 2, .done⟩])
      (serveAll connectedPathfinder.getPath queuedContext
          [.updateCurrentStatus 7 idleStatus, .navigationTasks 7 1 2],
        [] ++ ⟨.updateCurrentStatus idleStatus, .done⟩ :: [⟨.navigationTasks 1 2, .done⟩]) :=
    .single rfl
  apply reports_and_routes_serializable rfl _ ((selecting.trans inserting).trans deleting)
  · simp
  · intro status member
    simp only [List.mem_cons, RobotRequest.updateCurrentStatus.injEq, reduceCtorEq,
      List.not_mem_nil, or_self, or_false] at member
    rw [member]
    rfl

end ECam.Server
