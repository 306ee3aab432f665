import Mathlib.Data.List.Destutter
import ECam.Server.Commands
import ECam.Server.TaskQueue

/-!
# From a path to commands

`NavigationTasks` turns the path found by the pathfinder into `goto` commands: one for
the first waypoint, one for each leg, and one for the last waypoint.  This module says
which commands a connected path becomes, and which waypoint a leg command names.
-/

namespace ECam.Server

open ECam.Library

/-! ## Sides of a waypoint -/

/-- The sides at which a waypoint has a connection and a QR code. -/
inductive Side where
  | left
  | right
  | top
  | bottom
  deriving DecidableEq, Repr

/-- The orientation that a command carries for a side. -/
def Side.name : Side → String
  | .left => "LEFT"
  | .right => "RIGHT"
  | .top => "TOP"
  | .bottom => "BOTTOM"

namespace WaypointModel

/-- The waypoint connected at a side. -/
def connection (waypoint : WaypointModel) : Side → Option Int
  | .left => waypoint.waypointIdLeft
  | .right => waypoint.waypointIdRight
  | .top => waypoint.waypointIdTop
  | .bottom => waypoint.waypointIdBottom

/-- The QR code at a side. -/
def qrId (waypoint : WaypointModel) : Side → Option Int
  | .left => waypoint.qrIdLeft
  | .right => waypoint.qrIdRight
  | .top => waypoint.qrIdTop
  | .bottom => waypoint.qrIdBottom

/-- The distance to the QR code at a side. -/
def qrDistance (waypoint : WaypointModel) : Side → Option String
  | .left => waypoint.qrDistanceLeft
  | .right => waypoint.qrDistanceRight
  | .top => waypoint.qrDistanceTop
  | .bottom => waypoint.qrDistanceBottom

end WaypointModel

/-- The command for a leg carries the id of the waypoint travelled from, and the QR
code of the waypoint travelled to at a side that connects them. -/
theorem taskCommand_side {root dest : WaypointModel}
    (connected : ∃ side, root.connection side = some dest.waypointId) :
    ∃ side, root.connection side = some dest.waypointId ∧
      taskCommand root dest = CommandConstructor.goto root.waypointId (dest.qrId side)
        (dest.qrDistance side) (some side.name) := by
  unfold taskCommand
  split
  next top => exact ⟨.top, top, rfl⟩
  next noTop =>
    split
    next bottom => exact ⟨.bottom, bottom, rfl⟩
    next noBottom =>
      split
      next left => exact ⟨.left, left, rfl⟩
      next noLeft =>
        split
        next right => exact ⟨.right, right, rfl⟩
        next noRight =>
          rcases connected with ⟨side, connection⟩
          cases side with
          | left => exact absurd connection noLeft
          | right => exact absurd connection noRight
          | top => exact absurd connection noTop
          | bottom => exact absurd connection noBottom

/-! ## The waypoint field of a command -/

namespace CommandConstructor

/-- The text of the first field of a command. -/
def waypointField (command : String) : List Char :=
  (command.toList.drop 6).takeWhile (· != ',')

/-- The text of a command up to the end of its waypoint field. -/
def gotoHead (waypointId : Int) : List Char :=
  ['g', 'o', 't', 'o', ' ', '['] ++ decimal waypointId ++ [',']

/-- A command starts with its waypoint, whatever is filled in for the other fields. -/
theorem goto_toList (waypointId : Int) (qrId : Option Int)
    (qrDistance qrOrient : Option String) :
    ∃ rest, (goto waypointId qrId qrDistance qrOrient).toList =
      gotoHead waypointId ++ rest := by
  let distance := replaceAll (stringText qrDistance) orientPlaceholder (stringText qrOrient)
  have text : gotoText waypointId (idText qrId) distance (stringText qrOrient) =
      gotoHead waypointId ++ (' ' :: (idText qrId ++ [',', ' '] ++ distance ++ [',', ' '] ++
        stringText qrOrient ++ [']'])) := by
    simp only [gotoText, gotoHead, List.append_assoc, List.cons_append, List.nil_append]
  rw [goto_eq, String.toList_ofList, text]
  exact ⟨_, rfl⟩

/-- The waypoint field of a command is the waypoint id it was built with. -/
theorem waypointField_goto (waypointId : Int) (qrId : Option Int)
    (qrDistance qrOrient : Option String) :
    waypointField (goto waypointId qrId qrDistance qrOrient) = decimal waypointId := by
  rcases goto_toList waypointId qrId qrDistance qrOrient with ⟨rest, text⟩
  have noComma : ∀ char ∈ decimal waypointId, (char != ',') = true := by
    intro char member
    rw [bne_iff_ne]
    intro comma
    rw [comma] at member
    exact not_mem_decimal (by decide) (by decide) waypointId member
  have dropped : (gotoHead waypointId ++ rest).drop 6 = decimal waypointId ++ (',' :: rest) := by
    simp [gotoHead]
  rw [waypointField, text, dropped, List.takeWhile_append_of_pos noComma]
  simp

theorem goto_ne_null (waypointId : Int) (qrId : Option Int)
    (qrDistance qrOrient : Option String) :
    goto waypointId qrId qrDistance qrOrient ≠ "null" := by
  intro null
  rcases goto_toList waypointId qrId qrDistance qrOrient with ⟨rest, text⟩
  rw [null] at text
  simp [gotoHead] at text

end CommandConstructor

/-! ## The tasks of a path -/

theorem getElem?_legTasks_eq (robotId orderNumber : Int) (pathWaypoints : List WaypointModel)
    (index : Nat) :
    (legTasks robotId orderNumber pathWaypoints)[index]? =
      pathWaypoints[index]?.bind fun root => pathWaypoints[index + 1]?.map fun dest =>
        newTask robotId (orderNumber + index) (taskCommand root dest) := by
  induction pathWaypoints generalizing orderNumber index with
  | nil => simp [legTasks]
  | cons root rest ih =>
      cases rest with
      | nil => cases index <;> simp [legTasks]
      | cons dest rest =>
          cases index with
          | zero => simp [legTasks]
          | succ index =>
              have number : orderNumber + 1 + (index : Int) =
                  orderNumber + ((index + 1 : Nat) : Int) := by
                push_cast
                ring
              simp only [legTasks, List.getElem?_cons_succ, ih, number]

/-- A task of a route is for the first waypoint, for a leg, or for the last waypoint. -/
theorem routeTasks_cases {robotId firstId lastId : Int} {pathWaypoints : List WaypointModel}
    {index : Nat} {task : TaskModel} (nonempty : pathWaypoints ≠ [])
    (selected : (routeTasks robotId firstId lastId pathWaypoints)[index]? = some task) :
    (index = 0 ∧ task.command = some (CommandConstructor.goto firstId none none none)) ∨
    (∃ leg root dest, index = leg + 1 ∧ pathWaypoints[leg]? = some root ∧
      pathWaypoints[leg + 1]? = some dest ∧
      task.command = some (taskCommand root dest)) ∨
    (index = pathWaypoints.length ∧
      task.command = some (CommandConstructor.goto lastId none none none)) := by
  have positive := List.length_pos_iff.mpr nonempty
  have legCount := length_legTasks robotId 1 pathWaypoints
  cases index with
  | zero =>
      simp only [routeTasks, List.getElem?_cons_zero, Option.some.injEq] at selected
      left
      exact ⟨rfl, by rw [← selected]; rfl⟩
  | succ index =>
      right
      simp only [routeTasks, List.getElem?_cons_succ] at selected
      by_cases leg : index < (legTasks robotId 1 pathWaypoints).length
      · left
        rw [List.getElem?_append_left leg, getElem?_legTasks_eq] at selected
        rcases Option.bind_eq_some_iff.mp selected with ⟨root, rootAt, rest⟩
        rcases Option.map_eq_some_iff.mp rest with ⟨dest, destAt, built⟩
        refine ⟨index, root, dest, rfl, rootAt, destAt, ?_⟩
        rw [← built]
        rfl
      · right
        rw [List.getElem?_append_right (by omega)] at selected
        have inBounds := (List.getElem?_eq_some_iff.mp selected).1
        rw [List.length_singleton] at inBounds
        have atEnd : index - (legTasks robotId 1 pathWaypoints).length = 0 := by omega
        rw [atEnd, List.getElem?_cons_zero, Option.some.injEq] at selected
        refine ⟨by omega, ?_⟩
        rw [← selected]
        rfl

/-- A path of stored waypoints, each connected to the next one at some side. -/
structure ConnectedPath (db : DbContext) (path : List Int) : Prop where
  nonempty : path ≠ []
  exist : ∀ waypointId ∈ path, db.waypoints.hasKey waypointId = true
  connected : path.IsChain fun previous next =>
    ∃ root ∈ db.waypoints.rows, root.waypointId = previous ∧
      ∃ side, root.connection side = some next

/-- The command of a leg: a waypoint id, and the QR code of the waypoint travelled to
at a side that connects the two. -/
def LegCommand (db : DbContext) (previous next waypointId : Int) (command : String) : Prop :=
  ∃ root ∈ db.waypoints.rows, ∃ dest ∈ db.waypoints.rows, ∃ side,
    root.waypointId = previous ∧ dest.waypointId = next ∧
    root.connection side = some next ∧
    command = CommandConstructor.goto waypointId (dest.qrId side) (dest.qrDistance side)
      (some side.name)

/-- The rows that a route adds for a path, with the waypoint that each command names. -/
structure RouteCommands (db : DbContext) (robotId : Int) (path waypointIds : List Int)
    (inserted : List TaskModel) : Prop where
  count : inserted.length = path.length + 1
  owner : ∀ task ∈ inserted, task.robotID = robotId
  numbered : ∀ (index : Nat) (task : TaskModel), inserted[index]? = some task →
    task.orderNumber = some (index : Int)
  not_null : ∀ task ∈ inserted, task.command ≠ some "null"
  named : waypointIds.length = inserted.length
  commands : ∀ (index : Nat) (task : TaskModel) (waypointId : Int),
    inserted[index]? = some task → waypointIds[index]? = some waypointId →
    ∃ qrId qrDistance qrOrient,
      task.command = some (CommandConstructor.goto waypointId qrId qrDistance qrOrient)
  legs : ∀ (leg : Nat) (task : TaskModel) (previous next waypointId : Int),
    inserted[leg + 1]? = some task → waypointIds[leg + 1]? = some waypointId →
    path[leg]? = some previous → path[leg + 1]? = some next →
    ∃ command, task.command = some command ∧
      LegCommand db previous next waypointId command
  visited : waypointIds.destutter (· ≠ ·) = path

/-- The ids along a resolved path. -/
theorem getElem?_of_ids {pathWaypoints : List WaypointModel} {path : List Int}
    (ids : pathWaypoints.map WaypointModel.waypointId = path) {index : Nat}
    {waypoint : WaypointModel} (selected : pathWaypoints[index]? = some waypoint) :
    path[index]? = some waypoint.waypointId := by
  rw [← ids, List.getElem?_map, selected, Option.map_some]

/-- A leg of a connected path is a command to its next waypoint's QR code. -/
theorem ConnectedPath.legCommand {db : DbContext} {path : List Int}
    (connected : ConnectedPath db path) {pathWaypoints : List WaypointModel}
    (ids : pathWaypoints.map WaypointModel.waypointId = path)
    (stored : ∀ waypoint ∈ pathWaypoints, waypoint ∈ db.waypoints.rows) {leg : Nat}
    {root dest : WaypointModel} (rootAt : pathWaypoints[leg]? = some root)
    (destAt : pathWaypoints[leg + 1]? = some dest) :
    LegCommand db root.waypointId dest.waypointId root.waypointId (taskCommand root dest) := by
  have rootStored := stored root (List.mem_of_getElem? rootAt)
  have destStored := stored dest (List.mem_of_getElem? destAt)
  rcases List.getElem?_eq_some_iff.mp (getElem?_of_ids ids rootAt) with ⟨rootIn, rootId⟩
  rcases List.getElem?_eq_some_iff.mp (getElem?_of_ids ids destAt) with ⟨destIn, destId⟩
  have link := List.isChain_iff_getElem.mp connected.connected leg destIn
  rw [rootId, destId] at link
  rcases link with ⟨other, otherStored, sameId, side, connection⟩
  have sameRoot : other = root := db.waypoints.eq_of_key_eq otherStored rootStored sameId
  rw [sameRoot] at connection
  rcases taskCommand_side ⟨side, connection⟩ with ⟨chosen, chosenConnection, command⟩
  exact ⟨root, rootStored, dest, destStored, chosen, rfl, rfl, chosenConnection, command⟩

/-- The rows that a route adds for a connected path. -/
theorem ConnectedPath.inserted {db : DbContext} {path : List Int}
    (connected : ConnectedPath db path) {pathWaypoints : List WaypointModel}
    {robotId firstId lastId : Int}
    (ids : pathWaypoints.map WaypointModel.waypointId = path)
    (stored : ∀ waypoint ∈ pathWaypoints, waypoint ∈ db.waypoints.rows)
    (last : path[path.length - 1]? = some lastId) {index : Nat}
    {task : TaskModel}
    (selected : (insertedRows db (routeTasks robotId firstId lastId pathWaypoints))[index]? =
      some task) :
    ∃ waypointId command, (firstId :: path)[index]? = some waypointId ∧
      task.command = some command ∧
      (∃ qrId qrDistance qrOrient,
        command = CommandConstructor.goto waypointId qrId qrDistance qrOrient) ∧
      ∀ leg previous next, index = leg + 1 → path[leg]? = some previous →
        path[leg + 1]? = some next → LegCommand db previous next waypointId command := by
  rw [getElem?_insertedRows, Option.map_eq_some_iff] at selected
  rcases selected with ⟨original, found, rfl⟩
  have count : pathWaypoints.length = path.length := by rw [← ids, List.length_map]
  have positive := List.length_pos_iff.mpr connected.nonempty
  have someWaypoint : pathWaypoints ≠ [] := List.length_pos_iff.mp (by omega)
  rcases routeTasks_cases someWaypoint found with
    ⟨start, command⟩ | ⟨leg, root, dest, position, rootAt, destAt, command⟩ | ⟨position, command⟩
  · refine ⟨firstId, _, by rw [start]; rfl, command, ⟨none, none, none, rfl⟩, ?_⟩
    intro leg previous next position
    omega
  · have legCommand := connected.legCommand ids stored rootAt destAt
    rcases legCommand with ⟨_, _, goal, _, side, _, _, _, text⟩
    refine ⟨root.waypointId, _, ?_, command, ⟨_, _, _, text⟩, ?_⟩
    · rw [position, List.getElem?_cons_succ]
      exact getElem?_of_ids ids rootAt
    · intro sameLeg previous next samePosition previousAt nextAt
      have same : sameLeg = leg := by omega
      rw [same, getElem?_of_ids ids rootAt] at previousAt
      rw [same, getElem?_of_ids ids destAt] at nextAt
      cases previousAt
      cases nextAt
      exact connected.legCommand ids stored rootAt destAt
  · refine ⟨lastId, _, ?_, command, ⟨none, none, none, rfl⟩, ?_⟩
    · have split : index = (path.length - 1) + 1 := by omega
      rw [split, List.getElem?_cons_succ]
      exact last
    · intro leg previous next legPosition _ nextAt
      have inBounds := (List.getElem?_eq_some_iff.mp nextAt).1
      omega

section Navigation

variable {getPathList : Int → Int → Except Exn (NetList Int)}
  {robotId startWaypointId endWaypointId : Int} {db : DbContext} {path : NetList Int}

/-- On a connected path `NavigationTasks` succeeds and adds the tasks of the path. -/
theorem ConnectedPath.navigationTasks_ok
    (found : getPathList startWaypointId endWaypointId = .ok path)
    (connected : ConnectedPath db path.items) :
    ∃ tasks firstId lastId pathWaypoints,
      navigationTasks getPathList robotId startWaypointId endWaypointId db =
        .ok .noContent { db with tasks := tasks } ∧
      tasks.rows = db.tasks.rows ++
        insertedRows db (routeTasks robotId firstId lastId pathWaypoints) ∧
      RouteTasks robotId (routeTasks robotId firstId lastId pathWaypoints) ∧
      pathWaypoints.map WaypointModel.waypointId = path.items ∧
      (∀ waypoint ∈ pathWaypoints, waypoint ∈ db.waypoints.rows) ∧
      path.items[0]? = some firstId ∧
      path.items[path.items.length - 1]? = some lastId := by
  rcases planRoute_of_path robotId found connected.nonempty connected.exist with
    ⟨newTasks, planned⟩
  rcases navigationTasks_cases getPathList robotId startWaypointId endWaypointId db with
    ⟨exception, failed, _⟩ | ⟨others, tasks, samePlan, route, result, rows, _⟩
  · rw [planned] at failed
    cases failed
  · rcases planRoute_ok samePlan with
      ⟨samePath, pathWaypoints, firstId, lastId, sameFound, resolved, first, last, shape⟩
    rw [found] at sameFound
    cases sameFound
    rcases waypointsFromListAsync_ok resolved with ⟨_, ids, stored⟩
    rw [shape] at rows route
    exact ⟨tasks, firstId, lastId, pathWaypoints, result, rows, route, ids, stored, first, last⟩

/-- Without a path of stored waypoints nothing is saved. -/
theorem navigationTasks_unresolved
    (found : getPathList startWaypointId endWaypointId = .ok path)
    (unresolved : path.items = [] ∨
      ∃ waypointId ∈ path.items, db.waypoints.hasKey waypointId = false) :
    (navigationTasks getPathList robotId startWaypointId endWaypointId).after db = db := by
  rcases navigationTasks_cases getPathList robotId startWaypointId endWaypointId db with
    ⟨exception, _, failed⟩ | ⟨newTasks, tasks, planned, _⟩
  · simp only [Action.after, failed]
  · exfalso
    rcases planRoute_ok planned with
      ⟨samePath, pathWaypoints, firstId, lastId, sameFound, resolved, first, _⟩
    rw [found] at sameFound
    cases sameFound
    rcases waypointsFromListAsync_ok resolved with ⟨_, ids, stored⟩
    rcases unresolved with empty | ⟨waypointId, named, missing⟩
    · rw [empty] at first
      cases first
    · rw [← ids] at named
      rcases List.mem_map.mp named with ⟨waypoint, member, rfl⟩
      have present : db.waypoints.hasKey waypoint.waypointId = true :=
        Table.hasKey_of_mem (stored waypoint member)
      rw [missing] at present
      cases present

end Navigation

/-- Route to commands.  A connected path without repetitions becomes one command more
than it has waypoints, in one save; the waypoints that the commands name are the path,
and each leg carries the QR code of the waypoint travelled to.  A path that is empty or
names a missing waypoint changes nothing. -/
theorem route_commands {Node : Type} (pathfinder : Pathfinder Node)
    (robotId startWaypointId endWaypointId : Int) (db : DbContext) {path : NetList Int}
    (found : pathfinder.getPath startWaypointId endWaypointId = .ok path) :
    (ConnectedPath db path.items → path.items.IsChain (· ≠ ·) →
      ∃ tasks inserted waypointIds,
        navigationTasks pathfinder.getPath robotId startWaypointId endWaypointId db =
          .ok .noContent { db with tasks := tasks } ∧
        tasks.rows = db.tasks.rows ++ inserted ∧
        RouteCommands db robotId path.items waypointIds inserted) ∧
    ((path.items = [] ∨ ∃ waypointId ∈ path.items, db.waypoints.hasKey waypointId = false) →
      (navigationTasks pathfinder.getPath robotId startWaypointId endWaypointId).after db =
        db) := by
  refine ⟨?_, navigationTasks_unresolved found⟩
  intro connected distinct
  rcases connected.navigationTasks_ok found with
    ⟨tasks, firstId, lastId, pathWaypoints, result, rows, route, ids, stored, first, last⟩
  have count : pathWaypoints.length = path.items.length := by rw [← ids, List.length_map]
  have positive := List.length_pos_iff.mpr connected.nonempty
  have length : (insertedRows db (routeTasks robotId firstId lastId pathWaypoints)).length =
      path.items.length + 1 := by
    rw [length_insertedRows, length_routeTasks]
    omega
  refine ⟨tasks, _, firstId :: path.items, result, rows, ?_⟩
  constructor
  · exact length
  · exact fun task member => route.stored_owner db member
  · exact fun index task selected => (route.stored db selected).2.1
  · intro task member
    rcases List.mem_iff_getElem?.mp member with ⟨index, selected⟩
    rcases connected.inserted ids stored last selected with
      ⟨waypointId, command, _, text, ⟨qrId, qrDistance, qrOrient, built⟩, _⟩
    rw [text, built]
    intro null
    exact CommandConstructor.goto_ne_null _ _ _ _ (Option.some.inj null)
  · rw [length, List.length_cons]
  · intro index task waypointId selected named
    rcases connected.inserted ids stored last selected with
      ⟨other, command, otherNamed, text, ⟨qrId, qrDistance, qrOrient, built⟩, _⟩
    rw [named] at otherNamed
    cases otherNamed
    exact ⟨qrId, qrDistance, qrOrient, by rw [text, built]⟩
  · intro leg task previous next waypointId selected named previousAt nextAt
    rcases connected.inserted ids stored last selected with
      ⟨other, command, otherNamed, text, _, legs⟩
    rw [named] at otherNamed
    cases otherNamed
    exact ⟨command, text, legs leg previous next rfl previousAt nextAt⟩
  · -- the first command repeats the first waypoint
    cases items : path.items with
    | nil => exact absurd items connected.nonempty
    | cons head rest =>
        rw [items] at first distinct
        cases first
        rw [List.destutter_cons', List.destutter'_cons_neg _ (by simp),
          List.destutter'_of_isChain_cons _ _ distinct]

theorem connectedContext_path : ConnectedPath connectedContext [1, 2] where
  nonempty := by simp
  exist := by decide
  connected := by
    rw [List.isChain_pair]
    exact ⟨_, List.mem_cons_self, rfl, .right, rfl⟩

/-- The route from `1` to `2` on that map. -/
theorem route_commands_pair :
    ∃ tasks inserted waypointIds,
      navigationTasks connectedPathfinder.getPath 7 1 2 connectedContext =
        .ok .noContent { connectedContext with tasks := tasks } ∧
      tasks.rows = connectedContext.tasks.rows ++ inserted ∧
      RouteCommands connectedContext 7 [1, 2] waypointIds inserted :=
  (route_commands connectedPathfinder 7 1 2 connectedContext
    (show connectedPathfinder.getPath 1 2 = .ok ⟨[1, 2], by simp⟩ from rfl)).1
    connectedContext_path (by decide)

/-! ## The waypoint that a leg names -/

/-- Every leg command names the waypoint travelled to, whose QR code it carries. -/
def LegsCoherent (db : DbContext) (path : List Int) (inserted : List TaskModel) : Prop :=
  ∀ (leg : Nat) (task : TaskModel) (previous next : Int),
    inserted[leg + 1]? = some task → path[leg]? = some previous →
    path[leg + 1]? = some next →
    ∃ command, task.command = some command ∧ LegCommand db previous next next command

/-- Two commands for one leg that name different waypoints are different. -/
theorem LegCommand.waypoint_unique {db : DbContext} {previous next left right : Int}
    {command : String} (first : LegCommand db previous next left command)
    (second : LegCommand db previous next right command) : left = right := by
  rcases first with ⟨_, _, _, _, _, _, _, _, text⟩
  rcases second with ⟨_, _, _, _, _, _, _, _, otherText⟩
  apply decimal_injective
  rw [← CommandConstructor.waypointField_goto left, ← text, otherText,
    CommandConstructor.waypointField_goto]

/-- The legs of a connected path are coherent exactly if the path never moves on to
another waypoint: `TaskCommand` names the waypoint travelled from. -/
theorem legs_coherent_iff {Node : Type} (pathfinder : Pathfinder Node)
    (robotId startWaypointId endWaypointId : Int) (db : DbContext) {path : NetList Int}
    (found : pathfinder.getPath startWaypointId endWaypointId = .ok path)
    (connected : ConnectedPath db path.items) :
    ∃ tasks inserted,
      navigationTasks pathfinder.getPath robotId startWaypointId endWaypointId db =
        .ok .noContent { db with tasks := tasks } ∧
      tasks.rows = db.tasks.rows ++ inserted ∧
      (LegsCoherent db path.items inserted ↔ path.items.IsChain (· = ·)) := by
  rcases connected.navigationTasks_ok found with
    ⟨tasks, firstId, lastId, pathWaypoints, result, rows, route, ids, stored, first, last⟩
  have count : pathWaypoints.length = path.items.length := by rw [← ids, List.length_map]
  refine ⟨tasks, _, result, rows, ?_⟩
  constructor
  · intro coherent
    apply List.isChain_iff_getElem.mpr
    intro leg inPath
    have inRows : leg + 1 <
        (insertedRows db (routeTasks robotId firstId lastId pathWaypoints)).length := by
      rw [length_insertedRows, length_routeTasks]
      omega
    have previousAt := List.getElem?_eq_getElem (show leg < path.items.length by omega)
    have nextAt := List.getElem?_eq_getElem inPath
    have selected := List.getElem?_eq_getElem inRows
    rcases coherent leg _ _ _ selected previousAt nextAt with ⟨command, text, intended⟩
    rcases connected.inserted ids stored last selected with
      ⟨waypointId, built, named, sameText, _, legs⟩
    rw [text] at sameText
    cases sameText
    rw [List.getElem?_cons_succ, previousAt] at named
    cases named
    exact (legs leg _ _ rfl previousAt nextAt).waypoint_unique intended
  · intro constant leg task previous next selected previousAt nextAt
    rcases connected.inserted ids stored last selected with
      ⟨waypointId, command, named, text, _, legs⟩
    rcases List.getElem?_eq_some_iff.mp previousAt with ⟨previousIn, previousEq⟩
    rcases List.getElem?_eq_some_iff.mp nextAt with ⟨nextIn, nextEq⟩
    have same := List.isChain_iff_getElem.mp constant leg nextIn
    rw [previousEq, nextEq] at same
    rw [List.getElem?_cons_succ, previousAt] at named
    cases named
    refine ⟨command, text, ?_⟩
    have legCommand := legs leg previous next rfl previousAt nextAt
    rw [same] at legCommand ⊢
    exact legCommand

/-- The route from `1` to `2`, which has one leg. -/
theorem legs_coherent_iff_pair :
    ∃ tasks inserted,
      navigationTasks connectedPathfinder.getPath 7 1 2 connectedContext =
        .ok .noContent { connectedContext with tasks := tasks } ∧
      tasks.rows = connectedContext.tasks.rows ++ inserted ∧
      (LegsCoherent connectedContext [1, 2] inserted ↔ [(1 : Int), 2].IsChain (· = ·)) :=
  legs_coherent_iff connectedPathfinder 7 1 2 connectedContext
    (show connectedPathfinder.getPath 1 2 = .ok ⟨[1, 2], by simp⟩ from rfl) connectedContext_path

/-- On the way from `1` to `2` the leg command names waypoint `1` and carries the QR
code of waypoint `2`. -/
theorem legs_not_coherent :
    ∃ tasks, navigationTasks connectedPathfinder.getPath 7 1 2 connectedContext =
        .ok .noContent { connectedContext with tasks := tasks } ∧
      tasks.rows.map TaskModel.command = [some "goto [1, null, null, null]",
        some "goto [1, 12, 0.7, RIGHT]", some "goto [2, null, null, null]"] ∧
      ¬LegsCoherent connectedContext [1, 2] tasks.rows := by
  refine ⟨((navigationTasks connectedPathfinder.getPath 7 1 2).after connectedContext).tasks, rfl,
    by decide, ?_⟩
  intro coherent
  rcases coherent 0 _ 1 2 rfl rfl rfl with
    ⟨command, text, _, _, dest, _, side, _, _, _, built⟩
  have literal : some "goto [1, 12, 0.7, RIGHT]" = some command := by
    rw [← text]
    decide
  have field := CommandConstructor.waypointField_goto 2 (dest.qrId side)
    (dest.qrDistance side) (some side.name)
  rw [← built, ← Option.some.inj literal] at field
  exact absurd field (by decide)

end ECam.Server
