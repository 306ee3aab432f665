import ECam.Server.WaypointMap

/-!
# Updating the pathfinder

`Pathfinder` keeps the list of waypoints, the map that the external package parses from it
and the search on that map.  `UpdateWaypoints` assigns the list before the map is built,
so a call that throws on the way leaves the new list beside the old map.
-/

namespace ECam.Server

open ECam.Library

variable {Map Dijkstra Node : Type}

/-- What `Pathfinder` uses of the external package: `ParseArrayOfStrings`, the constructor
of `DijkstraPathfinder` and its `GetPath`, and the nodes of a map. -/
structure PathfindingPackage (Map Dijkstra Node : Type) where
  parseArrayOfStrings : List (List Char) → Except Exn Map
  dijkstraPathfinder : Map → Except Exn Dijkstra
  nodes : Map → List Node
  nodeId : Node → Int
  search : Dijkstra → Node → Node → Except Exn (NetList Node)

/-- The fields of the object, `null` before they are assigned. -/
structure PathfinderObject (Map Dijkstra : Type) where
  waypoints : Option (List WaypointModel)
  waypointMap : Option Map
  pathfinder : Option Dijkstra

/-- The object before its constructor has run. -/
def PathfinderObject.unassigned : PathfinderObject Map Dijkstra :=
  ⟨none, none, none⟩

/-- The value of an expression, which may throw. -/
def orThrow {State α : Type} (value : Except Exn α) : EStateM Exn State α :=
  match value with
  | .ok value => pure value
  | .error exception => throw exception

@[simp] theorem orThrow_ok {State α : Type} (value : α) :
    (orThrow (.ok value) : EStateM Exn State α) = pure value := rfl

namespace PathfindingPackage

variable (package : PathfindingPackage Map Dijkstra Node)

/-- The map that is parsed from a list of waypoints. -/
def buildMap (waypoints : List WaypointModel) : Except Exn Map := do
  let waypointStrings ← waypointsListToStrings waypoints
  package.parseArrayOfStrings waypointStrings

/-- `UpdateWaypoints`. -/
def updateWaypoints (waypoints : List WaypointModel) :
    EStateM Exn (PathfinderObject Map Dijkstra) Unit := do
  modify fun object => { object with waypoints := some waypoints }
  let waypointMap ← orThrow (package.buildMap waypoints)
  modify fun object => { object with waypointMap := some waypointMap }
  let pathfinder ← orThrow (package.dijkstraPathfinder waypointMap)
  modify fun object => { object with pathfinder := some pathfinder }

/-- The constructor. -/
def construct (waypoints : List WaypointModel) : Except Exn (PathfinderObject Map Dijkstra) :=
  match package.updateWaypoints waypoints .unassigned with
  | .ok _ object => .ok object
  | .error exception _ => .error exception

/-- The object after a call of `UpdateWaypoints`, whether it returns or throws. -/
def step (object : PathfinderObject Map Dijkstra) (waypoints : List WaypointModel) :
    PathfinderObject Map Dijkstra :=
  match package.updateWaypoints waypoints object with
  | .ok _ next => next
  | .error _ next => next

/-- `GetPath`, on the map and with the search that the object holds. -/
def getPath (object : PathfinderObject Map Dijkstra) (idStart idEnd : Int) :
    Except Exn (NetList Int) :=
  match object.waypointMap, object.pathfinder with
  | some waypointMap, some pathfinder =>
      Pathfinder.getPath {
        nodeId := package.nodeId
        waypoints := package.nodes waypointMap
        search := package.search pathfinder } idStart idEnd
  | _, _ => .error .nullReference

/-! ## Consistency -/

/-- The map and the search that `GetPath` uses were built from the list that `Waypoints`
returns. -/
structure Consistent (object : PathfinderObject Map Dijkstra) : Prop where
  built : ∃ waypoints waypointMap pathfinder,
    package.buildMap waypoints = .ok waypointMap ∧
    package.dijkstraPathfinder waypointMap = .ok pathfinder ∧
    object = ⟨some waypoints, some waypointMap, some pathfinder⟩

/-- A call that throws leaves the three fields as they were. -/
def UnchangedOnThrow (object : PathfinderObject Map Dijkstra)
    (waypoints : List WaypointModel) : Prop :=
  ∀ exception next,
    package.updateWaypoints waypoints object = .error exception next → next = object

/-- Every connection has its distance, and the package takes the strings and the map. -/
def Accepts (waypoints : List WaypointModel) : Prop :=
  (∀ waypoint ∈ waypoints, ¬waypoint.MissesDistance) ∧
    ∃ waypointMap pathfinder,
      package.parseArrayOfStrings (waypoints.map builtString) = .ok waypointMap ∧
      package.dijkstraPathfinder waypointMap = .ok pathfinder

variable {package}

theorem accepts_iff {waypoints : List WaypointModel} :
    package.Accepts waypoints ↔ ∃ waypointMap pathfinder,
      package.buildMap waypoints = .ok waypointMap ∧
      package.dijkstraPathfinder waypointMap = .ok pathfinder := by
  by_cases misses : ∃ waypoint ∈ waypoints, waypoint.MissesDistance
  · have failed : package.buildMap waypoints = .error .nullReference := by
      rw [buildMap, waypointsListToStrings_missing misses]
      rfl
    rcases misses with ⟨waypoint, member, misses⟩
    constructor
    · intro accepted
      exact absurd misses (accepted.1 waypoint member)
    · rintro ⟨waypointMap, pathfinder, built, _⟩
      rw [failed] at built
      cases built
  · have complete : ∀ waypoint ∈ waypoints, ¬waypoint.MissesDistance :=
      fun waypoint member missing => misses ⟨waypoint, member, missing⟩
    have parsed : package.buildMap waypoints =
        package.parseArrayOfStrings (waypoints.map builtString) := by
      rw [buildMap, waypointsListToStrings_complete complete]
      rfl
    rw [parsed]
    exact and_iff_right complete

/-! ## One call -/

/-- A call on an accepted list replaces the three fields together. -/
theorem updateWaypoints_ok {waypoints : List WaypointModel} {waypointMap : Map}
    {pathfinder : Dijkstra} (object : PathfinderObject Map Dijkstra)
    (built : package.buildMap waypoints = .ok waypointMap)
    (created : package.dijkstraPathfinder waypointMap = .ok pathfinder) :
    package.updateWaypoints waypoints object =
      .ok () ⟨some waypoints, some waypointMap, some pathfinder⟩ := by
  simp only [updateWaypoints, built, orThrow_ok, pure_bind, created]
  rfl

/-- A call on any other list throws, with the new list already assigned. -/
theorem updateWaypoints_error {waypoints : List WaypointModel}
    (object : PathfinderObject Map Dijkstra) (rejected : ¬package.Accepts waypoints) :
    ∃ exception next, package.updateWaypoints waypoints object = .error exception next ∧
      next.waypoints = some waypoints := by
  cases built : package.buildMap waypoints with
  | error exception =>
      refine ⟨exception, { object with waypoints := some waypoints }, ?_, rfl⟩
      simp only [updateWaypoints, built]
      rfl
  | ok waypointMap =>
      cases created : package.dijkstraPathfinder waypointMap with
      | error exception =>
          refine ⟨exception, ⟨some waypoints, some waypointMap, object.pathfinder⟩, ?_, rfl⟩
          simp only [updateWaypoints, built, orThrow_ok, pure_bind, created]
          rfl
      | ok pathfinder =>
          exact absurd (accepts_iff.mpr ⟨waypointMap, pathfinder, built, created⟩) rejected

theorem step_consistent {waypoints : List WaypointModel}
    (object : PathfinderObject Map Dijkstra) (accepted : package.Accepts waypoints) :
    package.Consistent (package.step object waypoints) := by
  rcases accepts_iff.mp accepted with ⟨waypointMap, pathfinder, built, created⟩
  refine ⟨waypoints, waypointMap, pathfinder, built, created, ?_⟩
  rw [step, updateWaypoints_ok object built created]

/-- A call keeps a consistent object as it was when it throws exactly if it does not
throw: the list that is assigned first is never the one of the map. -/
theorem unchangedOnThrow_iff {object : PathfinderObject Map Dijkstra}
    {waypoints : List WaypointModel} (consistent : package.Consistent object) :
    package.UnchangedOnThrow object waypoints ↔ package.Accepts waypoints := by
  constructor
  · intro unchanged
    by_contra rejected
    rcases updateWaypoints_error object rejected with ⟨exception, next, threw, assigned⟩
    rcases consistent.built with ⟨previous, waypointMap, pathfinder, built, created, fields⟩
    rw [unchanged exception next threw, fields, Option.some.injEq] at assigned
    rw [assigned] at built
    exact rejected (accepts_iff.mpr ⟨waypointMap, pathfinder, built, created⟩)
  · intro accepted exception next threw
    rcases accepts_iff.mp accepted with ⟨waypointMap, pathfinder, built, created⟩
    rw [updateWaypoints_ok object built created] at threw
    cases threw

theorem construct_consistent {waypoints : List WaypointModel}
    {object : PathfinderObject Map Dijkstra}
    (constructed : package.construct waypoints = .ok object) : package.Consistent object := by
  by_cases accepted : package.Accepts waypoints
  · rcases accepts_iff.mp accepted with ⟨waypointMap, pathfinder, built, created⟩
    rw [construct, updateWaypoints_ok _ built created, Except.ok.injEq] at constructed
    exact ⟨waypoints, waypointMap, pathfinder, built, created, constructed.symm⟩
  · rcases updateWaypoints_error .unassigned accepted with ⟨exception, next, threw, _⟩
    rw [construct, threw] at constructed
    cases constructed

/-- `GetPath` of a consistent object searches the map of the list it returns. -/
theorem Consistent.getPath_eq {object : PathfinderObject Map Dijkstra}
    (consistent : package.Consistent object) :
    ∃ waypoints waypointMap pathfinder,
      object.waypoints = some waypoints ∧ package.buildMap waypoints = .ok waypointMap ∧
      package.dijkstraPathfinder waypointMap = .ok pathfinder ∧
      package.getPath object = Pathfinder.getPath {
        nodeId := package.nodeId
        waypoints := package.nodes waypointMap
        search := package.search pathfinder } := by
  rcases consistent.built with ⟨waypoints, waypointMap, pathfinder, built, created, rfl⟩
  exact ⟨waypoints, waypointMap, pathfinder, rfl, built, created, rfl⟩

/-! ## Sequences of calls -/

theorem updates_consistent {object : PathfinderObject Map Dijkstra}
    {calls : List (List WaypointModel)} (consistent : package.Consistent object)
    (accepted : ∀ waypoints ∈ calls, package.Accepts waypoints) :
    Always package.step package.Consistent object calls ∧
      EachStep package.step package.UnchangedOnThrow object calls := by
  induction calls generalizing object with
  | nil => exact ⟨consistent, trivial⟩
  | cons waypoints calls ih =>
      have here := accepted waypoints List.mem_cons_self
      rcases ih (step_consistent object here)
        (fun other member => accepted other (List.mem_cons_of_mem _ member)) with
        ⟨always, steps⟩
      exact ⟨⟨consistent, always⟩, (unchangedOnThrow_iff consistent).mpr here, steps⟩

theorem accepts_of_updates {object : PathfinderObject Map Dijkstra}
    {calls : List (List WaypointModel)}
    (always : Always package.step package.Consistent object calls)
    (steps : EachStep package.step package.UnchangedOnThrow object calls) :
    ∀ waypoints ∈ calls, package.Accepts waypoints := by
  induction calls generalizing object with
  | nil => simp
  | cons waypoints calls ih =>
      intro other member
      rcases List.mem_cons.mp member with rfl | later
      · exact (unchangedOnThrow_iff always.1).mp steps.1
      · exact ih always.2 steps.2 other later

/-- After a successful construction, the list and the map of the object belong together
through all calls of `UpdateWaypoints`, and calls that throw change nothing, exactly if
the package accepts the list of every call. -/
theorem updates_consistent_iff (package : PathfindingPackage Map Dijkstra Node)
    (initial : List WaypointModel) (object : PathfinderObject Map Dijkstra)
    (calls : List (List WaypointModel)) (constructed : package.construct initial = .ok object) :
    (Always package.step package.Consistent object calls ∧
      EachStep package.step package.UnchangedOnThrow object calls) ↔
      ∀ waypoints ∈ calls, package.Accepts waypoints := by
  constructor
  · rintro ⟨always, steps⟩
    exact accepts_of_updates always steps
  · exact updates_consistent (construct_consistent constructed)

/-- A package for maps of directly connected waypoints: it reads the strings as the map
format says and steps to the neighbour. -/
def neighbourPackage : PathfindingPackage (List (Int × List (Int × List Char)))
    (List (Int × List (Int × List Char))) (Int × List (Int × List Char)) where
  parseArrayOfStrings := fun strings =>
    match strings.mapM readWaypoint with
    | some waypointMap => .ok waypointMap
    | none => .error .invalidOperation
  dijkstraPathfinder := .ok
  nodes := id
  nodeId := Prod.fst
  search := fun _ startWaypoint endWaypoint =>
    if startWaypoint.1 = endWaypoint.1 then
      .ok ⟨[startWaypoint], by simp⟩
    else if startWaypoint.2.any fun edge => edge.1 == endWaypoint.1 then
      .ok ⟨[startWaypoint, endWaypoint], by simp⟩
    else
      .error .invalidOperation

/-- The object for the two connected waypoints. -/
def pairObject : PathfinderObject (List (Int × List (Int × List Char)))
    (List (Int × List (Int × List Char))) where
  waypoints := some connectedContext.waypoints.rows
  waypointMap := some [(1, [(2, ['3'])]), (2, [(1, ['3'])])]
  pathfinder := some [(1, [(2, ['3'])]), (2, [(1, ['3'])])]

theorem construct_pairObject :
    neighbourPackage.construct connectedContext.waypoints.rows = .ok pairObject := by
  have built : neighbourPackage.buildMap connectedContext.waypoints.rows =
      .ok [(1, [(2, ['3'])]), (2, [(1, ['3'])])] := by decide
  rw [construct, updateWaypoints_ok .unassigned built rfl]
  rfl

theorem updates_consistent_iff_pair :
    neighbourPackage.construct connectedContext.waypoints.rows = .ok pairObject ∧
    ((Always neighbourPackage.step neighbourPackage.Consistent pairObject
        [connectedContext.waypoints.rows] ∧
      EachStep neighbourPackage.step neighbourPackage.UnchangedOnThrow pairObject
        [connectedContext.waypoints.rows]) ↔
      ∀ waypoints ∈ [connectedContext.waypoints.rows], neighbourPackage.Accepts waypoints) :=
  ⟨construct_pairObject,
    updates_consistent_iff neighbourPackage connectedContext.waypoints.rows pairObject
      [connectedContext.waypoints.rows] construct_pairObject⟩

/-- A waypoint with a connection at its right side that has no distance. -/
def unmeasuredWaypointModel : WaypointModel :=
  { loneWaypointModel with waypointIdRight := some 2 }

/-- After a call with a missing distance the object returns the new list and still
searches the map of the old one. -/
theorem updates_not_consistent :
    neighbourPackage.construct connectedContext.waypoints.rows = .ok pairObject ∧
    neighbourPackage.updateWaypoints [unmeasuredWaypointModel] pairObject =
      .error .nullReference { pairObject with waypoints := some [unmeasuredWaypointModel] } ∧
    ¬neighbourPackage.Consistent
      (neighbourPackage.step pairObject [unmeasuredWaypointModel]) ∧
    ¬neighbourPackage.UnchangedOnThrow pairObject [unmeasuredWaypointModel] := by
  have threw : neighbourPackage.updateWaypoints [unmeasuredWaypointModel] pairObject =
      .error .nullReference { pairObject with waypoints := some [unmeasuredWaypointModel] } := by
    rfl
  refine ⟨construct_pairObject, threw, ?_, ?_⟩
  · rintro ⟨waypoints, waypointMap, pathfinder, built, created, fields⟩
    rw [step, threw, PathfinderObject.mk.injEq, Option.some.injEq] at fields
    rw [← fields.1] at built
    cases built
  · intro unchanged
    have same := congrArg PathfinderObject.waypoints (unchanged _ _ threw)
    revert same
    decide

end PathfindingPackage

end ECam.Server
