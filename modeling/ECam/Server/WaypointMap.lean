import ECam.Library.Json
import ECam.Server.Routes

/-!
# The waypoint map as strings

`WaypointsListToStrings` prints every waypoint with its connections, in the format that
the parser of the external package reads: the id, an array of connection ids and an array
of distances.  A separator is appended after every item, and the last character of each
array is cut off before it is closed.  For a waypoint without connections that character
is the opening bracket.
-/

namespace ECam.Server

open ECam.Library

/-! ## The encoder -/

/-- `connectionIds` and `connectionDistances` while they are built. -/
structure ConnectionArrays where
  connectionIds : List Char
  connectionDistances : List Char

/-- One of the four blocks for the sides of a waypoint: a connection must have a
distance. -/
def addConnection (connectionId : Option Int) (distance : Option String)
    (arrays : ConnectionArrays) : Except Exn ConnectionArrays :=
  match connectionId with
  | none => .ok arrays
  | some connectionId =>
      match distance with
      | none => .error .nullReference
      | some distance =>
          .ok {
            connectionIds := arrays.connectionIds ++ (decimal connectionId ++ [','])
            connectionDistances := arrays.connectionDistances ++ (distance.toList ++ [',']) }

/-- `Substring(0, Length - 1) + "]"`. -/
def closeArray (array : List Char) : List Char :=
  array.dropLast ++ [']']

/-- The string for one waypoint. -/
def waypointToString (waypoint : WaypointModel) : Except Exn (List Char) := do
  let arrays : ConnectionArrays := ⟨['['], ['[']⟩
  let arrays ← addConnection waypoint.waypointIdLeft waypoint.waypointDistanceLeft arrays
  let arrays ← addConnection waypoint.waypointIdRight waypoint.waypointDistanceRight arrays
  let arrays ← addConnection waypoint.waypointIdTop waypoint.waypointDistanceTop arrays
  let arrays ← addConnection waypoint.waypointIdBottom waypoint.waypointDistanceBottom arrays
  return decimal waypoint.waypointId ++ [';'] ++ closeArray arrays.connectionIds ++ [';'] ++
    closeArray arrays.connectionDistances

/-- `WaypointsListToStrings`. -/
def waypointsListToStrings : List WaypointModel → Except Exn (List (List Char))
  | [] => .ok []
  | waypoint :: rest => do
      let waypointString ← waypointToString waypoint
      let waypointStrings ← waypointsListToStrings rest
      return waypointString :: waypointStrings

/-! ## The format -/

namespace WaypointModel

/-- The distance to the waypoint connected at a side. -/
def distance (waypoint : WaypointModel) : Side → Option String
  | .left => waypoint.waypointDistanceLeft
  | .right => waypoint.waypointDistanceRight
  | .top => waypoint.waypointDistanceTop
  | .bottom => waypoint.waypointDistanceBottom

/-- A connection with its distance. -/
def edge (waypoint : WaypointModel) (side : Side) : Option (Int × List Char) :=
  (waypoint.connection side).bind fun connectionId =>
    (waypoint.distance side).map fun distance => (connectionId, distance.toList)

/-- The connections with their distances, in the order of the sides. -/
def edges (waypoint : WaypointModel) : List (Int × List Char) :=
  [Side.left, .right, .top, .bottom].filterMap waypoint.edge

/-- Some connection has no distance. -/
def MissesDistance (waypoint : WaypointModel) : Prop :=
  ∃ side, waypoint.connection side ≠ none ∧ waypoint.distance side = none

/-- Some side has a connection. -/
def IsConnected (waypoint : WaypointModel) : Prop :=
  ∃ side, waypoint.connection side ≠ none

end WaypointModel

/-- A plain decimal numeral: digits with an optional point. -/
def plainNumeral (text : List Char) : Bool :=
  text.any Char.isDigit && text.all (fun char => char.isDigit || char == '.') &&
    decide (text.count '.' ≤ 1)

/-- The format of one waypoint. -/
def waypointFormat (waypointId : Int) (edges : List (Int × List Char)) : List Char :=
  [';'].intercalate [decimal waypointId, writeArray (edges.map fun edge => decimal edge.1),
    writeArray (edges.map Prod.snd)]

/-- Reading one waypoint: its id and its connections with their distances. -/
def readWaypoint (text : List Char) : Option (Int × List (Int × List Char)) :=
  match text.splitOn ';' with
  | [idText, connectionIds, connectionDistances] => do
      let waypointId ← Json.readInteger idText
      let items ← readArray connectionIds
      let ids ← items.mapM Json.readInteger
      let distances ← readArray connectionDistances
      if ids.length = distances.length then some (waypointId, ids.zip distances) else none
  | _ => none

/-! ## One waypoint -/

/-- The four blocks are one loop over the sides. -/
theorem waypointToString_eq (waypoint : WaypointModel) :
    waypointToString waypoint =
      (fun arrays => decimal waypoint.waypointId ++ [';'] ++ closeArray arrays.connectionIds ++
        [';'] ++ closeArray arrays.connectionDistances) <$>
      [Side.left, .right, .top, .bottom].foldlM (fun arrays side =>
        addConnection (waypoint.connection side) (waypoint.distance side) arrays)
        (⟨['['], ['[']⟩ : ConnectionArrays) := by
  simp only [waypointToString, List.foldlM_cons, List.foldlM_nil, WaypointModel.connection,
    WaypointModel.distance, bind_pure, map_eq_bind_pure_comp, bind_assoc, Function.comp_def]

/-- With all distances the items of the sides are appended in order. -/
theorem addConnections_ok (waypoint : WaypointModel) (sides : List Side)
    (arrays : ConnectionArrays)
    (complete : ∀ side ∈ sides, waypoint.connection side ≠ none →
      waypoint.distance side ≠ none) :
    sides.foldlM (fun arrays side =>
        addConnection (waypoint.connection side) (waypoint.distance side) arrays) arrays =
      .ok {
        connectionIds := arrays.connectionIds ++
          ((sides.filterMap waypoint.edge).map fun edge => decimal edge.1).flatMap (· ++ [','])
        connectionDistances := arrays.connectionDistances ++
          ((sides.filterMap waypoint.edge).map Prod.snd).flatMap (· ++ [',']) } := by
  induction sides generalizing arrays with
  | nil => simp [pure, Except.pure]
  | cons side sides ih =>
      have later : ∀ other ∈ sides, waypoint.connection other ≠ none →
          waypoint.distance other ≠ none :=
        fun other member => complete other (List.mem_cons_of_mem _ member)
      rw [List.foldlM_cons]
      cases connected : waypoint.connection side with
      | none =>
          have noEdge : waypoint.edge side = none := by simp [WaypointModel.edge, connected]
          rw [List.filterMap_cons_none noEdge]
          exact ih arrays later
      | some connectionId =>
          have present := complete side List.mem_cons_self (by simp [connected])
          rcases Option.ne_none_iff_exists'.mp present with ⟨distance, found⟩
          have edge : waypoint.edge side = some (connectionId, distance.toList) := by
            simp [WaypointModel.edge, connected, found]
          rw [List.filterMap_cons_some edge, found]
          refine (ih _ later).trans ?_
          simp [List.append_assoc]

/-- A connection without distance ends the loop. -/
theorem addConnections_error (waypoint : WaypointModel) (sides : List Side)
    (arrays : ConnectionArrays)
    (misses : ∃ side ∈ sides, waypoint.connection side ≠ none ∧
      waypoint.distance side = none) :
    sides.foldlM (fun arrays side =>
        addConnection (waypoint.connection side) (waypoint.distance side) arrays) arrays =
      .error .nullReference := by
  induction sides generalizing arrays with
  | nil => simp at misses
  | cons side sides ih =>
      rw [List.foldlM_cons]
      by_cases here : waypoint.connection side ≠ none ∧ waypoint.distance side = none
      · rcases Option.ne_none_iff_exists'.mp here.1 with ⟨connectionId, connected⟩
        rw [connected, here.2]
        rfl
      · have later : ∃ other ∈ sides, waypoint.connection other ≠ none ∧
            waypoint.distance other = none := by
          rcases misses with ⟨other, member, missing⟩
          rcases List.mem_cons.mp member with rfl | later
          · exact absurd missing here
          · exact ⟨other, later, missing⟩
        cases connected : waypoint.connection side with
        | none => exact ih arrays later
        | some connectionId =>
            have present : waypoint.distance side ≠ none := by
              intro missing
              exact here ⟨by simp [connected], missing⟩
            rcases Option.ne_none_iff_exists'.mp present with ⟨distance, found⟩
            rw [found]
            exact ih _ later

/-- Cutting off the last character removes the last separator, or the bracket of an empty
array. -/
theorem closeArray_items (items : List (List Char)) :
    closeArray (['['] ++ items.flatMap (· ++ [','])) =
      if items = [] then [']'] else writeArray items := by
  split
  next empty =>
    rw [empty]
    rfl
  next nonempty =>
    have more : items.flatMap (· ++ [',']) ≠ [] := by
      rcases List.exists_cons_of_ne_nil nonempty with ⟨item, rest, rfl⟩
      simp
    rw [closeArray, List.dropLast_append_of_ne_nil more, dropLast_commas nonempty, writeArray]
    rfl

namespace WaypointModel

theorem missesDistance_iff (waypoint : WaypointModel) :
    waypoint.MissesDistance ↔ ∃ side ∈ [Side.left, .right, .top, .bottom],
      waypoint.connection side ≠ none ∧ waypoint.distance side = none := by
  constructor
  · rintro ⟨side, missing⟩
    exact ⟨side, by cases side <;> simp, missing⟩
  · rintro ⟨side, _, missing⟩
    exact ⟨side, missing⟩

theorem edges_ne_nil_iff {waypoint : WaypointModel} (complete : ¬waypoint.MissesDistance) :
    waypoint.edges ≠ [] ↔ waypoint.IsConnected := by
  have edge_iff : ∀ side, waypoint.edge side ≠ none ↔ waypoint.connection side ≠ none := by
    intro side
    cases connected : waypoint.connection side with
    | none => simp [edge, connected]
    | some connectionId =>
        cases found : waypoint.distance side with
        | none => exact absurd ⟨side, by simp [connected], found⟩ complete
        | some distance => simp [edge, connected, found]
  rw [edges, ne_eq, List.filterMap_eq_nil_iff, IsConnected]
  constructor
  · intro some
    by_contra unconnected
    apply some
    intro side _
    by_contra present
    exact unconnected ⟨side, (edge_iff side).mp present⟩
  · rintro ⟨side, connected⟩ none
    exact (edge_iff side).mpr connected (none side (by cases side <;> simp))

end WaypointModel

/-- The string that is built for a waypoint without a missing distance. -/
def builtString (waypoint : WaypointModel) : List Char :=
  if waypoint.edges = [] then decimal waypoint.waypointId ++ [';', ']', ';', ']']
  else waypointFormat waypoint.waypointId waypoint.edges

theorem waypointToString_complete {waypoint : WaypointModel}
    (complete : ¬waypoint.MissesDistance) :
    waypointToString waypoint =
      .ok (builtString waypoint) := by
  have distances : ∀ side ∈ [Side.left, .right, .top, .bottom],
      waypoint.connection side ≠ none → waypoint.distance side ≠ none := by
    intro side _ connected missing
    exact complete ⟨side, connected, missing⟩
  rw [waypointToString_eq, addConnections_ok waypoint _ _ distances]
  simp only [Functor.map, Except.map, closeArray_items, List.map_eq_nil_iff]
  rw [← WaypointModel.edges, builtString]
  split
  next empty => simp
  next => simp [waypointFormat]

theorem waypointToString_missing {waypoint : WaypointModel} (misses : waypoint.MissesDistance) :
    waypointToString waypoint = .error .nullReference := by
  rw [waypointToString_eq,
    addConnections_error waypoint _ _ (waypoint.missesDistance_iff.mp misses)]
  rfl

/-! ## Reading back -/

theorem mapM_readInteger (values : List Int) :
    (values.map decimal).mapM Json.readInteger = some values := by
  induction values with
  | nil => rfl
  | cons value values ih => simp [Json.readInteger_decimal, ih]

theorem plainNumeral_chars {text : List Char} (plain : plainNumeral text = true) :
    text ≠ [] ∧ ',' ∉ text ∧ ';' ∉ text := by
  simp only [plainNumeral, Bool.and_eq_true, List.any_eq_true, List.all_eq_true,
    Bool.or_eq_true, beq_iff_eq] at plain
  rcases plain with ⟨⟨⟨digit, member, _⟩, chars⟩, _⟩
  refine ⟨List.ne_nil_of_mem member, ?_, ?_⟩ <;>
  · intro separator
    have allowed := chars _ separator
    simp at allowed

theorem separator_not_mem_decimal (value : Int) : ',' ∉ decimal value ∧ ';' ∉ decimal value :=
  ⟨not_mem_decimal (by decide) (by decide) value, not_mem_decimal (by decide) (by decide) value⟩

theorem semicolon_not_mem_writeArray {items : List (List Char)}
    (plain : ∀ item ∈ items, ';' ∉ item) : ';' ∉ writeArray items := by
  have content : ';' ∉ [','].intercalate items := by
    induction items with
    | nil => simp
    | cons item items ih =>
        have first := plain item List.mem_cons_self
        have rest := ih fun other member => plain other (List.mem_cons_of_mem _ member)
        cases items with
        | nil => simpa using first
        | cons other items =>
            rw [List.intercalate_cons_cons]
            simp [first, rest]
  simp [writeArray, content]

/-- A waypoint in the format is read back. -/
theorem readWaypoint_format {waypointId : Int} {edges : List (Int × List Char)}
    (plain : ∀ edge ∈ edges, plainNumeral edge.2 = true) :
    readWaypoint (waypointFormat waypointId edges) = some (waypointId, edges) := by
  have ids : readArray (writeArray (edges.map fun edge => decimal edge.1)) =
      some (edges.map fun edge => decimal edge.1) := by
    apply readArray_writeArray
    intro item member
    rcases List.mem_map.mp member with ⟨edge, _, rfl⟩
    exact ⟨decimal_ne_nil _, (separator_not_mem_decimal _).1⟩
  have distances : readArray (writeArray (edges.map Prod.snd)) = some (edges.map Prod.snd) := by
    apply readArray_writeArray
    intro item member
    rcases List.mem_map.mp member with ⟨edge, edgeMember, rfl⟩
    exact ⟨(plainNumeral_chars (plain edge edgeMember)).1,
      (plainNumeral_chars (plain edge edgeMember)).2.1⟩
  have idsPlain : ';' ∉ writeArray (edges.map fun edge => decimal edge.1) := by
    apply semicolon_not_mem_writeArray
    intro item member
    rcases List.mem_map.mp member with ⟨edge, _, rfl⟩
    exact (separator_not_mem_decimal _).2
  have distancesPlain : ';' ∉ writeArray (edges.map Prod.snd) := by
    apply semicolon_not_mem_writeArray
    intro item member
    rcases List.mem_map.mp member with ⟨edge, edgeMember, rfl⟩
    exact (plainNumeral_chars (plain edge edgeMember)).2.2
  have split : (waypointFormat waypointId edges).splitOn ';' =
      [decimal waypointId, writeArray (edges.map fun edge => decimal edge.1),
        writeArray (edges.map Prod.snd)] := by
    apply List.splitOn_intercalate
    · simp [idsPlain, distancesPlain, (separator_not_mem_decimal waypointId).2]
    · simp
  have integers : (edges.map fun edge => decimal edge.1).mapM Json.readInteger =
      some (edges.map Prod.fst) := by
    rw [← mapM_readInteger, List.map_map]
    rfl
  simp only [readWaypoint, split, Json.readInteger_decimal, ids, integers, distances,
    Option.bind_eq_bind, Option.bind_some, List.length_map, if_true]
  rw [← List.zip_of_prod rfl rfl]

/-! ## The whole list -/

theorem waypointsListToStrings_complete {waypoints : List WaypointModel}
    (complete : ∀ waypoint ∈ waypoints, ¬waypoint.MissesDistance) :
    waypointsListToStrings waypoints = .ok (waypoints.map builtString) := by
  induction waypoints with
  | nil => rfl
  | cons waypoint rest ih =>
      have later := ih fun other member => complete other (List.mem_cons_of_mem _ member)
      rw [waypointsListToStrings, waypointToString_complete (complete waypoint List.mem_cons_self),
        later]
      rfl

theorem waypointsListToStrings_missing {waypoints : List WaypointModel}
    (misses : ∃ waypoint ∈ waypoints, waypoint.MissesDistance) :
    waypointsListToStrings waypoints = .error .nullReference := by
  induction waypoints with
  | nil => simp at misses
  | cons waypoint rest ih =>
      by_cases here : waypoint.MissesDistance
      · rw [waypointsListToStrings, waypointToString_missing here]
        rfl
      · have later : ∃ other ∈ rest, other.MissesDistance := by
          rcases misses with ⟨other, member, missing⟩
          rcases List.mem_cons.mp member with rfl | later
          · exact absurd missing here
          · exact ⟨other, later, missing⟩
        rw [waypointsListToStrings, waypointToString_complete here, ih later]
        rfl

/-- What the string of a waypoint is meant to be: in the format, with at most four
connections, and read back as the waypoint. -/
structure EncodedWaypoint (waypoint : WaypointModel) (text : List Char) : Prop where
  format : text = waypointFormat waypoint.waypointId waypoint.edges
  count : waypoint.edges.length ≤ 4
  readBack : readWaypoint text = some (waypoint.waypointId, waypoint.edges)

/-- The distances of the connections are plain numerals. -/
def PlainDistances (waypoints : List WaypointModel) : Prop :=
  ∀ waypoint ∈ waypoints, ∀ edge ∈ waypoint.edges, plainNumeral edge.2 = true

/-- The intended encoding of a list of waypoints. -/
structure EncodesMap (waypoints : List WaypointModel) : Prop where
  throws : waypointsListToStrings waypoints = .error .nullReference ↔
    ∃ waypoint ∈ waypoints, waypoint.MissesDistance
  encodes : (∀ waypoint ∈ waypoints, ¬waypoint.MissesDistance) → PlainDistances waypoints →
    ∃ texts, waypointsListToStrings waypoints = .ok texts ∧
      List.Forall₂ EncodedWaypoint waypoints texts

theorem waypointsListToStrings_error_iff (waypoints : List WaypointModel) :
    waypointsListToStrings waypoints = .error .nullReference ↔
      ∃ waypoint ∈ waypoints, waypoint.MissesDistance := by
  constructor
  · intro failed
    by_contra complete
    rw [waypointsListToStrings_complete fun waypoint member misses =>
      complete ⟨waypoint, member, misses⟩] at failed
    cases failed
  · exact waypointsListToStrings_missing

/-- The string of a waypoint is as intended exactly if the waypoint is connected. -/
theorem encodedWaypoint_iff {waypoint : WaypointModel} (complete : ¬waypoint.MissesDistance)
    (plain : ∀ edge ∈ waypoint.edges, plainNumeral edge.2 = true) :
    EncodedWaypoint waypoint (builtString waypoint) ↔ waypoint.IsConnected := by
  rw [← WaypointModel.edges_ne_nil_iff complete]
  constructor
  · intro encoded empty
    have format := encoded.format
    rw [builtString, if_pos empty, empty] at format
    have sizes := congrArg List.length format
    simp [waypointFormat, writeArray] at sizes
  · intro connected
    have built : builtString waypoint = waypointFormat waypoint.waypointId waypoint.edges :=
      if_neg connected
    refine ⟨built, ?_, ?_⟩
    · exact (List.length_filterMap_le _ _)
    · rw [built]
      exact readWaypoint_format plain

/-- The encoding is as intended exactly if a connection lacks its distance, so that it
throws, if some distance is not a plain numeral, so that nothing is intended, or if every
waypoint has a connection. -/
theorem waypointMap_encoded_iff (waypoints : List WaypointModel) :
    EncodesMap waypoints ↔
      (∃ waypoint ∈ waypoints, waypoint.MissesDistance) ∨ ¬PlainDistances waypoints ∨
        ∀ waypoint ∈ waypoints, waypoint.IsConnected := by
  constructor
  · intro encoded
    by_cases misses : ∃ waypoint ∈ waypoints, waypoint.MissesDistance
    · exact Or.inl misses
    · by_cases plain : PlainDistances waypoints
      · right
        right
        have complete : ∀ waypoint ∈ waypoints, ¬waypoint.MissesDistance :=
          fun waypoint member missing => misses ⟨waypoint, member, missing⟩
        rcases encoded.encodes complete plain with ⟨texts, built, each⟩
        rw [waypointsListToStrings_complete complete, Except.ok.injEq] at built
        rw [← built, List.forall₂_map_right_iff, List.forall₂_same] at each
        intro waypoint member
        exact (encodedWaypoint_iff (complete waypoint member) (plain waypoint member)).mp
          (each waypoint member)
      · exact Or.inr (Or.inl plain)
  · intro condition
    refine ⟨waypointsListToStrings_error_iff waypoints, ?_⟩
    intro complete plain
    refine ⟨_, waypointsListToStrings_complete complete, ?_⟩
    rw [List.forall₂_map_right_iff, List.forall₂_same]
    intro waypoint member
    apply (encodedWaypoint_iff (complete waypoint member) (plain waypoint member)).mpr
    rcases condition with ⟨other, otherMember, misses⟩ | notPlain | connected
    · exact absurd misses (complete other otherMember)
    · exact absurd plain notPlain
    · exact connected waypoint member

/-- A waypoint without connections. -/
def loneWaypointModel : WaypointModel where
  waypointId := 1
  qrIdLeft := none
  qrIdRight := none
  qrIdTop := none
  qrIdBottom := none
  qrDistanceLeft := none
  qrDistanceRight := none
  qrDistanceTop := none
  qrDistanceBottom := none
  waypointIdLeft := none
  waypointIdRight := none
  waypointIdTop := none
  waypointIdBottom := none
  waypointDistanceLeft := none
  waypointDistanceRight := none
  waypointDistanceTop := none
  waypointDistanceBottom := none

/-- Its string has closing brackets only. -/
theorem waypointMap_not_encoded :
    waypointsListToStrings [loneWaypointModel] = .ok ["1;];]".toList] ∧
      ¬EncodesMap [loneWaypointModel] := by
  have built : waypointsListToStrings [loneWaypointModel] = .ok ["1;];]".toList] := by decide
  refine ⟨built, ?_⟩
  intro encoded
  have complete : ∀ waypoint ∈ [loneWaypointModel], ¬waypoint.MissesDistance := by
    intro waypoint member
    rw [List.mem_singleton.mp member]
    rintro ⟨side, connected, _⟩
    cases side <;> exact connected rfl
  have plain : PlainDistances [loneWaypointModel] := by
    intro waypoint member edge edgeMember
    rw [List.mem_singleton.mp member] at edgeMember
    cases edgeMember
  rcases encoded.encodes complete plain with ⟨texts, encodes, each⟩
  rw [built, Except.ok.injEq] at encodes
  rw [← encodes, List.forall₂_cons] at each
  have format := each.1.format
  revert format
  decide

end ECam.Server
