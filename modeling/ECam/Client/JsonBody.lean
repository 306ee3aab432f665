import ECam.Client.StatusReport

/-!
# The body of a status report as JSON

The members of the body are appended one by one, each followed by its separator, and the
closing brace is appended with the distance of the marker.  So the body is an object
exactly if there is a marker in front.  The distance is printed as it is passed: `-1`, which
is meant to be null, becomes a text.
-/

namespace ECam.Client

open ECam.Library

/-- A member that is null: it is missing, or its value is `null`. -/
def NullMember (name : List Char) (members : List (List Char × Json.Scalar)) : Prop :=
  Json.member name members = none ∨ Json.member name members = some .null

/-- The body is one object with the id of the robot, in which the ids that were passed as
`-1` are null. -/
structure WellFormedBody (id taskId qrId : Int) (body : List Char)
    (members : List (List Char × Json.Scalar)) : Prop where
  object : Json.parseObject body = some members
  robot : Json.member "RobotID".toList members = some (.number id)
  task : taskId = -1 → NullMember "TaskID".toList members
  marker : qrId = -1 → NullMember "QR_ID_InFront".toList members

/-- A distance that was passed as `-1` is null, too. -/
def NullDistance (qrDistanceStr : List Char) (members : List (List Char × Json.Scalar)) : Prop :=
  qrDistanceStr = "-1".toList → NullMember "QR_Distance_InFront".toList members

/-- Without a marker the body ends after a comma. -/
theorem parseObject_jsonBody_open {id qrId : Int} (taskId : Int) (qrDistanceStr : List Char)
    (idNonneg : 0 ≤ id) (noMarker : ¬0 ≤ qrId) :
    Json.parseObject (jsonBody id taskId qrId qrDistanceStr) = none := by
  have body : jsonBody id taskId qrId qrDistanceStr =
      '\x7b' :: '"' :: ("RobotID".toList ++ '"' :: ':' :: ' ' :: (decimal id ++
        ',' :: ['\r', '\n'])) := by
    simp only [jsonBody, itoa, ite_self, ge_iff_le, if_neg noMarker, List.append_assoc]
    rfl
  rw [Json.parseObject, body, tokenize_robot idNonneg]
  rfl

theorem not_wellFormedBody {id qrId : Int} (taskId : Int) (qrDistanceStr : List Char)
    (idNonneg : 0 ≤ id) (noMarker : ¬0 ≤ qrId) (members : List (List Char × Json.Scalar)) :
    ¬WellFormedBody id taskId qrId (jsonBody id taskId qrId qrDistanceStr) members := by
  intro wellFormed
  have object := wellFormed.object
  rw [parseObject_jsonBody_open taskId qrDistanceStr idNonneg noMarker] at object
  cases object

theorem wellFormedBody_marker {id qrId : Int} (taskId : Int) {qrDistanceStr : List Char}
    (idNonneg : 0 ≤ id) (marker : 0 ≤ qrId) (plain : Json.PlainText qrDistanceStr) :
    WellFormedBody id taskId qrId (jsonBody id taskId qrId qrDistanceStr)
      (markerMembers id qrId qrDistanceStr) where
  object := parseObject_jsonBody taskId idNonneg marker plain
  robot := rfl
  task := fun _ => Or.inl rfl
  marker := fun passed => by omega

/-- The distance is always a text. -/
theorem nullDistance_markerMembers_iff (id qrId : Int) (qrDistanceStr : List Char) :
    NullDistance qrDistanceStr (markerMembers id qrId qrDistanceStr) ↔
      qrDistanceStr ≠ "-1".toList := by
  have text : Json.member "QR_Distance_InFront".toList (markerMembers id qrId qrDistanceStr) =
      some (.text qrDistanceStr) := rfl
  constructor
  · intro distance passed
    rcases distance passed with absent | null
    · rw [text] at absent
      cases absent
    · rw [text] at null
      cases null
  · intro notPassed passed
    exact absurd passed notPassed

/-- The body is well formed exactly if there is a marker in front.  A distance that is
passed as `-1` is null exactly if there is no such distance. -/
theorem jsonBody_wellFormed_iff (id taskId qrId : Int) (qrDistanceStr : List Char)
    (idNonneg : 0 ≤ id) (plain : Json.PlainText qrDistanceStr) :
    ((∃ members, WellFormedBody id taskId qrId (jsonBody id taskId qrId qrDistanceStr) members) ↔
      0 ≤ qrId) ∧
    ((∃ members, WellFormedBody id taskId qrId (jsonBody id taskId qrId qrDistanceStr) members ∧
        NullDistance qrDistanceStr members) ↔
      0 ≤ qrId ∧ qrDistanceStr ≠ "-1".toList) := by
  by_cases marker : 0 ≤ qrId
  · have wellFormed := wellFormedBody_marker taskId idNonneg marker plain
    refine ⟨iff_of_true ⟨_, wellFormed⟩ marker, ?_⟩
    rw [← nullDistance_markerMembers_iff id qrId qrDistanceStr]
    constructor
    · rintro ⟨members, other, distance⟩
      have same := other.object
      rw [wellFormed.object, Option.some.injEq] at same
      rw [← same] at distance
      exact ⟨marker, distance⟩
    · rintro ⟨_, distance⟩
      exact ⟨_, wellFormed, distance⟩
  · have malformed := not_wellFormedBody taskId qrDistanceStr idNonneg marker
    refine ⟨iff_of_false ?_ marker, iff_of_false ?_ ?_⟩
    · rintro ⟨members, wellFormed⟩
      exact malformed members wellFormed
    · rintro ⟨members, wellFormed, _⟩
      exact malformed members wellFormed
    · rintro ⟨nonneg, _⟩
      exact marker nonneg

/-- Robot `7` with marker `1` in front. -/
theorem jsonBody_wellFormed_iff_marker :
    ((∃ members, WellFormedBody 7 (-1) 1 (jsonBody 7 (-1) 1 "5.6".toList) members) ↔
      (0 : Int) ≤ 1) ∧
    ((∃ members, WellFormedBody 7 (-1) 1 (jsonBody 7 (-1) 1 "5.6".toList) members ∧
        NullDistance "5.6".toList members) ↔
      (0 : Int) ≤ 1 ∧ "5.6".toList ≠ "-1".toList) :=
  jsonBody_wellFormed_iff 7 (-1) 1 "5.6".toList (by decide) rfl

/-- Robot `7` without a marker: the object is not closed. -/
theorem jsonBody_not_wellFormed :
    jsonBody 7 1 (-1) "0".toList = "\x7b\"RobotID\": 7,\r\n".toList ∧
      ¬∃ members, WellFormedBody 7 1 (-1) (jsonBody 7 1 (-1) "0".toList) members := by
  have body : jsonBody 7 1 (-1) "0".toList = "\x7b\"RobotID\": 7,\r\n".toList := by decide
  have unparsed : Json.parseObject "\x7b\"RobotID\": 7,\r\n".toList = none := by decide
  refine ⟨body, ?_⟩
  rintro ⟨members, object, _, _, _⟩
  rw [body, unparsed] at object
  cases object

end ECam.Client
