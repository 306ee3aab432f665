import ECam.Client.Api
import ECam.Library.Json
import ECam.Server.Waiting

/-!
# A status report from the client to the server

The body that `api_update_status` builds, read as JSON into the model of a status and
handled by `UpdateCurrentStatus`.  The branch for the task id is empty, so the server
always receives a status without a task: it stores none, and deletes the queue of the
robot that has just reported one.
-/

namespace ECam.Client

open ECam.Library ECam.Server

/-! ## Reading a status -/

/-- An `int?` property: a missing member and `null` are null. -/
def intProperty (name : List Char) (members : List (List Char × Json.Scalar)) :
    Option (Option Int) :=
  match Json.member name members with
  | none => some none
  | some .null => some none
  | some (.number value) =>
      if -2 ^ 31 ≤ value ∧ value < 2 ^ 31 then some (some value) else none
  | some _ => none

/-- An `int` property: a missing member is `0`, and `null` is rejected. -/
def plainIntProperty (name : List Char) (members : List (List Char × Json.Scalar)) :
    Option Int :=
  match Json.member name members with
  | none => some 0
  | some (.number value) => if -2 ^ 31 ≤ value ∧ value < 2 ^ 31 then some value else none
  | some _ => none

/-- A `string?` property. -/
def textProperty (name : List Char) (members : List (List Char × Json.Scalar)) :
    Option (Option String) :=
  match Json.member name members with
  | none => some none
  | some .null => some none
  | some (.text value) => some (some (String.ofList value))
  | some _ => none

/-- The members of the body as a status. -/
def statusOfMembers (members : List (List Char × Json.Scalar)) :
    Option CurrentStatusModel := do
  let robotID ← plainIntProperty "RobotID".toList members
  let taskID ← intProperty "TaskID".toList members
  let qrIdInFront ← intProperty "QR_ID_InFront".toList members
  let qrDistanceInFront ← textProperty "QR_Distance_InFront".toList members
  return {
    robotID := robotID
    taskID := taskID
    qrIdInFront := qrIdInFront
    qrDistanceInFront := qrDistanceInFront }

/-- The body of a status report, as the server receives it. -/
def decodeStatus (body : List Char) : Option CurrentStatusModel :=
  (Json.parseObject body).bind statusOfMembers

/-! ## The body of the client -/

/-- The body of a report with a marker in front, character by character around the
printed values. -/
theorem jsonBody_eq {qrId : Int} (id taskId : Int) (qrDistanceStr : List Char)
    (qrNonneg : 0 ≤ qrId) :
    jsonBody id taskId qrId qrDistanceStr =
      '\x7b' :: '"' :: ("RobotID".toList ++ '"' :: ':' :: ' ' :: (decimal id ++
        ',' :: '\r' :: '\n' :: '"' :: ("QR_ID_InFront".toList ++ '"' :: ':' :: ' ' ::
          (decimal qrId ++ ',' :: '\r' :: '\n' :: '"' :: ("QR_Distance_InFront".toList ++
            '"' :: ':' :: ' ' :: '"' :: (qrDistanceStr ++ '"' :: ['\x7d'])))))) := by
  simp only [jsonBody, itoa, ite_self, ge_iff_le, if_pos qrNonneg, List.append_assoc]
  rfl

/-- Every body begins with the id of the robot. -/
theorem tokenize_robot {id : Int} (idNonneg : 0 ≤ id) (rest : List Char) :
    Json.tokenize .between ('\x7b' :: '"' :: ("RobotID".toList ++ '"' :: ':' :: ' ' ::
        (decimal id ++ ',' :: '\r' :: '\n' :: rest))) =
      (Json.tokenize .between rest).map fun tokens =>
        .leftBrace :: .scalar (.text "RobotID".toList) :: .colon :: .scalar (.number id) ::
          .comma :: tokens := by
  have skipSpace : ∀ after, Json.tokenize .between (' ' :: after) =
      Json.tokenize .between after := fun _ => rfl
  have skipLine : Json.tokenize .between ('\r' :: '\n' :: rest) =
      Json.tokenize .between rest := rfl
  have openBrace : ∀ after, Json.tokenize .between ('\x7b' :: after) =
      (Json.tokenize .between after).map (.leftBrace :: ·) := fun _ => rfl
  have comma : Json.charClass ',' = .punctuation .comma := rfl
  have robotName : Json.PlainText "RobotID".toList := rfl
  rw [openBrace, Json.tokenize_name _ robotName, skipSpace, Json.tokenize_number idNonneg _ comma,
    skipLine, Option.map_map, Option.map_map]
  rfl

/-- The members of a body with a marker. -/
def markerMembers (id qrId : Int) (qrDistanceStr : List Char) :
    List (List Char × Json.Scalar) :=
  [("RobotID".toList, .number id), ("QR_ID_InFront".toList, .number qrId),
    ("QR_Distance_InFront".toList, .text qrDistanceStr)]

/-- The body of a report with a marker in front has these members. -/
theorem parseObject_jsonBody {id qrId : Int} (taskId : Int) {qrDistanceStr : List Char}
    (idNonneg : 0 ≤ id) (qrNonneg : 0 ≤ qrId) (plain : Json.PlainText qrDistanceStr) :
    Json.parseObject (jsonBody id taskId qrId qrDistanceStr) =
      some (markerMembers id qrId qrDistanceStr) := by
  have skipSpace : ∀ rest, Json.tokenize .between (' ' :: rest) =
      Json.tokenize .between rest := fun _ => rfl
  have skipLine : ∀ rest, Json.tokenize .between ('\r' :: '\n' :: rest) =
      Json.tokenize .between rest := fun _ => rfl
  have openQuote : ∀ rest, Json.tokenize .between ('"' :: rest) =
      Json.tokenize (.inText []) rest := fun _ => rfl
  have closeBrace : Json.tokenize .between ['\x7d'] = some [.rightBrace] := rfl
  have comma : Json.charClass ',' = .punctuation .comma := rfl
  have qrName : Json.PlainText "QR_ID_InFront".toList := rfl
  have distanceName : Json.PlainText "QR_Distance_InFront".toList := rfl
  rw [Json.parseObject, jsonBody_eq id taskId qrDistanceStr qrNonneg, tokenize_robot idNonneg,
    Json.tokenize_name _ qrName, skipSpace, Json.tokenize_number qrNonneg _ comma, skipLine,
    Json.tokenize_name _ distanceName, skipSpace, openQuote, Json.tokenize_inText _ plain,
    closeBrace]
  rfl

/-- The server receives the robot, the marker and the distance, and no task. -/
theorem decodeStatus_jsonBody {id qrId : Int} (taskId : Int) {qrDistanceStr : List Char}
    (idNonneg : 0 ≤ id) (idSmall : id < 2 ^ 31) (qrNonneg : 0 ≤ qrId)
    (qrSmall : qrId < 2 ^ 31) (plain : Json.PlainText qrDistanceStr) :
    decodeStatus (jsonBody id taskId qrId qrDistanceStr) =
      some ⟨id, none, some qrId, some (String.ofList qrDistanceStr)⟩ := by
  have robot : Json.member "RobotID".toList (markerMembers id qrId qrDistanceStr) =
      some (.number id) := rfl
  have task : Json.member "TaskID".toList (markerMembers id qrId qrDistanceStr) = none := rfl
  have marker : Json.member "QR_ID_InFront".toList (markerMembers id qrId qrDistanceStr) =
      some (.number qrId) := rfl
  have distance : Json.member "QR_Distance_InFront".toList
      (markerMembers id qrId qrDistanceStr) = some (.text qrDistanceStr) := rfl
  have idInt : -2 ^ 31 ≤ id ∧ id < 2 ^ 31 := ⟨by omega, idSmall⟩
  have qrInt : -2 ^ 31 ≤ qrId ∧ qrId < 2 ^ 31 := ⟨by omega, qrSmall⟩
  rw [decodeStatus, parseObject_jsonBody taskId idNonneg qrNonneg plain, Option.bind_some]
  simp only [statusOfMembers, plainIntProperty, intProperty, textProperty, robot, task, marker,
    distance, if_pos idInt, if_pos qrInt, Option.bind_eq_bind, Option.bind_some]
  rfl

/-! ## The round trip -/

/-- What a report is meant to achieve: the server stores the arguments of the call, and
the queue of the robot is kept. -/
def StatusRoundTrip (db : DbContext) (id taskId qrId : Int) (qrDistanceStr : List Char) :
    Prop :=
  ∃ status answer next,
    decodeStatus (jsonBody id taskId qrId qrDistanceStr) = some status ∧
    updateCurrentStatus id status db = .ok answer next ∧
    next.statusOf id =
      some ⟨id, some taskId, some qrId, some (String.ofList qrDistanceStr)⟩ ∧
    next.tasksOf id = db.tasksOf id

/-- An idle status under the id of its robot is always accepted; it clears the queue
and leaves the robot without a task. -/
theorem updateCurrentStatus_idle (db : DbContext) {id : Int} {status : CurrentStatusModel}
    (own : status.robotID = id) (idle : status.taskID = none) :
    ∃ answer next, updateCurrentStatus id status db = .ok answer next ∧
      next.tasksOf id = [] ∧
      ∀ stored, next.statusOf id = some stored → stored.taskID = none := by
  rcases saveStatus_own db own with ⟨stored, saved, ok, _, _⟩
  have reported := updateCurrentStatus_saved ok
  refine ⟨_, _, reported, ?_, ?_⟩
  · rw [afterStatus_tasksOf, if_pos ⟨idle, rfl⟩]
  · exact (WaitingRobot.of_report own idle reported).noTask

/-- Every report with a task and a marker loses the task: the server accepts it, stores
no task for the robot and deletes its queue, so the round trip fails. -/
theorem status_report_loses_task (db : DbContext) {id taskId qrId : Int}
    {qrDistanceStr : List Char} (idNonneg : 0 ≤ id) (idLe : id ≤ 9999) (qrNonneg : 0 ≤ qrId)
    (qrLe : qrId ≤ 9999) (plain : Json.PlainText qrDistanceStr) :
    ¬StatusRoundTrip db id taskId qrId qrDistanceStr ∧
      ∃ status answer next,
        decodeStatus (jsonBody id taskId qrId qrDistanceStr) = some status ∧
        updateCurrentStatus id status db = .ok answer next ∧ next.tasksOf id = [] := by
  have decoded := decodeStatus_jsonBody taskId idNonneg (by omega) qrNonneg (by omega) plain
  rcases @updateCurrentStatus_idle db id
    ⟨id, none, some qrId, some (String.ofList qrDistanceStr)⟩ rfl rfl with
    ⟨answer, next, updated, cleared, noTask⟩
  constructor
  · rintro ⟨status, otherAnswer, otherNext, otherDecoded, otherUpdated, stored, _⟩
    rw [decoded, Option.some.injEq] at otherDecoded
    rw [← otherDecoded, updated, EStateM.Result.ok.injEq] at otherUpdated
    rw [← otherUpdated.2] at stored
    cases noTask _ stored
  · exact ⟨_, answer, next, decoded, updated, cleared⟩

/-- Robot `7` reports its first task with marker `1` in front. -/
theorem status_report_loses_task_queued :
    ¬StatusRoundTrip queuedContext 7 1 1 "5.6".toList ∧
      ∃ status answer next, decodeStatus (jsonBody 7 1 1 "5.6".toList) = some status ∧
        updateCurrentStatus 7 status queuedContext = .ok answer next ∧ next.tasksOf 7 = [] :=
  status_report_loses_task queuedContext (by decide) (by decide) (by decide) (by decide) rfl

/-- The queue of robot `7` is not empty, and its report does not reach the server as
it was made. -/
theorem status_report_not_round_trip :
    queuedContext.tasksOf 7 = [pairTask 1 0, pairTask 2 1, pairTask 3 2] ∧
      ¬StatusRoundTrip queuedContext 7 1 1 "5.6".toList := by
  refine ⟨rfl, ?_⟩
  rintro ⟨status, answer, next, decoded, updated, stored, _⟩
  have received : decodeStatus (jsonBody 7 1 1 "5.6".toList) =
      some ⟨7, none, some 1, some "5.6"⟩ := rfl
  rw [received, Option.some.injEq] at decoded
  have handled : updateCurrentStatus 7 ⟨7, none, some 1, some "5.6"⟩ queuedContext =
      .ok (.createdAtAction ⟨7, none, some 1, some "5.6"⟩)
        ((updateCurrentStatus 7 ⟨7, none, some 1, some "5.6"⟩).after queuedContext) := rfl
  rw [← decoded, handled, EStateM.Result.ok.injEq] at updated
  rw [← updated.2] at stored
  have row : ((updateCurrentStatus 7 ⟨7, none, some 1, some "5.6"⟩).after
      queuedContext).statusOf 7 = some ⟨7, none, some 1, some "5.6"⟩ := rfl
  rw [row] at stored
  cases stored

end ECam.Client
