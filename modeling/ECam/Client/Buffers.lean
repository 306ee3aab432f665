import ECam.Client.Api

/-!
# The arrays of the client

Both functions build their strings in arrays of fixed sizes, by copying and appending
pieces without a check.  The arrays for the printed numbers hold four characters and the
terminating null.  The functions take any `int`, and their requests fit exactly if every
number is printed with at most four characters.
-/

namespace ECam.Client

open ECam.Library

/-- The arrays that strings are written to. -/
inductive CharArray where
  | idStr
  | taskidStr
  | qridStr
  | qrdistanceStr
  | jsonBody
  | jsonsizeStr
  | webPath
  | request
  deriving DecidableEq, Repr

namespace CharArray

/-- The declared size. -/
def size : CharArray → Nat
  | idStr => 5
  | taskidStr => 5
  | qridStr => 5
  | qrdistanceStr => 14
  | jsonBody => 200
  | jsonsizeStr => 5
  | webPath => 80
  | request => 400

/-- The string fits with its terminating null. -/
def Fits (array : CharArray) (text : List Char) : Prop :=
  text.length + 1 ≤ array.size

instance (array : CharArray) (text : List Char) : Decidable (array.Fits text) :=
  inferInstanceAs (Decidable (_ ≤ _))

/-- The first piece is copied to the array and the others are appended: after each of
them the string must fit. -/
def Holds (array : CharArray) (pieces : List (List Char)) : Prop :=
  ∀ count ≤ pieces.length, array.Fits (pieces.take count).flatten

/-- The string only gets longer, so the last one decides. -/
theorem holds_iff {array : CharArray} {pieces : List (List Char)} :
    array.Holds pieces ↔ array.Fits pieces.flatten := by
  constructor
  · intro holds
    have last := holds pieces.length le_rfl
    rwa [List.take_length] at last
  · intro fits count _
    have shorter : (pieces.take count).flatten.length ≤ pieces.flatten.length :=
      ((List.take_prefix count pieces).flatten).length_le
    unfold Fits at fits ⊢
    omega

end CharArray

/-! ## The pieces -/

/-- What `api_get_nexttask` writes to each array, piece by piece. -/
def getNexttaskPieces (id : Int) : CharArray → List (List Char)
  | .idStr => [itoa id]
  | .webPath => [managerPrefixPath]
  | .request =>
      [getPrefix, managerPrefixPath, itoa id, getNextTaskSuffixPath, httpRequestSuffix]
  | _ => []

/-- What `api_update_status` writes to each array, piece by piece. -/
def updateStatusPieces (id taskId qrId : Int) (qrDistanceStr : List Char) :
    CharArray → List (List Char)
  | .idStr => [itoa id]
  | .taskidStr => [itoa taskId]
  | .qridStr => [itoa qrId]
  | .qrdistanceStr => [qrDistanceStr]
  | .jsonBody =>
      -- the branch for a task appends nothing
      ["\x7b".toList, "\"RobotID\": ".toList, itoa id, ",\r\n".toList] ++
        if qrId ≥ 0 then
          ["\"QR_ID_InFront\": ".toList, itoa qrId, ",\r\n".toList,
            "\"QR_Distance_InFront\": \"".toList, qrDistanceStr, "\"\x7d".toList]
        else
          []
  | .jsonsizeStr => [itoa (jsonBody id taskId qrId qrDistanceStr).length]
  | .webPath => [managerPrefixPath]
  | .request =>
      [putPrefix, managerPrefixPath, itoa id, updateStatusSuffixPath, httpRequestSuffix,
        jsonContentSuffix, itoa (jsonBody id taskId qrId qrDistanceStr).length, "\r\n".toList,
        jsonBody id taskId qrId qrDistanceStr]

/-- The pieces are those of the request for a task. -/
theorem flatten_getNexttaskPieces (id : Int) :
    (getNexttaskPieces id .request).flatten = apiGetNexttask id := by
  simp [getNexttaskPieces, apiGetNexttask]

/-- The pieces are those of a status report and its body. -/
theorem flatten_updateStatusPieces (id taskId qrId : Int) (qrDistanceStr : List Char) :
    (updateStatusPieces id taskId qrId qrDistanceStr .jsonBody).flatten =
        jsonBody id taskId qrId qrDistanceStr ∧
      (updateStatusPieces id taskId qrId qrDistanceStr .request).flatten =
        apiUpdateStatus id taskId qrId qrDistanceStr := by
  constructor
  · by_cases marker : qrId ≥ 0
    · simp only [updateStatusPieces, jsonBody, ite_self, if_pos marker, List.cons_append,
        List.nil_append, List.flatten_cons, List.flatten_nil, List.append_nil, List.append_assoc]
    · simp only [updateStatusPieces, jsonBody, ite_self, if_neg marker, List.flatten_cons,
        List.flatten_nil, List.append_nil, List.append_assoc]
  · simp only [updateStatusPieces, apiUpdateStatus, List.flatten_cons, List.flatten_nil,
      List.append_nil, List.append_assoc]

/-! ## The sizes -/

/-- A number that is printed with at most four characters. -/
def FourCharacters (value : Int) : Prop :=
  -999 ≤ value ∧ value ≤ 9999

theorem itoa_length_iff (value : Int) : (itoa value).length + 1 ≤ 5 ↔ FourCharacters value := by
  have width : (decimal value).length ≤ 2 + 2 ↔
      -10 ^ (2 + 1) < value ∧ value < 10 ^ (2 + 2) := length_decimal_le_iff
  unfold itoa FourCharacters
  omega

/-- The constant pieces of the body have 61 characters. -/
theorem jsonBody_length_le {id taskId qrId : Int} {qrDistanceStr : List Char}
    (robot : FourCharacters id) (marker : FourCharacters qrId)
    (short : qrDistanceStr.length ≤ 12) :
    (jsonBody id taskId qrId qrDistanceStr).length ≤ 81 := by
  have idLength := (itoa_length_iff id).mpr robot
  have qrLength := (itoa_length_iff qrId).mpr marker
  have brace : "\x7b".toList.length = 1 := by decide
  have robotName : "\"RobotID\": ".toList.length = 11 := by decide
  have separator : ",\r\n".toList.length = 3 := by decide
  have markerName : "\"QR_ID_InFront\": ".toList.length = 17 := by decide
  have distanceName : "\"QR_Distance_InFront\": \"".toList.length = 24 := by decide
  have bodyEnd : "\"\x7d".toList.length = 2 := by decide
  simp only [jsonBody, ite_self]
  split <;> simp only [List.length_append] <;> omega

/-- With numbers of at most four characters the long arrays are long enough. -/
theorem updateStatus_longArrays {id qrId : Int} {qrDistanceStr : List Char} (taskId : Int)
    (robot : FourCharacters id) (marker : FourCharacters qrId)
    (short : qrDistanceStr.length ≤ 12) :
    CharArray.jsonBody.Fits (jsonBody id taskId qrId qrDistanceStr) ∧
      CharArray.jsonsizeStr.Fits (itoa (jsonBody id taskId qrId qrDistanceStr).length) ∧
      CharArray.request.Fits (apiUpdateStatus id taskId qrId qrDistanceStr) := by
  have idLength := (itoa_length_iff id).mpr robot
  have bodyLength : (jsonBody id taskId qrId qrDistanceStr).length ≤ 81 :=
    jsonBody_length_le robot marker short
  have sizeLength := (itoa_length_iff (jsonBody id taskId qrId qrDistanceStr).length).mpr
    ⟨by omega, by omega⟩
  have putLength : putPrefix.length = 4 := by decide
  have pathLength : managerPrefixPath.length = 19 := by decide
  have statusLength : updateStatusSuffixPath.length = 13 := by decide
  have requestLength : httpRequestSuffix.length = 65 := by decide
  have contentLength : jsonContentSuffix.length = 48 := by decide
  have lineEnd : "\r\n".toList.length = 2 := by decide
  refine ⟨?_, sizeLength, ?_⟩
  · simp only [CharArray.Fits, CharArray.size]
    omega
  · simp only [CharArray.Fits, CharArray.size, apiUpdateStatus, List.length_append]
    omega

theorem getNexttask_request {id : Int} (robot : FourCharacters id) :
    CharArray.request.Fits (apiGetNexttask id) := by
  have idLength := (itoa_length_iff id).mpr robot
  have getLength : getPrefix.length = 4 := by decide
  have pathLength : managerPrefixPath.length = 19 := by decide
  have taskLength : getNextTaskSuffixPath.length = 9 := by decide
  have requestLength : httpRequestSuffix.length = 65 := by decide
  simp only [CharArray.Fits, CharArray.size, apiGetNexttask, List.length_append]
  omega

/-- A string that is written in one piece. -/
theorem holds_singleton {array : CharArray} {text : List Char} :
    array.Holds [text] ↔ array.Fits text := by
  rw [CharArray.holds_iff, List.flatten_cons, List.flatten_nil, List.append_nil]

theorem webPath_fits : CharArray.webPath.Fits managerPrefixPath := by
  have pathLength : managerPrefixPath.length = 19 := by decide
  simp [CharArray.Fits, CharArray.size, pathLength]

theorem holds_nil (array : CharArray) : array.Holds [] := by
  rw [CharArray.holds_iff]
  cases array <;> simp [CharArray.Fits, CharArray.size]

theorem getNexttask_holds_iff (id : Int) :
    (∀ array : CharArray, array.Holds (getNexttaskPieces id array)) ↔ FourCharacters id := by
  constructor
  · intro holds
    exact (itoa_length_iff id).mp (holds_singleton.mp (holds .idStr))
  · intro robot array
    cases array with
    | idStr => exact holds_singleton.mpr ((itoa_length_iff id).mpr robot)
    | webPath => exact holds_singleton.mpr webPath_fits
    | request =>
        rw [CharArray.holds_iff, flatten_getNexttaskPieces]
        exact getNexttask_request robot
    | _ => exact holds_nil _

theorem updateStatus_holds_iff (id taskId qrId : Int) {qrDistanceStr : List Char}
    (short : qrDistanceStr.length ≤ 12) :
    (∀ array : CharArray, array.Holds (updateStatusPieces id taskId qrId qrDistanceStr array)) ↔
      FourCharacters id ∧ FourCharacters taskId ∧ FourCharacters qrId := by
  constructor
  · intro holds
    refine ⟨?_, ?_, ?_⟩
    · exact (itoa_length_iff id).mp (holds_singleton.mp (holds .idStr))
    · exact (itoa_length_iff taskId).mp (holds_singleton.mp (holds .taskidStr))
    · exact (itoa_length_iff qrId).mp (holds_singleton.mp (holds .qridStr))
  · rintro ⟨robot, task, marker⟩ array
    rcases updateStatus_longArrays taskId robot marker short with ⟨body, size, request⟩
    rcases flatten_updateStatusPieces id taskId qrId qrDistanceStr with
      ⟨bodyPieces, requestPieces⟩
    cases array with
    | idStr => exact holds_singleton.mpr ((itoa_length_iff id).mpr robot)
    | taskidStr => exact holds_singleton.mpr ((itoa_length_iff taskId).mpr task)
    | qridStr => exact holds_singleton.mpr ((itoa_length_iff qrId).mpr marker)
    | qrdistanceStr =>
        apply holds_singleton.mpr
        simp only [CharArray.Fits, CharArray.size]
        omega
    | jsonBody =>
        rw [CharArray.holds_iff, bodyPieces]
        exact body
    | jsonsizeStr => exact holds_singleton.mpr size
    | webPath => exact holds_singleton.mpr webPath_fits
    | request =>
        rw [CharArray.holds_iff, requestPieces]
        exact request

/-- The arrays of both functions suffice exactly if every number they print has at most
four characters. -/
theorem arrays_suffice_iff (id taskId qrId : Int) (qrDistanceStr : List Char)
    (short : qrDistanceStr.length ≤ 12) :
    ((∀ array : CharArray, array.Holds (getNexttaskPieces id array)) ↔ FourCharacters id) ∧
    ((∀ array : CharArray,
        array.Holds (updateStatusPieces id taskId qrId qrDistanceStr array)) ↔
      FourCharacters id ∧ FourCharacters taskId ∧ FourCharacters qrId) :=
  ⟨getNexttask_holds_iff id, updateStatus_holds_iff id taskId qrId short⟩

theorem arrays_suffice_iff_marker :
    ((∀ array : CharArray, array.Holds (getNexttaskPieces 7 array)) ↔ FourCharacters 7) ∧
    ((∀ array : CharArray, array.Holds (updateStatusPieces 7 2 1 "5.6".toList array)) ↔
      FourCharacters 7 ∧ FourCharacters 2 ∧ FourCharacters 1) :=
  arrays_suffice_iff 7 2 1 "5.6".toList (by decide)

/-- The id `10000` needs six characters with its terminating null. -/
theorem arrays_not_sufficient :
    itoa 10000 = "10000".toList ∧ ¬CharArray.idStr.Holds (getNexttaskPieces 10000 .idStr) ∧
      ¬CharArray.idStr.Holds (updateStatusPieces 10000 2 1 "5.6".toList .idStr) := by
  have printed : itoa 10000 = "10000".toList := by decide
  have tooLong : ¬CharArray.idStr.Fits (itoa 10000) := by
    rw [printed]
    decide
  refine ⟨printed, ?_, ?_⟩
  · intro holds
    exact tooLong (holds_singleton.mp holds)
  · intro holds
    exact tooLong (holds_singleton.mp holds)

end ECam.Client
