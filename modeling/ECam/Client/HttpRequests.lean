import ECam.Client.Api
import ECam.Library.Http
import ECam.Library.Json

/-!
# The requests as HTTP messages

Both functions of the client write a request line and header lines.  Neither ends them
with an empty line: the request for a task stops after its last header, and in a status
report the body follows the line of its length at once.
-/

namespace ECam.Client

open ECam.Library

/-! ## The messages -/

/-- The headers of both requests. -/
def commonHeaders : List (List Char × List Char) :=
  [("Host".toList, "172.20.10.12:80".toList),
    ("User-Agent".toList, "esp-idf/1.0 esp32".toList)]

/-- The message that `api_get_nexttask` is about to write. -/
def getMessage (id : Int) : Http.Request where
  method := "GET".toList
  target := managerPrefixPath ++ itoa id ++ getNextTaskSuffixPath
  headers := commonHeaders
  body := []

/-- The message that `api_update_status` is about to write. -/
def putMessage (id taskId qrId : Int) (qrDistanceStr : List Char) : Http.Request where
  method := "PUT".toList
  target := managerPrefixPath ++ itoa id ++ updateStatusSuffixPath
  headers := commonHeaders ++ [("Content-Type".toList, "application/json".toList),
    ("Content-Length".toList, itoa (jsonBody id taskId qrId qrDistanceStr).length)]
  body := jsonBody id taskId qrId qrDistanceStr

/-- A complete request for a task. -/
def CompleteGet (text : List Char) : Prop :=
  ∃ request, Http.parseRequest text = some request ∧ request.method = "GET".toList ∧
    request.body = []

/-- A complete status report with the given body. -/
def CompletePut (text body : List Char) : Prop :=
  ∃ request, Http.parseRequest text = some request ∧ request.method = "PUT".toList ∧
    request.body = body ∧
    request.headers.lookup "Content-Length".toList = some (itoa request.body.length)

/-! ## The lines -/

theorem httpRequestSuffix_eq :
    httpRequestSuffix = ' ' :: Http.version ++ '\r' :: '\n' ::
      Http.writeLines (commonHeaders.map Http.Request.headerLine) := by
  decide

/-- The request for a task is the head of its message. -/
theorem apiGetNexttask_eq (id : Int) : apiGetNexttask id = (getMessage id).writeHead := by
  have start : getPrefix = "GET".toList ++ [' '] := by decide
  simp only [apiGetNexttask, Http.Request.writeHead, Http.Request.requestLine, getMessage,
    Http.writeLines, httpRequestSuffix_eq, start]
  simp

/-- A status report is the head of its message and the body. -/
theorem apiUpdateStatus_eq (id taskId qrId : Int) (qrDistanceStr : List Char) :
    apiUpdateStatus id taskId qrId qrDistanceStr =
      (putMessage id taskId qrId qrDistanceStr).writeHead ++
        jsonBody id taskId qrId qrDistanceStr := by
  have start : putPrefix = "PUT".toList ++ [' '] := by decide
  have content : jsonContentSuffix =
      Http.Request.headerLine ("Content-Type".toList, "application/json".toList) ++
        '\r' :: '\n' :: ("Content-Length".toList ++ [':', ' ']) := by decide
  have lineEnd : "\r\n".toList = ['\r', '\n'] := by decide
  simp only [apiUpdateStatus, Http.Request.writeHead, Http.Request.requestLine, putMessage,
    Http.writeLines, httpRequestSuffix_eq, start, content, lineEnd]
  simp [Http.Request.headerLine]

/-- The path of a robot is one word of the request line. -/
theorem word_path (id : Int) {suffixPath : List Char}
    (plain : ' ' ∉ suffixPath ∧ '\r' ∉ suffixPath) :
    Http.Request.Word (managerPrefixPath ++ itoa id ++ suffixPath) := by
  have noBlank : ' ' ∉ managerPrefixPath := by decide
  have noReturn : '\r' ∉ managerPrefixPath := by decide
  refine ⟨?_, ?_, ?_⟩
  · simp [itoa, decimal_ne_nil]
  · simp [noBlank, plain.1, itoa, not_mem_decimal]
  · simp [noReturn, plain.2, itoa, not_mem_decimal]

theorem commonHeaders_valid :
    ∀ header ∈ commonHeaders, Http.Request.ValidHeader header := by
  intro header member
  simp only [commonHeaders, List.mem_cons, List.not_mem_nil, or_false] at member
  rcases member with rfl | rfl
  · exact ⟨by decide, by decide, by decide, by decide⟩
  · exact ⟨by decide, by decide, by decide, by decide⟩

theorem getMessage_valid (id : Int) : (getMessage id).Valid where
  method := show Http.Request.Word "GET".toList by decide
  target := word_path id (by decide)
  headers := commonHeaders_valid

/-- The header with the length of the body. -/
theorem contentLength_valid (size : Int) :
    Http.Request.ValidHeader ("Content-Length".toList, itoa size) where
  name := show Http.Request.Word "Content-Length".toList by decide
  noColon := show ':' ∉ "Content-Length".toList by decide
  value := not_mem_decimal (by decide) (by decide) size
  noBlank := by
    intro blank
    have member : ' ' ∈ decimal size := List.mem_of_mem_head? blank
    exact not_mem_decimal (by decide) (by decide) size member

theorem putMessage_valid (id taskId qrId : Int) (qrDistanceStr : List Char) :
    (putMessage id taskId qrId qrDistanceStr).Valid where
  method := show Http.Request.Word "PUT".toList by decide
  target := word_path id (by decide)
  headers := by
    intro header member
    simp only [putMessage, List.mem_append, List.mem_cons, List.not_mem_nil, or_false] at member
    rcases member with common | rfl | rfl
    · exact commonHeaders_valid header common
    · exact ⟨by decide, by decide, by decide, by decide⟩
    · exact contentLength_valid _

/-! ## The body -/

/-- The lines of the body that are ended, and the rest. -/
theorem jsonBody_lines (id taskId qrId : Int) (qrDistanceStr : List Char) :
    jsonBody id taskId qrId qrDistanceStr =
      Http.writeLines ["\x7b\"RobotID\": ".toList ++ itoa id ++ [',']] ++
        if qrId ≥ 0 then
          Http.writeLines ["\"QR_ID_InFront\": ".toList ++ itoa qrId ++ [',']] ++
            ("\"QR_Distance_InFront\": \"".toList ++ qrDistanceStr ++ "\"\x7d".toList)
        else
          [] := by
  by_cases marker : qrId ≥ 0
  · simp only [jsonBody, ite_self, if_pos marker, Http.writeLines, List.flatMap_cons,
      List.flatMap_nil, List.append_assoc]
    rfl
  · simp only [jsonBody, ite_self, if_neg marker, Http.writeLines, List.flatMap_cons,
      List.flatMap_nil, List.append_assoc]
    rfl

/-- The body has no empty line: reading it as a head does not come to an end. -/
theorem readHead_jsonBody (id taskId qrId : Int) {qrDistanceStr : List Char}
    (plain : '\r' ∉ qrDistanceStr) :
    Http.readHead [] (jsonBody id taskId qrId qrDistanceStr) = none := by
  have line : ∀ (name : List Char) (value : Int), '\r' ∉ name →
      ∀ line ∈ [name ++ itoa value ++ [',']], line ≠ [] ∧ '\r' ∉ line := by
    intro name value noReturn line member
    rw [List.mem_singleton.mp member]
    simp [noReturn, itoa, not_mem_decimal]
  rw [jsonBody_lines, Http.readHead_writeLines _ (line _ id (by decide)), Option.map_eq_none_iff]
  split
  next =>
    have nameEnd : '\r' ∉ "\"QR_Distance_InFront\": \"".toList := by decide
    have bodyEnd : '\r' ∉ "\"\x7d".toList := by decide
    have rest : '\r' ∉
        "\"QR_Distance_InFront\": \"".toList ++ qrDistanceStr ++ "\"\x7d".toList := by
      rw [List.mem_append, List.mem_append]
      rintro ((name | distance) | brace)
      · exact nameEnd name
      · exact plain distance
      · exact bodyEnd brace
    rw [Http.readHead_writeLines _ (line _ qrId (by decide)), Http.readHead_unfinished rest]
    rfl
  next => rfl

/-! ## Completeness -/

/-- With an empty line after the headers both requests would be complete. -/
theorem requests_completed (id taskId qrId : Int) (qrDistanceStr : List Char) :
    CompleteGet (apiGetNexttask id ++ ['\r', '\n']) ∧
      CompletePut ((putMessage id taskId qrId qrDistanceStr).writeHead ++ '\r' :: '\n' ::
        jsonBody id taskId qrId qrDistanceStr) (jsonBody id taskId qrId qrDistanceStr) := by
  constructor
  · refine ⟨getMessage id, ?_, rfl, rfl⟩
    rw [apiGetNexttask_eq]
    exact (getMessage_valid id).parseRequest_write
  · refine ⟨putMessage id taskId qrId qrDistanceStr, ?_, rfl, rfl, rfl⟩
    exact (putMessage_valid id taskId qrId qrDistanceStr).parseRequest_write

theorem noReturn_of_plainText {text : List Char} (plain : Json.PlainText text) : '\r' ∉ text := by
  intro member
  have char := List.all_eq_true.mp plain '\r' member
  exact absurd char (by decide)

/-- Neither request is a complete message, whatever the numbers and the distance. -/
theorem requests_incomplete (id taskId qrId : Int) (qrDistanceStr : List Char)
    (plain : Json.PlainText qrDistanceStr) :
    ¬CompleteGet (apiGetNexttask id) ∧
      ¬CompletePut (apiUpdateStatus id taskId qrId qrDistanceStr)
        (jsonBody id taskId qrId qrDistanceStr) := by
  constructor
  · rintro ⟨request, parsed, _⟩
    have unfinished := (getMessage_valid id).parseRequest_unfinished
      (show Http.readHead [] [] = none from rfl)
    rw [List.append_nil, ← apiGetNexttask_eq, parsed] at unfinished
    cases unfinished
  · rintro ⟨request, parsed, _⟩
    have unfinished := (putMessage_valid id taskId qrId qrDistanceStr).parseRequest_unfinished
      (readHead_jsonBody id taskId qrId (noReturn_of_plainText plain))
    rw [← apiUpdateStatus_eq, parsed] at unfinished
    cases unfinished

/-- Robot `7` asks for a task, and reports marker `1` in front. -/
theorem requests_incomplete_marker :
    Json.PlainText "5.6".toList ∧ ¬CompleteGet (apiGetNexttask 7) ∧
      ¬CompletePut (apiUpdateStatus 7 2 1 "5.6".toList) (jsonBody 7 2 1 "5.6".toList) :=
  ⟨rfl, requests_incomplete 7 2 1 "5.6".toList rfl⟩

/-- Reading the two requests finds no end of the head. -/
theorem requests_not_complete :
    Http.parseRequest (apiGetNexttask 7) = none ∧
      Http.parseRequest (apiUpdateStatus 7 2 1 "5.6".toList) = none ∧
      ¬(CompleteGet (apiGetNexttask 7) ∧
        CompletePut (apiUpdateStatus 7 2 1 "5.6".toList) (jsonBody 7 2 1 "5.6".toList)) := by
  have get : Http.parseRequest (apiGetNexttask 7) = none := by decide
  have put : Http.parseRequest (apiUpdateStatus 7 2 1 "5.6".toList) = none := by decide +kernel
  refine ⟨get, put, ?_⟩
  rintro ⟨⟨request, parsed, _⟩, _⟩
  rw [get] at parsed
  cases parsed

end ECam.Client
