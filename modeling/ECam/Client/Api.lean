import ECam.Library.Text

/-!
# The requests of the client

The client talks to the manager of the server over HTTP.  It builds each request as a
text in a global buffer, by copying and appending pieces.  Here a request is the text
that the buffer holds when the function has built it, whatever the size of the buffer.
-/

namespace ECam.Client

open ECam.Library

/-! ## Constants -/

def managerPrefixPath : List Char := "/api/manager/robot/".toList

def getNextTaskSuffixPath : List Char := "/nexttask".toList

def updateStatusSuffixPath : List Char := "/updatestatus".toList

def getPrefix : List Char := "GET ".toList

def putPrefix : List Char := "PUT ".toList

/-- `HTTP_REQUEST_SUFFIX`, with the address and port of the server. -/
def httpRequestSuffix : List Char :=
  " HTTP/1.0\r\nHost: 172.20.10.12:80\r\nUser-Agent: esp-idf/1.0 esp32\r\n".toList

def jsonContentSuffix : List Char :=
  "Content-Type: application/json\r\nContent-Length: ".toList

/-- `itoa` with radix 10. -/
def itoa (value : Int) : List Char :=
  decimal value

/-! ## The requests -/

/-- The request built by `api_get_nexttask`. -/
def apiGetNexttask (id : Int) : List Char :=
  getPrefix ++ managerPrefixPath ++ itoa id ++ getNextTaskSuffixPath ++ httpRequestSuffix

/-- `json_body` of `api_update_status`, from the arguments and the distance as it is
printed by `%g`. -/
def jsonBody (id taskId qrId : Int) (qrDistanceStr : List Char) : List Char :=
  let body := "\x7b".toList
  let body := body ++ "\"RobotID\": ".toList
  let body := body ++ itoa id
  let body := body ++ ",\r\n".toList
  -- the branch for a task appends nothing
  let body := if taskId ≥ 0 then body else body
  if qrId ≥ 0 then
    let body := body ++ "\"QR_ID_InFront\": ".toList
    let body := body ++ itoa qrId
    let body := body ++ ",\r\n".toList
    let body := body ++ "\"QR_Distance_InFront\": \"".toList
    let body := body ++ qrDistanceStr
    body ++ "\"\x7d".toList
  else
    body

/-- The request built by `api_update_status`. -/
def apiUpdateStatus (id taskId qrId : Int) (qrDistanceStr : List Char) : List Char :=
  let body := jsonBody id taskId qrId qrDistanceStr
  let jsonSizeBytes := body.length
  putPrefix ++ managerPrefixPath ++ itoa id ++ updateStatusSuffixPath ++ httpRequestSuffix ++
    jsonContentSuffix ++ itoa jsonSizeBytes ++ "\r\n".toList ++ body

/-- A call of one of the two functions. -/
inductive ApiCall where
  | getNexttask (id : Int)
  | updateStatus (id taskId qrId : Int) (qrDistanceStr : List Char)

/-- The request that a call builds. -/
def ApiCall.request : ApiCall → List Char
  | .getNexttask id => apiGetNexttask id
  | .updateStatus id taskId qrId qrDistanceStr =>
      apiUpdateStatus id taskId qrId qrDistanceStr

end ECam.Client
