import ECam.Library.Text

/-!
# HTTP messages

A reader for HTTP/1.0 requests.  The head of a message is a request line and header
lines, each ended by a carriage return and a line feed; an empty line ends the head, and
what follows it is the body.
-/

namespace ECam.Library

namespace Http

/-! ## Lines -/

/-- Lines, each followed by its end. -/
def writeLines (lines : List (List Char)) : List Char :=
  lines.flatMap (· ++ ['\r', '\n'])

/-- The lines up to the empty one and the text after it.  `line` is what has been read of
the current line. -/
def readHead (line : List Char) : List Char → Option (List (List Char) × List Char)
  | [] => none
  | '\r' :: '\n' :: rest =>
      if line = [] then
        some ([], rest)
      else
        (readHead [] rest).map fun head => (line :: head.1, head.2)
  | char :: rest => readHead (line ++ [char]) rest

theorem readHead_append {text : List Char} (line rest : List Char) (plain : '\r' ∉ text) :
    readHead line (text ++ rest) = readHead (line ++ text) rest := by
  induction text generalizing line with
  | nil => simp
  | cons char text ih =>
      rw [List.mem_cons, not_or] at plain
      have next : readHead line (char :: (text ++ rest)) =
          readHead (line ++ [char]) (text ++ rest) := by
        rw [readHead]
        intro after carriageReturn
        exact absurd carriageReturn.symm plain.1
      rw [List.cons_append, next, ih _ plain.2, List.append_assoc, List.singleton_append]

/-- A head without an end is not a head. -/
theorem readHead_unfinished {text : List Char} (plain : '\r' ∉ text) :
    readHead [] text = none := by
  have read := readHead_append [] [] plain
  rw [List.append_nil] at read
  rw [read, readHead]

theorem readHead_writeLines {lines : List (List Char)} (rest : List Char)
    (plain : ∀ line ∈ lines, line ≠ [] ∧ '\r' ∉ line) :
    readHead [] (writeLines lines ++ rest) =
      (readHead [] rest).map fun head => (lines ++ head.1, head.2) := by
  induction lines with
  | nil => simp [writeLines]
  | cons line lines ih =>
      rcases plain line List.mem_cons_self with ⟨nonempty, noReturn⟩
      have later := ih fun other member => plain other (List.mem_cons_of_mem _ member)
      have first : readHead line ('\r' :: '\n' :: (writeLines lines ++ rest)) =
          (readHead [] (writeLines lines ++ rest)).map fun head =>
            (line :: head.1, head.2) := by
        rw [readHead, if_neg nonempty]
      have split : writeLines (line :: lines) ++ rest =
          line ++ '\r' :: '\n' :: (writeLines lines ++ rest) := by
        simp [writeLines]
      rw [split, readHead_append [] _ noReturn, List.nil_append, first, later, Option.map_map]
      rfl

/-! ## Messages -/

structure Request where
  method : List Char
  target : List Char
  headers : List (List Char × List Char)
  body : List Char
  deriving DecidableEq

def version : List Char := "HTTP/1.0".toList

/-- The method and the target of a request line. -/
def readRequestLine (line : List Char) : Option (List Char × List Char) :=
  match line.splitOn ' ' with
  | [method, target, lineVersion] =>
      if method ≠ [] ∧ target ≠ [] ∧ lineVersion = version then
        some (method, target)
      else
        none
  | _ => none

/-- A header: its name, a colon and its value after blanks. -/
def readHeader (line : List Char) : Option (List Char × List Char) :=
  match line.dropWhile (· != ':') with
  | [] => none
  | _ :: value =>
      let name := line.takeWhile (· != ':')
      if name ≠ [] ∧ ' ' ∉ name then
        some (name, value.dropWhile (· == ' '))
      else
        none

/-- A whole text as a request. -/
def parseRequest (text : List Char) : Option Request := do
  let (lines, body) ← readHead [] text
  match lines with
  | [] => none
  | requestLine :: headerLines =>
      let (method, target) ← readRequestLine requestLine
      let headers ← headerLines.mapM readHeader
      return { method, target, headers, body }

namespace Request

/-- A part of the request line: it is not empty and has no blanks and line ends. -/
def Word (text : List Char) : Prop :=
  text ≠ [] ∧ ' ' ∉ text ∧ '\r' ∉ text

instance (text : List Char) : Decidable (Word text) :=
  inferInstanceAs (Decidable (_ ∧ _ ∧ _))

/-- A header that can be written on its line. -/
structure ValidHeader (header : List Char × List Char) : Prop where
  name : Word header.1
  noColon : ':' ∉ header.1
  value : '\r' ∉ header.2
  noBlank : header.2.head? ≠ some ' '

/-- A request that can be written. -/
structure Valid (request : Request) : Prop where
  method : Word request.method
  target : Word request.target
  headers : ∀ header ∈ request.headers, ValidHeader header

def requestLine (request : Request) : List Char :=
  [' '].intercalate [request.method, request.target, version]

def headerLine (header : List Char × List Char) : List Char :=
  header.1 ++ ':' :: ' ' :: header.2

/-- The request line and the header lines. -/
def writeHead (request : Request) : List Char :=
  writeLines (request.requestLine :: request.headers.map headerLine)

/-- The head, the empty line and the body. -/
def write (request : Request) : List Char :=
  request.writeHead ++ '\r' :: '\n' :: request.body

variable {request : Request}

theorem Valid.readRequestLine (valid : request.Valid) :
    Http.readRequestLine request.requestLine = some (request.method, request.target) := by
  have noBlank : ' ' ∉ version := by decide
  have split : request.requestLine.splitOn ' ' =
      [request.method, request.target, version] := by
    apply List.splitOn_intercalate
    · simp [valid.method.2.1, valid.target.2.1, noBlank]
    · simp
  simp [Http.readRequestLine, split, valid.method.1, valid.target.1]

theorem ValidHeader.readHeader {header : List Char × List Char} (valid : ValidHeader header) :
    Http.readHeader (headerLine header) = some header := by
  have name : ∀ char ∈ header.1, (char != ':') = true := by
    intro char member
    rw [bne_iff_ne]
    intro colon
    exact valid.noColon (colon ▸ member)
  have value : header.2.dropWhile (· == ' ') = header.2 := by
    have first := valid.noBlank
    cases text : header.2 with
    | nil => rfl
    | cons char rest =>
        rw [text, List.head?_cons, ne_eq, Option.some.injEq] at first
        simp [first]
  have afterName : (headerLine header).dropWhile (· != ':') = ':' :: ' ' :: header.2 := by
    rw [headerLine, List.dropWhile_append_of_pos name]
    simp
  have nameOf : (headerLine header).takeWhile (· != ':') = header.1 := by
    rw [headerLine, List.takeWhile_append_of_pos name]
    simp
  simp only [Http.readHeader, afterName, nameOf]
  rw [if_pos ⟨valid.name.1, valid.name.2.1⟩]
  simp [value]

theorem mapM_readHeader {headers : List (List Char × List Char)}
    (valid : ∀ header ∈ headers, ValidHeader header) :
    (headers.map headerLine).mapM readHeader = some headers := by
  induction headers with
  | nil => rfl
  | cons header headers ih =>
      have later := ih fun other member => valid other (List.mem_cons_of_mem _ member)
      simp [(valid header List.mem_cons_self).readHeader, later]

/-- The lines of the head are not empty and have no line ends inside. -/
theorem Valid.lines (valid : request.Valid) :
    ∀ line ∈ request.requestLine :: request.headers.map headerLine,
      line ≠ [] ∧ '\r' ∉ line := by
  intro line member
  rcases List.mem_cons.mp member with rfl | later
  · have noReturn : '\r' ∉ version := by decide
    constructor
    · simp [requestLine, valid.method.1]
    · simp [requestLine, valid.method.2.2, valid.target.2.2, noReturn]
  · rcases List.mem_map.mp later with ⟨header, headerMember, rfl⟩
    have validHeader := valid.headers header headerMember
    constructor
    · simp [headerLine]
    · simp [headerLine, validHeader.name.2.2, validHeader.value]

theorem Valid.readHead (valid : request.Valid) (rest : List Char) :
    Http.readHead [] (request.writeHead ++ rest) = (Http.readHead [] rest).map fun head =>
      (request.requestLine :: request.headers.map headerLine ++ head.1, head.2) :=
  readHead_writeLines rest valid.lines

/-- A written request is read back. -/
theorem Valid.parseRequest_write (valid : request.Valid) :
    parseRequest request.write = some request := by
  have head : Http.readHead [] request.write =
      some (request.requestLine :: request.headers.map headerLine, request.body) := by
    rw [write, valid.readHead, Http.readHead, if_pos rfl]
    simp
  simp [parseRequest, head, valid.readRequestLine, mapM_readHeader valid.headers]

/-- A head that is not ended by an empty line is not a request. -/
theorem Valid.parseRequest_unfinished (valid : request.Valid) {rest : List Char}
    (unfinished : Http.readHead [] rest = none) :
    parseRequest (request.writeHead ++ rest) = none := by
  simp [parseRequest, valid.readHead, unfinished]

end Request

end Http

end ECam.Library
