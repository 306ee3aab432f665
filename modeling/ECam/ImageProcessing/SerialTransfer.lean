import Mathlib.Tactic

/-!
# Sending a frame over the serial line

The camera program sends a start sequence and then, in a loop with an 8-bit counter,
the frame.  Each iteration prints the buffer as a C string, from the current pointer up
to the next zero byte, and advances the pointer by one.  The receiver waits for the
start sequence and stores the bytes after it row by row.

The receiver does its part for every frame.  The sender writes the bytes of the frame,
and nothing else, only for the empty frame and for a single pixel that happens to be
followed by a zero in memory.
-/

namespace ECam.ImageProcessing

/-! ## The sender -/

/-- The bytes that `printf("%s", ..)` writes: up to the next zero byte.  If memory ends
before it there is no answer. -/
def printString : List UInt8 → Option (List UInt8)
  | [] => none
  | byte :: rest =>
      if byte = 0 then
        some []
      else
        (printString rest).map (byte :: ·)

/-- The loop over the frame, at most `fuel` iterations: the counter `i` is a byte, and
`buf` is the memory from the current pointer on.  The result is what the loop writes
until it is left. -/
def sendLoop (len : Nat) : Nat → UInt8 → List UInt8 → Option (List UInt8)
  | 0, _, _ => none
  | fuel + 1, i, buf =>
      if i.toNat < len then
        (printString buf).bind fun text =>
          (sendLoop len fuel (i + 1) buf.tail).map (text ++ ·)
      else
        some []

/-- The loop ends, and this is what it has written. -/
def Sends (len : Nat) (memory output : List UInt8) : Prop :=
  ∃ fuel, sendLoop len fuel 0 memory = some output

theorem printString_append {text : List UInt8} (rest : List UInt8)
    (nonzero : ∀ byte ∈ text, byte ≠ 0) :
    printString (text ++ rest) = (printString rest).map (text ++ ·) := by
  induction text with
  | nil => simp
  | cons byte text ih =>
      have first := nonzero byte List.mem_cons_self
      rw [List.cons_append, printString, if_neg first,
        ih fun other member => nonzero other (List.mem_cons_of_mem _ member), Option.map_map]
      rfl

/-- Zero bytes are never written. -/
theorem ne_zero_of_printString {buf text : List UInt8} (printed : printString buf = some text) :
    ∀ byte ∈ text, byte ≠ 0 := by
  induction buf generalizing text with
  | nil => cases printed
  | cons first buf ih =>
      rw [printString] at printed
      split at printed
      next =>
        cases printed
        simp
      next nonzero =>
        rcases Option.map_eq_some_iff.mp printed with ⟨rest, restPrinted, rfl⟩
        intro byte member
        rcases List.mem_cons.mp member with rfl | later
        · exact nonzero
        · exact ih restPrinted byte later

theorem ne_zero_of_sendLoop {len fuel : Nat} {i : UInt8} {buf output : List UInt8}
    (sent : sendLoop len fuel i buf = some output) : ∀ byte ∈ output, byte ≠ 0 := by
  induction fuel generalizing i buf output with
  | zero => cases sent
  | succ fuel ih =>
      rw [sendLoop] at sent
      split at sent
      next =>
        rcases Option.bind_eq_some_iff.mp sent with ⟨text, printed, rest⟩
        rcases Option.map_eq_some_iff.mp rest with ⟨later, laterSent, rfl⟩
        intro byte member
        rcases List.mem_append.mp member with inText | inLater
        · exact ne_zero_of_printString printed byte inText
        · exact ih laterSent byte inLater
      next =>
        cases sent
        simp

/-- A frame of 256 bytes or more is never finished: the counter stays below it. -/
theorem sendLoop_long {len : Nat} (long : 256 ≤ len) (fuel : Nat) (i : UInt8)
    (buf : List UInt8) : sendLoop len fuel i buf = none := by
  induction fuel generalizing i buf with
  | zero => rfl
  | succ fuel ih =>
      have below : i.toNat < len := Nat.lt_of_lt_of_le i.toNat_lt long
      rw [sendLoop, if_pos below]
      cases printString buf with
      | none => rfl
      | some text => rw [Option.bind_some, ih, Option.map_none]

/-! ## The receiver -/

/-- Where the receiver is in the start sequence. -/
inductive SyncState where
  | zero
  | full
  | secondZero
  | secondFull

/-- The loop that waits for the start sequence: the bytes after it.  A byte that does
not fit is dropped and the sequence is expected from its beginning. -/
def synchronize : SyncState → List UInt8 → Option (List UInt8)
  | _, [] => none
  | .zero, byte :: rest => synchronize (if byte = 0 then .full else .zero) rest
  | .full, byte :: rest => synchronize (if byte = 255 then .secondZero else .zero) rest
  | .secondZero, byte :: rest => synchronize (if byte = 0 then .secondFull else .zero) rest
  | .secondFull, byte :: rest => if byte = 255 then some rest else synchronize .zero rest

/-- Storing the image: `height` rows of `width` bytes. -/
def storeRows (width : Nat) : Nat → List UInt8 → Option (List (List UInt8))
  | 0, _ => some []
  | height + 1, stream =>
      if width ≤ stream.length then
        (storeRows width height (stream.drop width)).map (stream.take width :: ·)
      else
        none

/-- `eCam_GetSerialImage`: wait for the start sequence, then store the image. -/
def getSerialImage (width height : Nat) (stream : List UInt8) : Option (List (List UInt8)) :=
  (synchronize .zero stream).bind (storeRows width height)

/-- What the camera program sends before the frame. -/
def startSequence : List UInt8 := [0, 255, 0, 255]

theorem storeRows_flatten {width height : Nat} {frame : List UInt8}
    (size : frame.length = height * width) :
    ∃ rows, storeRows width height frame = some rows ∧ rows.flatten = frame := by
  induction height generalizing frame with
  | zero =>
      have empty : frame = [] := by
        apply List.length_eq_zero_iff.mp
        rw [size, Nat.zero_mul]
      exact ⟨[], rfl, empty.symm⟩
  | succ height ih =>
      rw [Nat.succ_mul] at size
      have enough : width ≤ frame.length := by omega
      have rest : (frame.drop width).length = height * width := by
        rw [List.length_drop]
        omega
      rcases ih rest with ⟨rows, stored, joined⟩
      refine ⟨frame.take width :: rows, ?_, ?_⟩
      · rw [storeRows, if_pos enough, stored, Option.map_some]
      · rw [List.flatten_cons, joined, List.take_append_drop]

/-- The receiver reconstructs a frame that follows the start sequence. -/
theorem getSerialImage_frame {width height : Nat} {frame : List UInt8}
    (size : frame.length = height * width) :
    ∃ rows, getSerialImage width height (startSequence ++ frame) = some rows ∧
      rows.flatten = frame :=
  storeRows_flatten size

/-! ## The transfer -/

/-- The bytes of the frame are sent as they are, and at full resolution the receiver
reconstructs the frame.  `after` is the memory behind the frame. -/
def TransfersImage (frame after : List UInt8) : Prop :=
  Sends frame.length (frame ++ after) frame ∧
    (frame.length = 1200 * 1600 →
      ∃ output rows, Sends frame.length (frame ++ after) output ∧
        getSerialImage 1600 1200 (startSequence ++ output) = some rows ∧
        rows.flatten = frame)

/-- An empty string is printed where the next byte is zero. -/
theorem printString_eq_nil {buf : List UInt8} (printed : printString buf = some []) :
    ∃ rest, buf = 0 :: rest := by
  cases buf with
  | nil => cases printed
  | cons byte buf =>
      rw [printString] at printed
      split at printed
      next zero => exact ⟨buf, by rw [zero]⟩
      next =>
        rcases Option.map_eq_some_iff.mp printed with ⟨rest, _, absurdity⟩
        cases absurdity

/-- The first iteration of a loop that is not left at once. -/
theorem sendLoop_first {len fuel : Nat} {i : UInt8} {buf output : List UInt8}
    (continued : i.toNat < len) (sent : sendLoop len fuel i buf = some output) :
    ∃ text later fuel, printString buf = some text ∧
      sendLoop len fuel (i + 1) buf.tail = some later ∧ text ++ later = output := by
  cases fuel with
  | zero => cases sent
  | succ fuel =>
      rw [sendLoop, if_pos continued] at sent
      rcases Option.bind_eq_some_iff.mp sent with ⟨text, printed, rest⟩
      rcases Option.map_eq_some_iff.mp rest with ⟨later, laterSent, joined⟩
      exact ⟨text, later, fuel, printed, laterSent, joined⟩

/-- A frame that is sent as it is has at most one byte, followed by a zero. -/
theorem Sends.short {frame after : List UInt8}
    (sends : Sends frame.length (frame ++ after) frame) :
    frame = [] ∨ ∃ byte rest, byte ≠ 0 ∧ frame = [byte] ∧ after = 0 :: rest := by
  rcases sends with ⟨fuel, sent⟩
  have nonzero := ne_zero_of_sendLoop sent
  cases frame with
  | nil => exact Or.inl rfl
  | cons byte tail =>
      right
      have first : (0 : UInt8).toNat < (byte :: tail).length := Nat.succ_pos _
      rcases sendLoop_first first sent with ⟨text, later, rest, printed, laterSent, joined⟩
      -- the first string runs over the whole frame, so nothing may follow it
      rw [printString_append _ nonzero] at printed
      rcases Option.map_eq_some_iff.mp printed with ⟨trailing, trailingPrinted, rfl⟩
      rw [List.append_assoc, List.append_right_eq_self, List.append_eq_nil_iff] at joined
      rw [joined.1] at trailingPrinted
      rw [joined.2] at laterSent
      rcases printString_eq_nil trailingPrinted with ⟨beyond, zero⟩
      -- a second iteration would print the rest of the frame again
      have single : tail = [] := by
        by_contra more
        have second : (0 + 1 : UInt8).toNat < (byte :: tail).length := by
          have positive := List.length_pos_iff.mpr more
          change 1 < tail.length + 1
          omega
        rcases sendLoop_first second laterSent with
          ⟨again, _, _, againPrinted, _, againJoined⟩
        have tailNonzero : ∀ other ∈ tail, other ≠ 0 :=
          fun other member => nonzero other (List.mem_cons_of_mem _ member)
        rw [List.cons_append, List.tail_cons, printString_append _ tailNonzero,
          trailingPrinted, Option.map_some, Option.some.injEq, List.append_nil] at againPrinted
        rw [← againPrinted] at againJoined
        exact more (List.append_eq_nil_iff.mp againJoined).1
      refine ⟨byte, beyond, nonzero byte List.mem_cons_self, ?_, zero⟩
      rw [single]

/-- The transfer succeeds exactly for the empty frame and for one nonzero pixel that is
followed by a zero byte in memory. -/
theorem image_transfer_iff (frame after : List UInt8) :
    TransfersImage frame after ↔
      frame = [] ∨ ∃ byte rest, byte ≠ 0 ∧ frame = [byte] ∧ after = 0 :: rest := by
  constructor
  · intro transfers
    exact transfers.1.short
  · intro short
    have sends : Sends frame.length (frame ++ after) frame := by
      rcases short with rfl | ⟨byte, rest, nonzero, rfl, rfl⟩
      · exact ⟨1, rfl⟩
      · have printed : printString ([byte] ++ 0 :: rest) = some [byte] := by
          simp [printString, nonzero]
        refine ⟨2, ?_⟩
        have continued : (0 : UInt8).toNat < [byte].length := Nat.one_pos
        have left : ¬(0 + 1 : UInt8).toNat < [byte].length := by
          change ¬1 < 1
          omega
        rw [sendLoop, if_pos continued, printed, Option.bind_some, sendLoop, if_neg left]
        rfl
    refine ⟨sends, ?_⟩
    intro size
    rcases getSerialImage_frame size with ⟨rows, received, joined⟩
    exact ⟨frame, rows, sends, received, joined⟩

/-- A grey frame at full resolution is never finished. -/
theorem image_transfer_fails :
    ¬TransfersImage (List.replicate (1200 * 1600) 128) [0] := by
  rintro ⟨⟨fuel, sent⟩, _⟩
  have long : 256 ≤ (List.replicate (1200 * 1600) (128 : UInt8)).length := by
    rw [List.length_replicate]
    decide
  rw [sendLoop_long long] at sent
  cases sent

end ECam.ImageProcessing
