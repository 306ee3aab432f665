import ECam.Library.Loop
import ECam.ImageProcessing.SerialTransfer

/-!
# The end of the transmission

The loop that sends the frame counts with 8 bits up to a length of 32 bits.  It ends after
as many iterations as the frame has bytes if the counter can reach the length; for every
longer frame the counter starts again at zero and the loop is never left.
-/

namespace ECam.ImageProcessing

open ECam.Library

/-- The counter, the memory from `frame->buf` on and what has been written; there is no
answer if a string had no end in memory. -/
structure TransmissionState where
  i : UInt8
  buf : List UInt8
  output : Option (List UInt8)

/-- One iteration of the loop for a frame of `len` bytes. -/
def transmissionBody (len : UInt32) (state : TransmissionState) : Option TransmissionState :=
  if state.i.toUInt32 < len then
    some {
      i := state.i + 1
      buf := state.buf.tail
      output := state.output.bind fun written => (printString state.buf).map (written ++ ·) }
  else
    none

/-- The state in which the loop starts. -/
def transmissionStart (memory : List UInt8) : TransmissionState :=
  ⟨0, memory, some []⟩

variable {len : UInt32}

theorem transmissionBody_of_lt {state : TransmissionState} (below : state.i.toNat < len.toNat) :
    transmissionBody len state = some {
      i := state.i + 1
      buf := state.buf.tail
      output := state.output.bind fun written =>
        (printString state.buf).map (written ++ ·) } := by
  apply if_pos
  rw [UInt32.lt_iff_toNat_lt, UInt8.toNat_toUInt32]
  exact below

theorem transmissionBody_eq_none_iff {state : TransmissionState} :
    transmissionBody len state = none ↔ len.toNat ≤ state.i.toNat := by
  constructor
  · intro left
    by_contra below
    rw [transmissionBody_of_lt (Nat.lt_of_not_le below)] at left
    cases left
  · intro above
    apply if_neg
    rw [UInt32.lt_iff_toNat_lt, UInt8.toNat_toUInt32]
    exact Nat.not_lt.mpr above

/-! ## The model of the transfer -/

/-- An output that is lost stays lost. -/
theorem after_lost {state last : TransmissionState} {count : Nat} (lost : state.output = none)
    (reached : Loop.after (transmissionBody len) state count = some last) :
    last.output = none := by
  induction count generalizing state with
  | zero =>
      cases reached
      exact lost
  | succ count ih =>
      rw [Loop.after_succ] at reached
      rcases Option.bind_eq_some_iff.mp reached with ⟨next, continued, later⟩
      rw [transmissionBody] at continued
      split at continued
      next =>
        cases continued
        exact ih (by rw [lost, Option.bind_none]) later
      next => cases continued

/-- What is sent when the loop is left. -/
theorem sendLoop_transmission {fuel : Nat} {i : UInt8} {buf output : List UInt8}
    (written : List UInt8) (sent : sendLoop len.toNat fuel i buf = some output) :
    ∃ count last, Loop.after (transmissionBody len) ⟨i, buf, some written⟩ count = some last ∧
      transmissionBody len last = none ∧ last.output = some (written ++ output) := by
  induction fuel generalizing i buf output written with
  | zero => cases sent
  | succ fuel ih =>
      rw [sendLoop] at sent
      split at sent
      next below =>
        rcases Option.bind_eq_some_iff.mp sent with ⟨text, printed, rest⟩
        rcases Option.map_eq_some_iff.mp rest with ⟨later, laterSent, rfl⟩
        rcases ih (written ++ text) laterSent with ⟨count, last, reached, left, total⟩
        refine ⟨count + 1, last, ?_, left, ?_⟩
        · rw [Loop.after_succ, transmissionBody_of_lt below, Option.bind_some]
          simp only [printed, Option.bind_some, Option.map_some]
          exact reached
        · rw [total, List.append_assoc]
      next above =>
        cases sent
        refine ⟨0, _, rfl, transmissionBody_eq_none_iff.mpr (Nat.not_lt.mp above), ?_⟩
        rw [List.append_nil]

/-- The loop as iterations sends what the model of the transfer sends. -/
theorem transmission_sendLoop {count : Nat} {i : UInt8} {buf written total : List UInt8}
    {last : TransmissionState}
    (reached : Loop.after (transmissionBody len) ⟨i, buf, some written⟩ count = some last)
    (left : transmissionBody len last = none) (output : last.output = some total) :
    ∃ rest, total = written ++ rest ∧ sendLoop len.toNat (count + 1) i buf = some rest := by
  induction count generalizing i buf written with
  | zero =>
      cases reached
      cases output
      refine ⟨[], (List.append_nil _).symm, ?_⟩
      have above := transmissionBody_eq_none_iff.mp left
      rw [sendLoop, if_neg (Nat.not_lt.mpr above)]
  | succ count ih =>
      rw [Loop.after_succ] at reached
      rcases Option.bind_eq_some_iff.mp reached with ⟨next, continued, later⟩
      rw [transmissionBody] at continued
      split at continued
      next below =>
        rw [UInt32.lt_iff_toNat_lt, UInt8.toNat_toUInt32] at below
        cases continued
        cases printed : printString buf with
        | none =>
            simp only [printed, Option.bind_some, Option.map_none] at later
            rw [after_lost rfl later] at output
            cases output
        | some text =>
            simp only [printed, Option.bind_some, Option.map_some] at later
            rcases ih later with ⟨rest, joined, sent⟩
            refine ⟨text ++ rest, by rw [joined, List.append_assoc], ?_⟩
            rw [sendLoop, if_pos below, printed, Option.bind_some, sent]
            rfl
      next => cases continued

/-- The loop as iterations sends what the model of the transfer sends. -/
theorem sends_iff (memory output : List UInt8) :
    Sends len.toNat memory output ↔ ∃ count last,
      Loop.after (transmissionBody len) (transmissionStart memory) count = some last ∧
      transmissionBody len last = none ∧ last.output = some output := by
  constructor
  · rintro ⟨fuel, sent⟩
    exact sendLoop_transmission [] sent
  · rintro ⟨count, last, reached, left, total⟩
    rcases transmission_sendLoop reached left total with ⟨rest, joined, sent⟩
    rw [joined]
    exact ⟨count + 1, sent⟩

/-! ## Termination -/

/-- The loop ends after as many iterations as the frame has bytes, and in each of them the
counter is the number of the iteration, taken modulo 256. -/
def TransmissionEnds (len : UInt32) (memory : List UInt8) : Prop :=
  Loop.LeavesAfter (transmissionBody len) (transmissionStart memory) len.toNat ∧
    ∀ count < len.toNat, ∃ state,
      Loop.after (transmissionBody len) (transmissionStart memory) count = some state ∧
      state.i.toNat = count % 256

/-- The counter as long as the loop goes on. -/
theorem after_counter {bound : Nat} (memory : List UInt8)
    (below : ∀ count < bound, count % 256 < len.toNat) :
    ∀ count ≤ bound, ∃ state,
      Loop.after (transmissionBody len) (transmissionStart memory) count = some state ∧
      state.i.toNat = count % 256 := by
  apply Loop.after_invariant
  · rfl
  · intro count inside state counter
    have continues : state.i.toNat < len.toNat := by
      rw [counter]
      exact below count inside
    refine ⟨_, transmissionBody_of_lt continues, ?_⟩
    simp only [UInt8.toNat_add, UInt8.toNat_one, counter]
    omega

/-- A counter below 256 never reaches a longer length. -/
theorem transmission_never_ends (long : 255 < len.toNat) (memory : List UInt8) (count : Nat) :
    ¬Loop.LeavesAfter (transmissionBody len) (transmissionStart memory) count := by
  have below : ∀ earlier < count, earlier % 256 < len.toNat := by
    intro earlier _
    omega
  rintro ⟨last, reached, left⟩
  rcases after_counter memory below count le_rfl with ⟨state, sameReached, counter⟩
  rw [reached, Option.some.injEq] at sameReached
  rw [transmissionBody_eq_none_iff, sameReached, counter] at left
  omega

/-- The loop ends after `len` iterations exactly if `len` is at most 255; otherwise it does
not end at all. -/
theorem transmission_ends_iff (len : UInt32) (memory : List UInt8) :
    (TransmissionEnds len memory ↔ len.toNat ≤ 255) ∧
      (255 < len.toNat → ∀ count,
        ¬Loop.LeavesAfter (transmissionBody len) (transmissionStart memory) count) := by
  refine ⟨?_, fun long => transmission_never_ends long memory⟩
  constructor
  · rintro ⟨leaves, _⟩
    by_contra long
    exact transmission_never_ends (Nat.lt_of_not_le long) memory len.toNat leaves
  · intro short
    have below : ∀ count < len.toNat, count % 256 < len.toNat := by
      intro count inside
      omega
    have counted := after_counter memory below
    refine ⟨?_, fun count inside => counted count inside.le⟩
    rcases counted len.toNat le_rfl with ⟨last, reached, counter⟩
    refine ⟨last, reached, transmissionBody_eq_none_iff.mpr ?_⟩
    omega

/-- A grey frame at full resolution has 1,920,000 bytes and is never finished. -/
theorem transmission_not_ended :
    ¬TransmissionEnds 1920000 (List.replicate 1920000 128 ++ [0]) := by
  rintro ⟨leaves, _⟩
  exact transmission_never_ends (by decide) _ _ leaves

end ECam.ImageProcessing
