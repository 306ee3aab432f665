import ECam.ImageProcessing.SerialTransfer

/-!
# Finding the start sequence

The receiver reads byte by byte and compares with `0, 255, 0, 255`.  At the first byte
that does not fit it starts again with the byte after it, so a byte that ends an attempt
never begins the next one.  The first start sequence of a stream is found exactly if the
bytes before it can be cut into attempts that failed.
-/

namespace ECam.ImageProcessing

/-- The start sequence occurs after `leftover`, and not before. -/
structure FirstStart (stream leftover rest : List UInt8) : Prop where
  split : stream = leftover ++ (startSequence ++ rest)
  first : ∀ earlier later, stream = earlier ++ (startSequence ++ later) →
    leftover.length ≤ earlier.length

/-- The loop has read the stream up to the end of the start sequence, and the image is
stored from the byte after it on. -/
def ReadsImageFrom (stream rest : List UInt8) : Prop :=
  synchronize .zero stream = some rest ∧
    ∀ width height, getSerialImage width height stream = storeRows width height rest

/-- Bytes that are used up by attempts, each ended by the first byte that does not fit. -/
inductive FailedAttempts : List UInt8 → Prop where
  | nil : FailedAttempts []
  | zero {byte : UInt8} {rest : List UInt8} : byte ≠ 0 → FailedAttempts rest →
      FailedAttempts (byte :: rest)
  | full {byte : UInt8} {rest : List UInt8} : byte ≠ 255 → FailedAttempts rest →
      FailedAttempts (0 :: byte :: rest)
  | secondZero {byte : UInt8} {rest : List UInt8} : byte ≠ 0 → FailedAttempts rest →
      FailedAttempts (0 :: 255 :: byte :: rest)
  | secondFull {byte : UInt8} {rest : List UInt8} : byte ≠ 255 → FailedAttempts rest →
      FailedAttempts (0 :: 255 :: 0 :: byte :: rest)

/-! ## The first occurrence -/

theorem FirstStart.tail {byte : UInt8} {stream leftover rest : List UInt8}
    (first : FirstStart (byte :: stream) (byte :: leftover) rest) :
    FirstStart stream leftover rest := by
  refine ⟨(List.cons.inj first.split).2, ?_⟩
  intro earlier later split
  have longer := first.first (byte :: earlier) later (by rw [split, List.cons_append])
  simpa using longer

theorem exists_firstStart {stream : List UInt8} (contains : startSequence <:+: stream) :
    ∃ leftover rest, FirstStart stream leftover rest := by
  induction stream with
  | nil => cases List.infix_nil.mp contains
  | cons byte stream ih =>
      by_cases starts : startSequence <+: byte :: stream
      · rcases starts with ⟨rest, split⟩
        exact ⟨[], rest, split.symm, fun _ _ _ => Nat.zero_le _⟩
      · have later := (List.infix_cons_iff.mp contains).resolve_left starts
        rcases ih later with ⟨leftover, rest, split, first⟩
        refine ⟨byte :: leftover, rest, by rw [split, List.cons_append], ?_⟩
        intro earlier after joined
        cases earlier with
        | nil => exact absurd ⟨after, joined.symm⟩ starts
        | cons other earlier =>
            have shorter := first earlier after (List.cons.inj joined).2
            simpa using shorter

/-! ## The loop -/

theorem length_lt_of_synchronize {state : SyncState} {stream rest : List UInt8}
    (found : synchronize state stream = some rest) : rest.length < stream.length := by
  induction stream generalizing state with
  | nil => cases state <;> cases found
  | cons byte stream ih =>
      have shorter : rest.length < stream.length ∨ rest = stream := by
        cases state with
        | secondFull =>
            rw [synchronize] at found
            split at found
            next => exact Or.inr (Option.some.inj found).symm
            next => exact Or.inl (ih found)
        | _ =>
            rw [synchronize] at found
            exact Or.inl (ih found)
      rcases shorter with shorter | rfl
      · exact Nat.lt_succ_of_lt shorter
      · exact Nat.lt_succ_self _

/-- Failed attempts leave the loop where it started. -/
theorem synchronize_failedAttempts {leftover : List UInt8} (failed : FailedAttempts leftover)
    (stream : List UInt8) :
    synchronize .zero (leftover ++ stream) = synchronize .zero stream := by
  induction failed with
  | nil => rfl
  | zero other _ ih => rw [List.cons_append, synchronize, if_neg other, ih]
  | full other _ ih =>
      rw [List.cons_append, synchronize, if_pos rfl, List.cons_append, synchronize,
        if_neg other, ih]
  | secondZero other _ ih =>
      rw [List.cons_append, synchronize, if_pos rfl, List.cons_append, synchronize,
        if_pos rfl, List.cons_append, synchronize, if_neg other, ih]
  | secondFull other _ ih =>
      rw [List.cons_append, synchronize, if_pos rfl, List.cons_append, synchronize,
        if_pos rfl, List.cons_append, synchronize, if_pos rfl, List.cons_append, synchronize,
        if_neg other, ih]

/-! ## Bytes as attempts -/

/-- An attempt that has not failed: the beginning of the start sequence, or all of it and
more. -/
def OpenAttempt (bytes : List UInt8) : Prop :=
  bytes <+: startSequence ∨ startSequence <+: bytes

theorem FailedAttempts.append {left right : List UInt8} (first : FailedAttempts left)
    (second : FailedAttempts right) : FailedAttempts (left ++ right) := by
  induction first with
  | nil => exact second
  | zero other _ ih => exact .zero other ih
  | full other _ ih => exact .full other ih
  | secondZero other _ ih => exact .secondZero other ih
  | secondFull other _ ih => exact .secondFull other ih

/-- The first attempt on some bytes fails or is open. -/
theorem first_attempt (bytes : List UInt8) :
    OpenAttempt bytes ∨
      ∃ attempt rest, FailedAttempts attempt ∧ attempt ≠ [] ∧ bytes = attempt ++ rest := by
  have failing : ∀ attempt : List UInt8, FailedAttempts attempt → attempt ≠ [] →
      ∀ rest, OpenAttempt (attempt ++ rest) ∨
        ∃ other after, FailedAttempts other ∧ other ≠ [] ∧ attempt ++ rest = other ++ after :=
    fun attempt failed nonempty rest => Or.inr ⟨attempt, rest, failed, nonempty, rfl⟩
  rcases bytes with _ | ⟨one, bytes⟩
  · exact Or.inl (Or.inl List.nil_prefix)
  by_cases zero : one = 0
  swap
  · exact failing [one] (.zero zero .nil) (by simp) bytes
  rcases bytes with _ | ⟨two, bytes⟩
  · exact Or.inl (Or.inl (by rw [zero]; decide))
  by_cases full : two = 255
  swap
  · rw [zero]
    exact failing [0, two] (.full full .nil) (by simp) bytes
  rcases bytes with _ | ⟨three, bytes⟩
  · exact Or.inl (Or.inl (by rw [zero, full]; decide))
  by_cases secondZero : three = 0
  swap
  · rw [zero, full]
    exact failing [0, 255, three] (.secondZero secondZero .nil) (by simp) bytes
  rcases bytes with _ | ⟨four, bytes⟩
  · exact Or.inl (Or.inl (by rw [zero, full, secondZero]; decide))
  by_cases secondFull : four = 255
  swap
  · rw [zero, full, secondZero]
    exact failing [0, 255, 0, four] (.secondFull secondFull .nil) (by simp) bytes
  · rw [zero, full, secondZero, secondFull]
    exact Or.inl (Or.inr ⟨bytes, rfl⟩)

/-- Bytes are failed attempts and then an open one. -/
theorem exists_openAttempt (bytes : List UInt8) :
    ∃ failed attempt, FailedAttempts failed ∧ OpenAttempt attempt ∧
      bytes = failed ++ attempt := by
  induction total : bytes.length using Nat.strong_induction_on generalizing bytes with
  | _ size ih =>
      rcases first_attempt bytes with isOpen | ⟨first, rest, failed, nonempty, split⟩
      · exact ⟨[], bytes, .nil, isOpen, rfl⟩
      · have shorter : rest.length < size := by
          have positive := List.length_pos_iff.mpr nonempty
          rw [← total, split, List.length_append]
          omega
        rcases ih rest.length shorter rest rfl with ⟨later, attempt, laterFailed, isOpen, restSplit⟩
        refine ⟨first ++ later, attempt, failed.append laterFailed, isOpen, ?_⟩
        rw [split, restSplit, List.append_assoc]

/-! ## Missing the start -/

/-- If the loop finds the first start sequence, no attempt was open before it. -/
theorem failedAttempts_of_synchronize {stream leftover rest : List UInt8}
    (first : FirstStart stream leftover rest)
    (found : synchronize .zero stream = some rest) : FailedAttempts leftover := by
  rcases exists_openAttempt leftover with ⟨failed, attempt, failedAttempts, isOpen, rfl⟩
  -- after an open attempt of one or three bytes the sequence is read from its second byte
  have missed : synchronize .secondZero rest ≠ some rest := by
    intro later
    exact absurd (length_lt_of_synchronize later) (lt_irrefl _)
  rw [first.split, List.append_assoc, synchronize_failedAttempts failedAttempts] at found
  have noEarlier : ∀ later, attempt ++ (startSequence ++ rest) = startSequence ++ later →
      attempt = [] := by
    intro later joined
    have shorter := first.first failed later (by rw [first.split, List.append_assoc, joined])
    rw [List.length_append] at shorter
    exact List.length_eq_zero_iff.mp (by omega)
  have empty : attempt = [] := by
    rcases isOpen with beginning | ⟨more, rfl⟩
    · rw [← List.mem_inits] at beginning
      simp only [startSequence, List.inits, List.map_cons, List.map_nil, List.mem_cons,
        List.not_mem_nil, or_false] at beginning
      rcases beginning with rfl | rfl | rfl | rfl | rfl
      · rfl
      · exact absurd found missed
      · exact noEarlier ([0, 255] ++ rest) rfl
      · exact absurd found missed
      · exact noEarlier (startSequence ++ rest) rfl
    · exact noEarlier (more ++ (startSequence ++ rest)) (List.append_assoc _ _ _)
  rw [empty, List.append_nil]
  exact failedAttempts

/-- In every stream that contains the start sequence, the image is read from behind its
first occurrence exactly if the bytes before it are failed attempts. -/
theorem start_found_iff (stream : List UInt8) (contains : startSequence <:+: stream) :
    ∃ leftover rest, FirstStart stream leftover rest ∧
      (ReadsImageFrom stream rest ↔ FailedAttempts leftover) := by
  rcases exists_firstStart contains with ⟨leftover, rest, first⟩
  refine ⟨leftover, rest, first, ?_⟩
  constructor
  · rintro ⟨found, _⟩
    exact failedAttempts_of_synchronize first found
  · intro failed
    have found : synchronize .zero stream = some rest := by
      rw [first.split, synchronize_failedAttempts failed]
      rfl
    refine ⟨found, ?_⟩
    intro width height
    rw [getSerialImage, found, Option.bind_some]

/-- A leftover byte that is not zero does no harm. -/
theorem start_found_iff_byte :
    startSequence <:+: [7, 0, 255, 0, 255, 9] ∧
      ∃ leftover rest, FirstStart [7, 0, 255, 0, 255, 9] leftover rest ∧
        (ReadsImageFrom [7, 0, 255, 0, 255, 9] rest ↔ FailedAttempts leftover) :=
  ⟨⟨[7], [9], rfl⟩, start_found_iff [7, 0, 255, 0, 255, 9] ⟨[7], [9], rfl⟩⟩

/-- A leftover zero hides the start sequence: its first zero ends the attempt that the
leftover one began. -/
theorem start_missed :
    FirstStart [0, 0, 255, 0, 255, 9] [0] [9] ∧
      synchronize .zero [0, 0, 255, 0, 255, 9] = none ∧
      ¬ReadsImageFrom [0, 0, 255, 0, 255, 9] [9] := by
  have missed : synchronize .zero [0, 0, 255, 0, 255, 9] = none := by decide
  refine ⟨⟨rfl, ?_⟩, missed, ?_⟩
  · intro earlier later split
    cases earlier with
    | nil => cases split
    | cons byte earlier => simp
  · rintro ⟨found, _⟩
    rw [missed] at found
    cases found

end ECam.ImageProcessing
