import ECam.Camera.Memcpy

/-!
# The markers of compressed frames

A compressed frame has no fixed length.  Its first half buffer has to start with a marker,
and `cam_take` looks for the last end marker to find out how long the frame is.
-/

namespace ECam.Camera

/-- `*((uint16_t *)(&buf[index]))`, little-endian. -/
def readUInt16 (buf : Memory) (index : Nat) : Nat :=
  (buf index).toNat + 256 * (buf (index + 1)).toNat

/-- `*((uint32_t *)(&buf[index]))`. -/
def readUInt32 (buf : Memory) (index : Nat) : Nat :=
  readUInt16 buf index + 65536 * readUInt16 buf (index + 2)

def jpegSoiMarker : Nat := 0xFFD8FF

def jpegEoiMarker : Nat := 0xD9FF

/-- The loop of `cam_verify_jpeg_soi`, with the number of positions that are left. -/
def searchSoi (inbuf : Memory) (i : Nat) : Nat → Option Nat
  | 0 => none
  | left + 1 =>
      if readUInt32 inbuf i % 2 ^ 24 = jpegSoiMarker then some i else searchSoi inbuf (i + 1) left

/-- `cam_verify_jpeg_soi`; the answer −1 is `none`. -/
def camVerifyJpegSoi (inbuf : Memory) (length : Nat) : Option Nat :=
  if readUInt32 inbuf 0 % 2 ^ 24 ≠ jpegSoiMarker then searchSoi inbuf 0 length else some 0

/-- The loop of `cam_verify_jpeg_eoi`: the pointer goes down to the start of the buffer,
which is not looked at. -/
def searchEoi (inbuf : Memory) : Nat → Option Nat
  | 0 => none
  | offset + 1 =>
      if jpegEoiMarker = readUInt16 inbuf (offset + 1) then
        some (offset + 1)
      else
        searchEoi inbuf offset

/-- `cam_verify_jpeg_eoi`. -/
def camVerifyJpegEoi (inbuf : Memory) (length : Nat) : Option Nat :=
  searchEoi inbuf (length - 2)

variable {inbuf : Memory} {offset : Nat}

theorem readUInt16_eoi :
    jpegEoiMarker = readUInt16 inbuf offset ↔
      inbuf offset = 0xFF ∧ inbuf (offset + 1) = 0xD9 := by
  have first := (inbuf offset).toNat_lt
  have second := (inbuf (offset + 1)).toNat_lt
  rw [jpegEoiMarker, readUInt16, ← UInt8.toNat_inj, ← UInt8.toNat_inj]
  simp only [UInt8.reduceToNat]
  omega

theorem readUInt32_soi :
    readUInt32 inbuf offset % 2 ^ 24 = jpegSoiMarker ↔
      inbuf offset = 0xFF ∧ inbuf (offset + 1) = 0xD8 ∧ inbuf (offset + 2) = 0xFF := by
  have first := (inbuf offset).toNat_lt
  have second := (inbuf (offset + 1)).toNat_lt
  have third := (inbuf (offset + 2)).toNat_lt
  rw [jpegSoiMarker, readUInt32, readUInt16, readUInt16, ← UInt8.toNat_inj, ← UInt8.toNat_inj,
    ← UInt8.toNat_inj]
  simp only [UInt8.reduceToNat]
  omega

/-- The start of the buffer decides, however much of it is searched. -/
theorem camVerifyJpegSoi_eq_zero_iff {length : Nat} :
    camVerifyJpegSoi inbuf length = some 0 ↔
      inbuf 0 = 0xFF ∧ inbuf 1 = 0xD8 ∧ inbuf 2 = 0xFF := by
  rw [← readUInt32_soi, camVerifyJpegSoi]
  split
  next missing =>
    constructor
    · intro found
      cases length with
      | zero => cases found
      | succ length =>
          have later : ∀ left i, searchSoi inbuf (i + 1) left ≠ some 0 := by
            intro left
            induction left with
            | zero =>
                intro i found
                cases found
            | succ left ih =>
                intro i
                rw [searchSoi]
                split
                · simp
                · exact ih (i + 1)
          rw [searchSoi, if_neg missing] at found
          exact absurd found (later length 0)
    · intro found
      exact absurd found missing
  next found =>
    exact ⟨fun _ => not_not.mp found, fun _ => rfl⟩

theorem searchEoi_eq_some_iff {start : Nat} :
    searchEoi inbuf start = some offset ↔
      (0 < offset ∧ offset ≤ start ∧ inbuf offset = 0xFF ∧ inbuf (offset + 1) = 0xD9) ∧
        ∀ later, offset < later → later ≤ start →
          ¬(inbuf later = 0xFF ∧ inbuf (later + 1) = 0xD9) := by
  induction start with
  | zero =>
      rw [searchEoi]
      constructor
      · intro found
        cases found
      · rintro ⟨⟨positive, inside, -⟩, -⟩
        omega
  | succ start ih =>
      rw [searchEoi]
      split
      next found =>
        rw [readUInt16_eoi] at found
        constructor
        · intro same
          cases same
          exact ⟨⟨Nat.succ_pos start, le_rfl, found⟩, fun later beyond inside => by omega⟩
        · rintro ⟨⟨positive, inside, marker⟩, last⟩
          by_contra different
          have less : offset < start + 1 := by
            rcases Nat.lt_or_ge offset (start + 1) with less | equal
            · exact less
            · exact absurd (congrArg some (Nat.le_antisymm equal inside)) different
          exact last (start + 1) less le_rfl found
      next missing =>
        rw [readUInt16_eoi] at missing
        rw [ih]
        constructor
        · rintro ⟨⟨positive, inside, marker⟩, last⟩
          refine ⟨⟨positive, by omega, marker⟩, ?_⟩
          intro later beyond within
          by_cases top : later = start + 1
          · rw [top]
            exact missing
          · exact last later beyond (by omega)
        · rintro ⟨⟨positive, inside, marker⟩, last⟩
          have below : offset ≤ start := by
            by_contra above
            have top : offset = start + 1 := by omega
            rw [top] at marker
            exact missing marker
          exact ⟨⟨positive, below, marker⟩, fun later beyond within =>
            last later beyond (by omega)⟩

/-- The last end marker that starts behind the first byte and ends inside. -/
theorem camVerifyJpegEoi_eq_some_iff {length : Nat} :
    camVerifyJpegEoi inbuf length = some offset ↔
      (0 < offset ∧ offset + 2 ≤ length ∧ inbuf offset = 0xFF ∧ inbuf (offset + 1) = 0xD9) ∧
        ∀ later, offset < later → later + 2 ≤ length →
          ¬(inbuf later = 0xFF ∧ inbuf (later + 1) = 0xD9) := by
  rw [camVerifyJpegEoi, searchEoi_eq_some_iff]
  constructor
  · rintro ⟨⟨positive, inside, marker⟩, last⟩
    exact ⟨⟨positive, by omega, marker⟩, fun later beyond within => last later beyond (by omega)⟩
  · rintro ⟨⟨positive, inside, marker⟩, last⟩
    exact ⟨⟨positive, by omega, marker⟩, fun later beyond within => last later beyond (by omega)⟩

end ECam.Camera
