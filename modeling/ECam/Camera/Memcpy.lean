import ECam.ImageProcessing.SampleMode

/-!
# Copying received pixels

`ll_cam_memcpy` moves received bytes to a frame buffer.  If the camera sends two bytes for
each pixel of which one is stored, it keeps every other byte, in groups of eight.  The
driver uses it in two ways: from the receive buffer to a frame buffer, and in place, on a
frame buffer that the hardware has filled itself.
-/

namespace ECam.Camera

open ECam.ImageProcessing

/-- The memory from a pointer on. -/
abbrev Memory := Nat → UInt8

/-- One iteration for a group of eight bytes.  `read` gives the byte at an index of the input
in the current memory. -/
def grayGroup (read : Memory → Nat → UInt8) (out group : Nat) (memory : Memory) : Memory :=
  let first := Function.update memory (out + 4 * group) (read memory (8 * group))
  let second := Function.update first (out + 4 * group + 1) (read first (8 * group + 2))
  let third := Function.update second (out + 4 * group + 2) (read second (8 * group + 4))
  Function.update third (out + 4 * group + 3) (read third (8 * group + 6))

/-- The loop over the groups. -/
def grayGroups (read : Memory → Nat → UInt8) (out : Nat) : Nat → Memory → Memory
  | 0, memory => memory
  | groups + 1, memory => grayGroup read out groups (grayGroups read out groups memory)

/-- `ll_cam_memcpy`: the memory with the output at index `out`, and the number of bytes that
is reported as stored. -/
def llCamMemcpy (cam : CamObj) (read : Memory → Nat → UInt8) (out len : Nat) (memory : Memory) :
    Memory × Nat :=
  if cam.inBytesPerPixel = 2 ∧ cam.fbBytesPerPixel = 1 then
    (grayGroups read out (len / 8) memory, len / 2)
  else
    (fun index =>
      if out ≤ index ∧ index < out + len then read memory (index - out) else memory index, len)

/-- Reading from another buffer. -/
def fromBuffer (input : Memory) : Memory → Nat → UInt8 :=
  fun _ index => input index

/-- Reading from the buffer that is written. -/
def inPlace : Memory → Nat → UInt8 :=
  fun memory index => memory index

/-! ## The conversion -/

variable {input memory : Memory} {out : Nat}

theorem grayGroup_fromBuffer (group index : Nat) :
    grayGroup (fromBuffer input) out group memory index =
      if out + 4 * group ≤ index ∧ index < out + 4 * group + 4 then
        input (2 * (index - out))
      else
        memory index := by
  simp only [grayGroup, fromBuffer, Function.update_apply]
  by_cases inside : out + 4 * group ≤ index ∧ index < out + 4 * group + 4
  · rw [if_pos inside]
    have position : index = out + 4 * group ∨ index = out + 4 * group + 1 ∨
        index = out + 4 * group + 2 ∨ index = out + 4 * group + 3 := by omega
    rcases position with rfl | rfl | rfl | rfl
    · simp only [Nat.left_eq_add, OfNat.ofNat_ne_zero, one_ne_zero, if_false, if_true]
      congr 1
      omega
    · simp
      congr 1
      omega
    · simp
      congr 1
      omega
    · simp
      congr 1
      omega
  · rw [if_neg inside, if_neg (by omega), if_neg (by omega), if_neg (by omega),
      if_neg (by omega)]

/-- Every other byte of the input is stored, and nothing else is changed. -/
theorem grayGroups_fromBuffer (groups index : Nat) :
    grayGroups (fromBuffer input) out groups memory index =
      if out ≤ index ∧ index < out + 4 * groups then
        input (2 * (index - out))
      else
        memory index := by
  induction groups with
  | zero => rw [grayGroups, if_neg (by omega)]
  | succ groups ih =>
      rw [grayGroups, grayGroup_fromBuffer, ih]
      by_cases last : out + 4 * groups ≤ index ∧ index < out + 4 * groups + 4
      · rw [if_pos last, if_pos (by omega)]
      · rw [if_neg last]
        by_cases earlier : out ≤ index ∧ index < out + 4 * groups
        · rw [if_pos earlier, if_pos (by omega)]
        · rw [if_neg earlier, if_neg (by omega)]

/-- A group of the conversion in place reads nothing that was written before. -/
theorem grayGroup_inPlace (group index : Nat) :
    grayGroup inPlace 0 group memory index =
      if 4 * group ≤ index ∧ index < 4 * group + 4 then
        memory (2 * index)
      else
        memory index := by
  have untouched : grayGroup inPlace 0 group memory =
      grayGroup (fromBuffer memory) 0 group memory := by
    simp only [grayGroup, inPlace, fromBuffer]
    rw [Function.update_of_ne (by omega : 8 * group + 2 ≠ 0 + 4 * group),
      Function.update_of_ne (by omega : 8 * group + 4 ≠ 0 + 4 * group + 1),
      Function.update_of_ne (by omega : 8 * group + 4 ≠ 0 + 4 * group),
      Function.update_of_ne (by omega : 8 * group + 6 ≠ 0 + 4 * group + 2),
      Function.update_of_ne (by omega : 8 * group + 6 ≠ 0 + 4 * group + 1),
      Function.update_of_ne (by omega : 8 * group + 6 ≠ 0 + 4 * group)]
  rw [untouched, grayGroup_fromBuffer, Nat.zero_add, Nat.sub_zero]

/-- The output never overtakes the input. -/
theorem grayGroups_inPlace (groups index : Nat) :
    grayGroups inPlace 0 groups memory index =
      if index < 4 * groups then memory (2 * index) else memory index := by
  induction groups generalizing index with
  | zero => rw [grayGroups, if_neg (by omega)]
  | succ groups ih =>
      rw [grayGroups, grayGroup_inPlace]
      by_cases last : 4 * groups ≤ index ∧ index < 4 * groups + 4
      · -- the bytes of this group are read beyond what the earlier ones wrote
        rw [if_pos last, ih, if_neg (by omega), if_pos (by omega)]
      · rw [if_neg last, ih]
        by_cases earlier : index < 4 * groups
        · rw [if_pos earlier, if_pos (by omega)]
        · rw [if_neg earlier, if_neg (by omega)]

/-! ## Both uses -/

/-- Converting in place gives the same as converting a copy. -/
theorem llCamMemcpy_inPlace (cam : CamObj) (len : Nat) (memory : Memory) :
    llCamMemcpy cam inPlace 0 len memory =
      llCamMemcpy cam (fromBuffer memory) 0 len memory := by
  by_cases gray : cam.inBytesPerPixel = 2 ∧ cam.fbBytesPerPixel = 1
  · rw [llCamMemcpy, if_pos gray, llCamMemcpy, if_pos gray, Prod.mk.injEq]
    refine ⟨?_, rfl⟩
    funext index
    rw [grayGroups_inPlace, grayGroups_fromBuffer, Nat.zero_add, Nat.sub_zero]
    simp only [Nat.zero_le, true_and]
  · rw [llCamMemcpy, if_neg gray, llCamMemcpy, if_neg gray]
    rfl

/-- The bytes that are written all lie among those that are reported. -/
theorem llCamMemcpy_outside (cam : CamObj) {len index : Nat}
    (outside : index < out ∨ out + (llCamMemcpy cam (fromBuffer input) out len memory).2 ≤ index) :
    (llCamMemcpy cam (fromBuffer input) out len memory).1 index = memory index := by
  rw [llCamMemcpy] at outside ⊢
  split at outside
  next gray =>
    rw [if_pos gray]
    simp only at outside ⊢
    rw [grayGroups_fromBuffer, if_neg (by omega)]
  next direct =>
    rw [if_neg direct]
    simp only at outside ⊢
    rw [if_neg (by omega)]

/-- How many bytes of the input make one byte of the output. -/
def inputStride (cam : CamObj) : Nat :=
  if cam.inBytesPerPixel = 2 ∧ cam.fbBytesPerPixel = 1 then 2 else 1

/-- Whole groups are stored completely, in the order of the input. -/
theorem llCamMemcpy_inside (cam : CamObj) {len index : Nat}
    (groups : inputStride cam = 2 → 8 ∣ len)
    (inside : index < (llCamMemcpy cam (fromBuffer input) out len memory).2) :
    (llCamMemcpy cam (fromBuffer input) out len memory).1 (out + index) =
      input (inputStride cam * index) := by
  rw [llCamMemcpy] at inside ⊢
  rw [inputStride] at groups ⊢
  split at inside
  next gray =>
    rw [if_pos gray] at groups ⊢
    have whole := groups rfl
    rw [if_pos gray]
    simp only at inside ⊢
    rw [grayGroups_fromBuffer, if_pos (by omega), Nat.add_sub_cancel_left]
  next direct =>
    rw [if_neg direct, if_neg direct]
    simp only at inside ⊢
    rw [if_pos (by omega), fromBuffer, Nat.add_sub_cancel_left, Nat.one_mul]

end ECam.Camera
