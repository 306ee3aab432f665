import ECam.Camera.SensorWrites

/-!
# The window of the sensor

The part of the picture that is sent and its size after scaling are spread over nine
registers.  The sensor puts the values together from the bits of these registers; the driver
takes them apart.

After a frame size was set, the sensor sends pictures of this size from a part of the
picture that lies inside, whatever the settings before were and whatever other settings
follow.
-/

namespace ECam.Camera

open ECam.Library
open ECam.ImageProcessing (PixFormat)
open Register

/-! ## The registers of the window -/

/-- The values that the sensor uses; sizes are in units of four pixels. -/
structure Window where
  hSize : BitVec 10
  vSize : BitVec 9
  offsetX : BitVec 11
  offsetY : BitVec 11
  zoomWidth : BitVec 10
  zoomHeight : BitVec 9
  deriving DecidableEq, Repr

/-- How the sensor puts the values together. -/
def Registers.window (registers : Registers) : Window :=
  let dsp := registers bankDsp
  { hSize := (dsp test).extractLsb' 7 1 ++ (dsp vhyx).extractLsb' 3 1 ++ dsp hsize
    vSize := (dsp vhyx).extractLsb' 7 1 ++ dsp vsize
    offsetX := (dsp vhyx).extractLsb' 0 3 ++ dsp xoffl
    offsetY := (dsp vhyx).extractLsb' 4 3 ++ dsp yoffl
    zoomWidth := (dsp zmhh).extractLsb' 0 2 ++ dsp zmow
    zoomHeight := (dsp zmhh).extractLsb' 2 1 ++ dsp zmoh }

/-- The window depends on nine registers only. -/
theorem window_congr {first second : Registers}
    (same : ∀ place ∈ winRegisters, first place.1 place.2 = second place.1 place.2) :
    first.window = second.window := by
  simp only [winRegisters, List.forall_mem_cons, List.not_mem_nil, false_imp_iff, implies_true,
    and_true] at same
  simp only [Registers.window, same]

/-- A value is put together from its low byte and the bits above. -/
theorem append_low {width : Nat} {value : BitVec 32} {high : BitVec width}
    (above : ∀ index < width, high.getLsbD index = value.getLsbD (8 + index)) :
    high ++ (value &&& 0xFF).setWidth 8 = value.setWidth (width + 8) := by
  apply BitVec.eq_of_getLsbD_eq
  intro index inside
  rw [BitVec.getLsbD_append, BitVec.getLsbD_setWidth]
  split
  next low =>
    simp only [BitVec.getLsbD_setWidth, BitVec.getLsbD_and, low, inside, decide_true,
      Bool.true_and]
    interval_cases index <;> simp
  next notLow =>
    rw [above (index - 8) (by omega), Nat.add_sub_cancel' (Nat.not_lt.mp notLow)]
    simp [inside]

section Bits

variable (offsetX offsetY maxX maxY w h : BitVec 32)

theorem getLsbD_vhyxValue {index : Nat} (inside : index < 8) :
    (vhyxValue offsetX offsetY maxX maxY).getLsbD index =
      if index < 3 then offsetX.getLsbD (8 + index)
      else if index < 4 then maxX.getLsbD (5 + index)
      else if index < 7 then offsetY.getLsbD (4 + index)
      else maxY.getLsbD (1 + index) := by
  simp only [vhyxValue, BitVec.getLsbD_setWidth, BitVec.getLsbD_and, BitVec.getLsbD_or,
    BitVec.getLsbD_sshiftRight]
  interval_cases index <;> simp

theorem getLsbD_zmhhValue {index : Nat} (inside : index < 3) :
    (zmhhValue w h).getLsbD index =
      if index < 2 then w.getLsbD (8 + index) else h.getLsbD (6 + index) := by
  simp only [zmhhValue, BitVec.getLsbD_setWidth, BitVec.getLsbD_and, BitVec.getLsbD_or,
    BitVec.getLsbD_sshiftRight]
  interval_cases index <;> simp

theorem hSize_joined :
    ((maxX.sshiftRight 2 &&& 0x80).setWidth 8).extractLsb' 7 1 ++
      (vhyxValue offsetX offsetY maxX maxY).extractLsb' 3 1 ++ (maxX &&& 0xFF).setWidth 8 =
        maxX.setWidth (1 + 1 + 8) := by
  apply append_low
  intro index inside
  simp only [BitVec.getLsbD_append, BitVec.getLsbD_extractLsb', BitVec.getLsbD_setWidth,
    BitVec.getLsbD_and, BitVec.getLsbD_sshiftRight]
  interval_cases index
  · rw [if_pos (by decide), getLsbD_vhyxValue _ _ _ _ (by decide)]
    simp
  · simp

theorem vSize_joined :
    (vhyxValue offsetX offsetY maxX maxY).extractLsb' 7 1 ++ (maxY &&& 0xFF).setWidth 8 =
      maxY.setWidth (1 + 8) := by
  apply append_low
  intro index inside
  rw [BitVec.getLsbD_extractLsb', getLsbD_vhyxValue _ _ _ _ (by omega)]
  interval_cases index
  simp

theorem offsetX_joined :
    (vhyxValue offsetX offsetY maxX maxY).extractLsb' 0 3 ++ (offsetX &&& 0xFF).setWidth 8 =
      offsetX.setWidth (3 + 8) := by
  apply append_low
  intro index inside
  rw [BitVec.getLsbD_extractLsb', getLsbD_vhyxValue _ _ _ _ (by omega)]
  simp [inside]

theorem offsetY_joined :
    (vhyxValue offsetX offsetY maxX maxY).extractLsb' 4 3 ++ (offsetY &&& 0xFF).setWidth 8 =
      offsetY.setWidth (3 + 8) := by
  apply append_low
  intro index inside
  rw [BitVec.getLsbD_extractLsb', getLsbD_vhyxValue _ _ _ _ (by omega)]
  interval_cases index <;> simp

theorem zoomWidth_joined :
    (zmhhValue w h).extractLsb' 0 2 ++ (w &&& 0xFF).setWidth 8 = w.setWidth (2 + 8) := by
  apply append_low
  intro index inside
  rw [BitVec.getLsbD_extractLsb', getLsbD_zmhhValue _ _ (by omega)]
  simp [inside]

theorem zoomHeight_joined :
    (zmhhValue w h).extractLsb' 2 1 ++ (h &&& 0xFF).setWidth 8 = h.setWidth (1 + 8) := by
  apply append_low
  intro index inside
  rw [BitVec.getLsbD_extractLsb', getLsbD_zmhhValue _ _ (by omega)]
  interval_cases index
  simp

/-- The low bits of the values come back. -/
theorem window_winRegs (registers : Registers) :
    (registers.storeAll (tableWrites 0 (winRegs offsetX offsetY maxX maxY w h))).window =
      ⟨maxX.setWidth 10, maxY.setWidth 9, offsetX.setWidth 11, offsetY.setWidth 11,
        w.setWidth 10, h.setWidth 9⟩ := by
  simp only [Registers.window, storeAll_apply]
  refine Window.mk.injEq _ _ _ _ _ _ _ _ _ _ _ _ ▸ ⟨?_, ?_, ?_, ?_, ?_, ?_⟩
  · exact hSize_joined offsetX offsetY maxX maxY
  · exact vSize_joined offsetX offsetY maxX maxY
  · exact offsetX_joined offsetX offsetY maxX maxY
  · exact offsetY_joined offsetX offsetY maxX maxY
  · exact zoomWidth_joined w h
  · exact zoomHeight_joined w h

end Bits

/-- The window after `set_window`: the tables of the mode and of the format do not write it
again. -/
theorem window_setWindow (direct : DirectSensor) (mode offsetX offsetY maxX maxY w h : BitVec 32) :
    (direct.setWindow mode offsetX offsetY maxX maxY w h).registers.window =
      ⟨(maxX.sdiv 4).setWidth 10, (maxY.sdiv 4).setWidth 9, offsetX.setWidth 11,
        offsetY.setWidth 11, (w.sdiv 4).setWidth 10, (h.sdiv 4).setWidth 9⟩ := by
  refine Eq.trans (window_congr ?_) (window_winRegs _ _ _ _ _ _
    ((direct.write bankDsp rBypass 0x01).writeTable (modeSettings mode)).registers)
  have later : ∀ place ∈ winRegisters, place ∉ formatRegisters ∧ place ≠ (bankDsp, rBypass) ∧
      place ≠ (bankDsp, rDvpSp) ∧ place ≠ (bankSensor, clkrc) :=
    forall_mem_of_all (by decide +kernel)
  intro place mem
  rcases later place mem with ⟨format, bypass, speed, clock⟩
  unfold DirectSensor.setWindow DirectSensor.window
  rw [DirectSensor.setFormat_registers _ format, DirectSensor.write_registers _ bypass,
    DirectSensor.write_registers _ speed, DirectSensor.write_registers _ clock]
  rfl

/-! ## Frame sizes -/

/-- The registers of the window and of the size of the picture. -/
def pictureRegisters : List (Byte × Byte) :=
  (bankDsp, hsize8) :: (bankDsp, vsize8) :: winRegisters

/-- Pictures have the size, and come from a part that is not smaller and lies inside the
picture of the sensor. -/
structure SendsSize (size : FrameSize) (registers : Registers) : Prop where
  width : 4 * registers.window.zoomWidth.toNat = (resolution size).1
  height : 4 * registers.window.zoomHeight.toNat = (resolution size).2.1
  smallerX : registers.window.zoomWidth ≤ registers.window.hSize
  smallerY : registers.window.zoomHeight ≤ registers.window.vSize
  insideX : registers.window.offsetX.toNat + 4 * registers.window.hSize.toNat ≤
    8 * (registers bankDsp hsize8).toNat
  insideY : registers.window.offsetY.toNat + 4 * registers.window.vSize.toNat ≤
    8 * (registers bankDsp vsize8).toNat

theorem SendsSize.congr {size : FrameSize} {first second : Registers}
    (same : ∀ place ∈ pictureRegisters, first place.1 place.2 = second place.1 place.2)
    (sends : SendsSize size first) : SendsSize size second := by
  have window : first.window = second.window :=
    window_congr fun place mem =>
      same place (List.mem_cons_of_mem _ (List.mem_cons_of_mem _ mem))
  have width := same (bankDsp, hsize8) List.mem_cons_self
  have height := same (bankDsp, vsize8) (List.mem_cons_of_mem _ List.mem_cons_self)
  rcases sends with ⟨w, h, smallerX, smallerY, insideX, insideY⟩
  rw [window] at w h smallerX smallerY insideX insideY
  rw [width] at insideX
  rw [height] at insideY
  exact ⟨w, h, smallerX, smallerY, insideX, insideY⟩

/-- The size of the picture of a mode, in units of eight pixels. -/
def modePicture (mode : BitVec 32) : Byte × Byte :=
  if mode = ov2640ModeCif then (50, 37) else if mode = ov2640ModeSvga then (100, 75) else (200, 150)

/-- The size of the picture of the sensor comes from the table of the mode. -/
theorem picture_setWindow (direct : DirectSensor)
    (mode offsetX offsetY maxX maxY w h : BitVec 32) :
    (direct.setWindow mode offsetX offsetY maxX maxY w h).registers bankDsp hsize8 =
        (modePicture mode).1 ∧
      (direct.setWindow mode offsetX offsetY maxX maxY w h).registers bankDsp vsize8 =
        (modePicture mode).2 := by
  have written : lastWrite bankDsp hsize8 (tableWrites 0 (modeSettings mode)) =
        some (modePicture mode).1 ∧
      lastWrite bankDsp vsize8 (tableWrites 0 (modeSettings mode)) =
        some (modePicture mode).2 := by
    unfold modeSettings modePicture
    split
    next => decide +kernel
    next =>
      split
      next => decide +kernel
      next => decide +kernel
  exact ⟨DirectSensor.setWindow_mode _ _ _ _ _ _ _ (by decide +kernel) written.1,
    DirectSensor.setWindow_mode _ _ _ _ _ _ _ (by decide +kernel) written.2⟩

/-- The window for a frame size. -/
def sizeWindow (size : FrameSize) : Window :=
  let ratio := (framesizeWindow size).2
  ⟨((BitVec.ofNat 32 ratio.maxX).sdiv 4).setWidth 10,
    ((BitVec.ofNat 32 ratio.maxY).sdiv 4).setWidth 9,
    (BitVec.ofNat 32 ratio.offsetX).setWidth 11, (BitVec.ofNat 32 ratio.offsetY).setWidth 11,
    ((BitVec.ofNat 32 (resolution size).1).sdiv 4).setWidth 10,
    ((BitVec.ofNat 32 (resolution size).2.1).sdiv 4).setWidth 9⟩

/-- The tables of the driver fit each other for all sizes up to UXGA. -/
theorem sizeWindow_fits {size : FrameSize} (possible : size.ctorIdx ≤ FrameSize.uxga.ctorIdx) :
    4 * (sizeWindow size).zoomWidth.toNat = (resolution size).1 ∧
      4 * (sizeWindow size).zoomHeight.toNat = (resolution size).2.1 ∧
      (sizeWindow size).zoomWidth ≤ (sizeWindow size).hSize ∧
      (sizeWindow size).zoomHeight ≤ (sizeWindow size).vSize ∧
      (sizeWindow size).offsetX.toNat + 4 * (sizeWindow size).hSize.toNat ≤
        8 * (modePicture (framesizeWindow size).1).1.toNat ∧
      (sizeWindow size).offsetY.toNat + 4 * (sizeWindow size).vSize.toNat ≤
        8 * (modePicture (framesizeWindow size).1).2.toNat := by
  cases size with
  | fhd | pHd | p3mp | qxga | qhd | wqxga | pFhd | qsxga => exact absurd possible (by decide)
  | size96x96 | qqvga | qcif | hqvga | size240x240 | qvga | cif => decide +kernel
  | hvga | vga | svga => decide +kernel
  | xga | hd | sxga | uxga => decide +kernel

/-- A frame size up to UXGA is set, whatever the registers were before. -/
theorem sendsSize_act (factory : Registers) (direct : DirectSensor) {size : FrameSize}
    (possible : size.ctorIdx ≤ FrameSize.uxga.ctorIdx) :
    SendsSize size ((Call.framesize size).act factory direct).registers := by
  have window : ((Call.framesize size).act factory direct).registers.window = sizeWindow size :=
    window_setWindow _ _ _ _ _ _ _ _
  have picture : ((Call.framesize size).act factory direct).registers bankDsp hsize8 =
        (modePicture (framesizeWindow size).1).1 ∧
      ((Call.framesize size).act factory direct).registers bankDsp vsize8 =
        (modePicture (framesizeWindow size).1).2 :=
    picture_setWindow _ _ _ _ _ _ _ _
  rcases picture with ⟨width, height⟩
  rcases sizeWindow_fits possible with ⟨w, h, smallerX, smallerY, insideX, insideY⟩
  constructor
  · rw [window, w]
  · rw [window, h]
  · rw [window]
    exact smallerX
  · rw [window]
    exact smallerY
  · rw [window, width]
    exact insideX
  · rw [window, height]
    exact insideY

/-- The call does not write the registers of the window. -/
def Call.SparesWindow (call : Call) : Prop :=
  call ≠ .reset ∧ ∀ place ∈ pictureRegisters, place ∉ call.written

instance (call : Call) : Decidable call.SparesWindow :=
  have : Decidable (∀ place ∈ pictureRegisters, place ∉ call.written) := List.decidableBAll _ _
  inferInstanceAs (Decidable (_ ∧ _))

theorem sendsSize_foldl (factory : Registers) {size : FrameSize} {calls : List Call}
    (spares : ∀ call ∈ calls, call.SparesWindow) {direct : DirectSensor}
    (sends : SendsSize size direct.registers) :
    SendsSize size (calls.foldl (fun d call => call.act factory d) direct).registers := by
  induction calls generalizing direct with
  | nil => exact sends
  | cons call calls ih =>
      rcases spares call List.mem_cons_self with ⟨noReset, absent⟩
      apply ih fun other mem => spares other (List.mem_cons_of_mem _ mem)
      apply sends.congr
      intro place mem
      exact (act_registers factory noReset (absent place mem)).symm

/-- On a bus without failures, and from whatever state the sensor was detected and reset in:
after a frame size up to UXGA was set, and after all further calls that do not set the window
again, the sensor sends pictures of this size from a part of its picture. -/
theorem framesize_sent {bus : Bus} (reliable : bus.Reliable) (caching : Bool)
    {before after : List Call} {size : FrameSize}
    (possible : size.ctorIdx ≤ FrameSize.uxga.ctorIdx)
    (allowedBefore : ∀ call ∈ before, call.Allowed) (allowedAfter : ∀ call ∈ after, call.Allowed)
    (spares : ∀ call ∈ after, call.SparesWindow) (sensor : Sensor) :
    SendsSize size (performAll bus caching
      (.detect :: .reset :: (before ++ .framesize size :: after)) sensor).2.direct.registers := by
  have allowed : ∀ call ∈ before ++ .framesize size :: after, call.Allowed :=
    List.forall_mem_append.mpr ⟨allowedBefore, List.forall_mem_cons.mpr ⟨trivial, allowedAfter⟩⟩
  rw [(performAll_probed reliable caching allowed sensor).2.2, List.foldl_cons, List.foldl_append,
    List.foldl_cons]
  exact sendsSize_foldl _ spares (sendsSize_act _ _ possible)

/-- The detector's frames, with the calls of `esp_camera_init` after the frame size. -/
theorem framesize_sent_detector :
    SendsSize .size240x240 (performAll steadyBus true
      [.detect, .reset, .framesize .size240x240, .pixformat .rgb565, .gainceiling 0, .bpc 0, .wpc 1,
        .lenc 1, .initStatus] (newSensor blankChip)).2.direct.registers :=
  @framesize_sent steadyBus (fun _ => rfl) true []
    [.pixformat .rgb565, .gainceiling 0, .bpc 0, .wpc 1, .lenc 1, .initStatus] .size240x240
    (by decide) (by simp) (by simp [Call.Allowed]) (forall_mem_of_all (by decide +kernel))
    (newSensor blankChip)

end ECam.Camera
