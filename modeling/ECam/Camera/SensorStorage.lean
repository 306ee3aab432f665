import ECam.Camera.SensorStatus

/-!
# Settings in the flash

`esp_camera_save_to_nvs` stores the status and the format, and `esp_camera_load_from_nvs` calls
the setters with what was stored, in a fixed order.  The status is then the stored one.  The
registers are not: the frame size is set in the middle, and its tables switch the color bar
off and the downsizing on, which were set before.
-/

namespace ECam.Camera

open ECam.Library
open ECam.ImageProcessing (PixFormat)
open Register

/-- What `esp_camera_save_to_nvs` stores under its two keys. -/
def saveToNvs (sensor : Sensor) : Status × PixFormat :=
  (sensor.status, sensor.pixformat)

/-- The setters that `esp_camera_load_from_nvs` calls with a status. -/
def statusCalls (st : Status) : List Call :=
  [.aeLevel st.aeLevel, .aec2 st.aec2.toNat, .aecValue st.aecValue.toNat,
    .agcGain st.agcGain.toNat, .awbGain st.awbGain.toNat, .bpc st.bpc.toNat,
    .brightness st.brightness, .colorbar st.colorbar.toNat, .contrast st.contrast,
    .dcw st.dcw.toNat, .denoise st.denoise.toNat, .aec st.aec.toNat, .framesize st.framesize,
    .agc st.agc.toNat, .gainceiling st.gainceiling, .hmirror st.hmirror.toNat,
    .lenc st.lenc.toNat, .quality st.quality.toNat, .rawGma st.rawGma.toNat,
    .saturation st.saturation, .sharpness st.sharpness, .specialEffect st.specialEffect.toNat,
    .vflip st.vflip.toNat, .wbMode st.wbMode.toNat, .awb st.awb.toNat, .wpc st.wpc.toNat]

/-- The calls of `esp_camera_load_from_nvs`, for what it finds under the two keys. -/
def loadFromNvs (stored : Option Status) (format : Option PixFormat) : List Call :=
  (stored.map statusCalls).getD [] ++ (format.map fun pf => [Call.pixformat pf]).getD []

/-! ## The status -/

/-- What a call notes, for the calls of `esp_camera_load_from_nvs`. -/
def Call.note : Call → Status → Status
  | .framesize size, status => { status with framesize := size }
  | .contrast level, status =>
      if levelCode 3 5 level = 0 then { status with contrast := level } else status
  | .brightness level, status =>
      if levelCode 3 5 level = 0 then { status with brightness := level } else status
  | .saturation level, status =>
      if levelCode 3 5 level = 0 then { status with saturation := level } else status
  | .aeLevel level, status =>
      if levelCode 3 5 level = 0 then { status with aeLevel := level } else status
  | .specialEffect effect, status =>
      if levelCode 1 7 effect = 0 then
        { status with specialEffect := BitVec.ofInt 8 effect }
      else
        status
  | .wbMode mode, status =>
      if mode < 0 ∨ mode > 11 then status else { status with wbMode := BitVec.ofInt 8 mode }
  | .quality value, status => { status with quality := BitVec.ofInt 8 (clamp 63 value) }
  | .agcGain gain, status => { status with agcGain := BitVec.ofInt 8 (clamp 30 gain) }
  | .aecValue value, status => { status with aecValue := BitVec.ofInt 16 (clamp 1200 value) }
  | call, status =>
      match call.setting with
      | some setting => setting.field.note setting.noted status
      | none => status

variable {direct : DirectSensor} {status : Status}

theorem DirectSensor.setLevel_status_eq (bank : Byte) (regs : List (List Byte))
    (shift count level : Int) (change : Status → Status) :
    (direct.setLevel bank regs shift count level change).status =
      if levelCode shift count level = 0 then change direct.status else direct.status := by
  unfold DirectSensor.setLevel levelCode
  split
  next => rfl
  next =>
    rw [DirectSensor.writeRow_status]
    rfl

theorem act_status (factory : Registers) {call : Call} (unread : call ≠ .initStatus) :
    (call.act factory direct).status = call.note direct.status := by
  cases call with
  | initStatus => exact absurd rfl unread
  | detect | reset | pixformat | resRaw | reg | framesize | quality | agcGain | aecValue
  | sharpness | denoise | pll | getReg => rfl
  | contrast | brightness | saturation | specialEffect | aeLevel =>
      exact DirectSensor.setLevel_status_eq _ _ _ _ _ _
  | wbMode mode =>
      simp only [Call.act, DirectSensor.setWbMode, Call.note]
      split
      next => rfl
      next =>
        split
        next =>
          rw [DirectSensor.writeRow_status]
          rfl
        next => rfl
  | gainceiling | aec2 | rawGma | awb | awbGain | lenc | dcw | bpc | wpc | colorbar | agc | aec
  | hmirror | vflip => rfl

theorem status_foldl (factory : Registers) {calls : List Call}
    (unread : Call.initStatus ∉ calls) (direct : DirectSensor) :
    (calls.foldl (fun d call => call.act factory d) direct).status =
      calls.foldl (fun status call => call.note status) direct.status := by
  induction calls generalizing direct with
  | nil => rfl
  | cons call calls ih =>
      rw [List.mem_cons, not_or] at unread
      rw [List.foldl_cons, ih unread.2, act_status factory (Ne.symm unread.1)]
      rfl

/-- The levels are in the tables of the setters, and what is not supported is zero. -/
structure Status.Settable (status : Status) : Prop where
  brightness : levelCode 3 5 status.brightness = 0
  contrast : levelCode 3 5 status.contrast = 0
  saturation : levelCode 3 5 status.saturation = 0
  aeLevel : levelCode 3 5 status.aeLevel = 0
  specialEffect : levelCode 1 7 status.specialEffect.toNat = 0
  wbMode : status.wbMode.toNat ≤ 11
  agcGain : status.agcGain.toNat ≤ 30
  sharpness : status.sharpness = 0
  denoise : status.denoise = 0

theorem agcGainOf_le (value : Byte) : (agcGainOf value).toNat ≤ 30 := by
  unfold agcGainOf
  split
  next i found =>
    have inside := List.mem_range.mp (List.mem_of_find?_eq_some found)
    rw [BitVec.toNat_ofNat]
    omega
  next => decide

/-- The status that is read can be set again. -/
theorem settable_readStatus : direct.readStatus.status.Settable where
  brightness := rfl
  contrast := rfl
  saturation := rfl
  aeLevel := rfl
  specialEffect := rfl
  wbMode := Nat.zero_le 11
  agcGain := agcGainOf_le _
  sharpness := rfl
  denoise := rfl

theorem toNat_ofInt_clamp {limit : Int} (small : 0 ≤ limit ∧ limit ≤ 255) (value : Int) :
    ((BitVec.ofInt 8 (clamp limit value)).toNat : Int) = clamp limit value := by
  have inside : 0 ≤ clamp limit value ∧ clamp limit value ≤ 255 := by
    unfold clamp
    split
    next => omega
    next => split <;> omega
  rw [BitVec.toNat_ofInt]
  omega

theorem levelCode_eq_zero {shift count level : Int} :
    levelCode shift count level = 0 ↔ 0 < level + shift ∧ level + shift ≤ count := by
  unfold levelCode
  split <;> omega

/-- No setter notes a level that it does not take. -/
theorem Status.Settable.note (settable : status.Settable) (call : Call) :
    (call.note status).Settable := by
  cases call with
  | contrast level =>
      simp only [Call.note]
      split
      next taken => exact { settable with contrast := taken }
      next => exact settable
  | brightness level =>
      simp only [Call.note]
      split
      next taken => exact { settable with brightness := taken }
      next => exact settable
  | saturation level =>
      simp only [Call.note]
      split
      next taken => exact { settable with saturation := taken }
      next => exact settable
  | aeLevel level =>
      simp only [Call.note]
      split
      next taken => exact { settable with aeLevel := taken }
      next => exact settable
  | specialEffect effect =>
      simp only [Call.note]
      split
      next taken =>
        have same : ((BitVec.ofInt 8 effect).toNat : Int) = effect := by
          rw [levelCode_eq_zero] at taken
          rw [BitVec.toNat_ofInt]
          omega
        exact { settable with specialEffect := by rw [same]; exact taken }
      next => exact settable
  | wbMode mode =>
      simp only [Call.note]
      split
      next => exact settable
      next taken =>
        have small : (BitVec.ofInt 8 mode).toNat ≤ 11 := by
          rw [BitVec.toNat_ofInt]
          omega
        exact { settable with wbMode := small }
  | agcGain gain =>
      have small : (BitVec.ofInt 8 (clamp 30 gain)).toNat ≤ 30 := by
        have same := toNat_ofInt_clamp (by decide : (0 : Int) ≤ 30 ∧ (30 : Int) ≤ 255) gain
        have bound : clamp 30 gain ≤ 30 := by
          unfold clamp
          split
          next => decide
          next => split <;> omega
        omega
      exact { settable with agcGain := small }
  | framesize | quality | aecValue | detect | reset | initStatus | pixformat | resRaw | reg
  | gainceiling | aec2 | rawGma | awb | awbGain | lenc | dcw | bpc | wpc | colorbar | agc | aec
  | hmirror | vflip | sharpness | denoise | pll | getReg => exact { settable with }

/-- A call keeps the status settable, be it read or noted. -/
theorem Status.Settable.act (factory : Registers) (settable : direct.status.Settable)
    (call : Call) : (call.act factory direct).status.Settable := by
  by_cases read : call = .initStatus
  · rw [read]
    exact settable_readStatus
  · rw [act_status factory read]
    exact settable.note call

theorem Status.Settable.foldl (factory : Registers) (calls : List Call) {direct : DirectSensor}
    (settable : direct.status.Settable) :
    (calls.foldl (fun d call => call.act factory d) direct).status.Settable := by
  induction calls generalizing direct with
  | nil => exact settable
  | cons call calls ih => exact ih (settable.act factory call)

/-- The values that the setters limit. -/
def Status.limited (status : Status) : Status :=
  { status with
    quality := BitVec.ofInt 8 (clamp 63 status.quality.toNat)
    aecValue := BitVec.ofInt 16 (clamp 1200 status.aecValue.toNat) }

theorem ofInt_toNat {width : Nat} (value : BitVec width) :
    BitVec.ofInt width (value.toNat : Int) = value := by
  rw [BitVec.ofInt_natCast, BitVec.ofNat_toNat, BitVec.setWidth_eq]

/-- The setters note what was stored. -/
theorem note_statusCalls {st : Status} (stored : st.Settable) (settable : status.Settable) :
    (statusCalls st).foldl (fun noted call => call.note noted) status = st.limited := by
  have gain : clamp 30 st.agcGain.toNat = st.agcGain.toNat := by
    have small := stored.agcGain
    unfold clamp
    split
    next => omega
    next => split <;> omega
  have mode : ¬((st.wbMode.toNat : Int) < 0 ∨ (st.wbMode.toNat : Int) > 11) := by
    have small := stored.wbMode
    omega
  have sharpness : status.sharpness = st.sharpness :=
    settable.sharpness.trans stored.sharpness.symm
  have denoise : status.denoise = st.denoise := settable.denoise.trans stored.denoise.symm
  simp only [statusCalls, List.foldl_cons, List.foldl_nil, Call.note, Call.setting, Setting.switch,
    StatusField.note, stored.brightness, stored.contrast, stored.saturation, stored.aeLevel,
    stored.specialEffect, gain, ofInt_toNat, if_true, if_neg mode, sharpness, denoise]
  rfl

theorem status_loadFromNvs (factory : Registers) {st : Status} (pf : PixFormat)
    (stored : st.Settable) (settable : direct.status.Settable) :
    ((loadFromNvs (some st) (some pf)).foldl (fun d call => call.act factory d) direct).status =
      st.limited := by
  rw [loadFromNvs, List.foldl_append]
  exact (status_foldl factory (by simp [statusCalls]) direct).trans
    (note_statusCalls stored settable)

/-! ## The registers -/

/-- The value that a call sets, a field or another one. -/
def Call.item (call : Call) : Option Item :=
  match call.setting with
  | some setting => some (.field setting.field)
  | none => call.value

variable {item : Item}

theorem allowed_loadFromNvs (st : Status) (pf : PixFormat) :
    ∀ call ∈ loadFromNvs (some st) (some pf), call.Allowed := by
  simp [loadFromNvs, statusCalls, Call.Allowed]

/-- The use of a sensor on a bus without failures: it is detected and reset, and its status is
read at some point. -/
structure Session where
  bus : Bus
  reliable : bus.Reliable
  sensor : Sensor
  before : List Call
  after : List Call
  allowed : ∀ call ∈ before ++ after, call.Allowed

namespace Session

/-- The sensor after the session and further calls. -/
def continued (session : Session) (calls : List Call) : Sensor :=
  (performAll session.bus true
    (.detect :: .reset :: (session.before ++ .initStatus :: (session.after ++ calls)))
    session.sensor).2

/-- The sensor after the session. -/
def last (session : Session) : Sensor :=
  session.continued []

variable (session : Session)

/-- What the calls before the status is read are for. -/
def unread : DirectSensor :=
  (.reset :: session.before).foldl (fun d call => call.act session.bus.factory.registers d)
    session.sensor.direct

theorem continued_direct {calls : List Call} (allowed : ∀ call ∈ calls, call.Allowed) :
    (session.continued calls).direct =
      (session.after ++ calls).foldl (fun d call => call.act session.bus.factory.registers d)
        session.unread.readStatus := by
  have all := List.forall_mem_append.mp session.allowed
  have later : ∀ call ∈ Call.initStatus :: (session.after ++ calls), call.Allowed :=
    List.forall_mem_cons.mpr ⟨trivial, List.forall_mem_append.mpr ⟨all.2, allowed⟩⟩
  exact performAll_append_direct session.reliable true all.1 later session.sensor

theorem last_direct : session.last.direct =
    session.after.foldl (fun d call => call.act session.bus.factory.registers d)
      session.unread.readStatus := by
  refine (session.continued_direct (List.forall_mem_nil _)).trans ?_
  rw [List.append_nil]

/-- Further calls go on from the last state. -/
theorem continued_last {calls : List Call} (allowed : ∀ call ∈ calls, call.Allowed) :
    (session.continued calls).direct =
      calls.foldl (fun d call => call.act session.bus.factory.registers d)
        session.last.direct := by
  rw [session.continued_direct allowed, List.foldl_append, last_direct]

theorem last_settable : session.last.status.Settable := by
  have settable := Status.Settable.foldl session.bus.factory.registers session.after
    (@settable_readStatus session.unread)
  rw [← last_direct] at settable
  exact settable

/-- The status after the settings of another session are loaded. -/
theorem loaded_status (source : Session) :
    (session.continued (loadFromNvs (some source.last.status)
      (some source.last.pixformat))).status = source.last.status.limited := by
  refine (congrArg DirectSensor.status (session.continued_last (allowed_loadFromNvs _ _))).trans ?_
  exact status_loadFromNvs _ _ source.last_settable session.last_settable

end Session

/-- The limits of a value. -/
def Item.limit (value : BitVec 16) : Item → BitVec 16
  | .quality => BitVec.ofInt 16 (clamp 63 value.toNat)
  | .aecValue => BitVec.ofInt 16 (clamp 1200 value.toNat)
  | _ => value

/-- A camera for gray pictures. -/
def graySession : Session where
  bus := steadyBus
  reliable := fun _ => rfl
  sensor := newSensor blankChip
  before := [.pixformat .grayscale, .framesize .size240x240]
  after := []
  allowed := by simp [Call.Allowed]

/-- A camera for JPEG pictures that shows its color bar. -/
def barSession : Session where
  bus := steadyBus
  reliable := fun _ => rfl
  sensor := newSensor blankChip
  before := [.pixformat .jpeg, .framesize .vga]
  after := [.quality 12, .colorbar 1, .hmirror 1]
  allowed := by simp [Call.Allowed]

theorem DirectSensor.writeRow_pixformat (bank : Byte) (regs : List (List Byte)) (row : Nat) :
    (direct.writeRow bank regs row).pixformat = direct.pixformat :=
  DirectSensor.writeRow_kept DirectSensor.pixformat (fun _ _ _ _ => rfl) bank regs row

theorem DirectSensor.setLevel_pixformat (bank : Byte) (regs : List (List Byte))
    (shift count level : Int) (change : Status → Status) :
    (direct.setLevel bank regs shift count level change).pixformat = direct.pixformat := by
  unfold DirectSensor.setLevel
  split
  next => rfl
  next => exact DirectSensor.writeRow_pixformat _ _ _

/-- The calls before the frame size. -/
def earlyCalls (st : Status) : List Call :=
  (statusCalls st).take 12

/-- The calls after the frame size. -/
def lateCalls (st : Status) (pf : PixFormat) : List Call :=
  (statusCalls st).drop 13 ++ [.pixformat pf]

theorem loadFromNvs_eq (st : Status) (pf : PixFormat) :
    loadFromNvs (some st) (some pf) =
      earlyCalls st ++ .framesize st.framesize :: lateCalls st pf :=
  rfl

theorem pixformat_earlyCalls (factory : Registers) (st : Status) (direct : DirectSensor) :
    ((earlyCalls st).foldl (fun d call => call.act factory d) direct).pixformat =
      direct.pixformat := by
  have kept : ∀ call ∈ earlyCalls st, ∀ direct : DirectSensor,
      (call.act factory direct).pixformat = direct.pixformat := by
    simp only [earlyCalls, statusCalls, List.take_succ_cons, List.take_zero, List.forall_mem_cons]
    refine ⟨?_, fun _ => rfl, fun _ => rfl, fun _ => rfl, fun _ => rfl, fun _ => rfl, ?_,
      fun _ => rfl, ?_, fun _ => rfl, fun _ => rfl, fun _ => rfl, List.forall_mem_nil _⟩
    · exact fun _ => DirectSensor.setLevel_pixformat _ _ _ _ _ _
    · exact fun _ => DirectSensor.setLevel_pixformat _ _ _ _ _ _
    · exact fun _ => DirectSensor.setLevel_pixformat _ _ _ _ _ _
  generalize earlyCalls st = calls at kept
  induction calls generalizing direct with
  | nil => rfl
  | cons call calls ih =>
      rw [List.foldl_cons, ih _ fun other mem => kept other (List.mem_cons_of_mem _ mem)]
      exact kept call List.mem_cons_self direct

/-- A register that none of the calls writes. -/
theorem registers_foldl (factory : Registers) {bank reg : Byte} {calls : List Call}
    (absent : ∀ call ∈ calls, call ≠ .reset ∧ (bank, reg) ∉ call.written)
    (direct : DirectSensor) :
    (calls.foldl (fun d call => call.act factory d) direct).registers bank reg =
      direct.registers bank reg := by
  induction calls generalizing direct with
  | nil => rfl
  | cons call calls ih =>
      rw [List.foldl_cons, ih fun other mem => absent other (List.mem_cons_of_mem _ mem)]
      exact act_registers factory (absent call List.mem_cons_self).1
        (absent call List.mem_cons_self).2

/-- The registers of the last calls do not depend on the values. -/
theorem written_lateCalls (st : Status) (pf : PixFormat) :
    (lateCalls st pf).flatMap Call.written =
      [(bankSensor, com8), (bankSensor, com9), (bankSensor, reg04), (bankDsp, ctrl1),
        (bankDsp, qs), (bankDsp, ctrl1), (bankDsp, bpaddr), (bankDsp, bpdata), (bankDsp, bpaddr),
        (bankDsp, bpdata), (bankSensor, reg04), (bankDsp, 0xC7), (bankDsp, 0xCC), (bankDsp, 0xCD),
        (bankDsp, 0xCE), (bankDsp, ctrl1), (bankDsp, ctrl3)] ++ formatRegisters :=
  rfl

/-- The frame size has the last word on three registers. -/
theorem registers_lateCalls (factory : Registers) (st : Status) (pf : PixFormat) {bank reg : Byte}
    (place : (bank, reg) = (bankSensor, com7) ∨ (bank, reg) = (bankDsp, ctrl2) ∨
      (bank, reg) = (bankSensor, clkrc)) (direct : DirectSensor) :
    ((lateCalls st pf).foldl (fun d call => call.act factory d) direct).registers bank reg =
      direct.registers bank reg := by
  have absent : (bank, reg) ∉ (lateCalls st pf).flatMap Call.written := by
    rw [written_lateCalls]
    rcases place with same | same | same
    · rw [same]
      decide +kernel
    · rw [same]
      decide +kernel
    · rw [same]
      decide +kernel
  apply registers_foldl
  intro call mem
  constructor
  · rintro rfl
    simp [lateCalls, statusCalls] at mem
  · exact fun written => absent (List.mem_flatMap.mpr ⟨call, mem, written⟩)

theorem DirectSensor.setWindow_clkrc (mode offsetX offsetY maxX maxY w h : BitVec 32) :
    (direct.setWindow mode offsetX offsetY maxX maxY w h).registers bankSensor clkrc =
      clk direct.pixformat mode := by
  unfold DirectSensor.setWindow DirectSensor.window
  rw [DirectSensor.setFormat_registers _ (by decide +kernel),
    DirectSensor.write_registers _ (by decide), DirectSensor.write_registers _ (by decide)]
  exact DirectSensor.registers_write _ _ _

/-- The tables of the modes switch the color bar off. -/
theorem colorbar_framesize (factory : Registers) (size : FrameSize) (direct : DirectSensor) :
    ((Call.framesize size).act factory direct).field .colorbar = 0 := by
  have written : ∀ mode, ∃ value, lastWrite bankSensor com7 (tableWrites 0 (modeSettings mode)) =
      some value ∧ getBits value 1 1 = 0 := by
    intro mode
    unfold modeSettings
    split
    next => exact ⟨0x20, by decide +kernel, by decide⟩
    next =>
      split
      next => exact ⟨0x40, by decide +kernel, by decide⟩
      next => exact ⟨0x00, by decide +kernel, by decide⟩
  rcases written (framesizeWindow size).1 with ⟨value, last, off⟩
  refine Eq.trans ?_ off
  refine congrArg (fun register => getBits register 1 1) ?_
  exact DirectSensor.setWindow_mode _ _ _ _ _ _ _ (by decide +kernel) last

/-- The tables of the modes switch the downsizing on. -/
theorem dcw_framesize (factory : Registers) (size : FrameSize) (direct : DirectSensor) :
    ((Call.framesize size).act factory direct).field .dcw = 1 := by
  have written : ∀ mode,
      lastWrite bankDsp ctrl2 (tableWrites 0 (modeSettings mode)) = some 0x3D := by
    intro mode
    unfold modeSettings
    split
    next => decide +kernel
    next =>
      split
      next => decide +kernel
      next => decide +kernel
  refine Eq.trans ?_ (by decide : getBits (0x3D : Byte) 5 1 = 1)
  refine congrArg (fun register => getBits register 5 1) ?_
  exact DirectSensor.setWindow_mode _ _ _ _ _ _ _ (by decide +kernel) (written _)

/-- The frame size leaves the switch of `aec2` alone, unless the format is the raw one. -/
theorem aec2_framesize (factory : Registers) (size : FrameSize) (plain : direct.pixformat ≠ .raw) :
    ((Call.framesize size).act factory direct).field .aec2 = direct.field .aec2 := by
  apply DirectSensor.field_congr
  have modes : (bankDsp, ctrl0) ∉ tableRegisters (modeSettings (framesizeWindow size).1) := by
    unfold modeSettings
    split
    next => decide +kernel
    next =>
      split
      next => decide +kernel
      next => decide +kernel
  have format : (bankDsp, ctrl0) ∉ tableRegisters ((formatSettings direct.pixformat).getD []) :=
    @register_formatSettings .aec2 direct.pixformat fun both => plain both.2
  simp only [Call.act, DirectSensor.setWindow, DirectSensor.window, StatusField.place]
  refine (DirectSensor.writeTable_registers format).trans ?_
  refine (DirectSensor.write_registers _ (by decide)).trans ?_
  refine (DirectSensor.write_registers _ (by decide)).trans ?_
  refine (DirectSensor.write_registers _ (by decide)).trans ?_
  refine (DirectSensor.writeTable_registers (?_ : _ ∉ winRegisters)).trans ?_
  · decide
  refine (DirectSensor.writeTable_registers modes).trans ?_
  exact DirectSensor.write_registers _ (by decide)

theorem aec2_earlyCalls (factory : Registers) (st : Status) (direct : DirectSensor) :
    ((earlyCalls st).foldl (fun d call => call.act factory d) direct).field .aec2 =
      if st.aec2 = 0 then 1 else 0 := by
  have split : earlyCalls st =
      [.aeLevel st.aeLevel, .aec2 st.aec2.toNat] ++ (earlyCalls st).drop 2 := rfl
  have rest : ∀ call ∈ (earlyCalls st).drop 2, ¬call.Disturbs .aec2 ∧
      ∀ setting ∈ call.setting, setting.field ≠ .aec2 := by
    simp [earlyCalls, statusCalls, Call.Disturbs, Call.setting, Setting.switch]
  have sets : (Call.aec2 st.aec2.toNat).setting = some _ := rfl
  rw [split, List.foldl_append, field_foldl_calm factory rest, List.foldl_cons, List.foldl_cons,
    List.foldl_nil]
  refine (field_act_setting factory sets).trans ?_
  by_cases off : st.aec2 = 0
  · rw [if_pos off, off]
    rfl
  · have on : (st.aec2.toNat : Int) ≠ 0 := fun zero =>
      off (BitVec.eq_of_toNat_eq (Int.ofNat_inj.mp zero))
    rw [if_neg off, if_pos on]
    exact BitVec.zero_and

/-- The switch of `aec2` after a stored status was loaded. -/
theorem aec2_loadFromNvs (factory : Registers) (st : Status) {pf : PixFormat}
    (plain : pf ≠ .raw) {direct : DirectSensor} (before : direct.pixformat ≠ .raw) :
    ((loadFromNvs (some st) (some pf)).foldl (fun d call => call.act factory d) direct).field
      .aec2 = if st.aec2 = 0 then 1 else 0 := by
  have late : ∀ call ∈ lateCalls st pf, ¬call.Disturbs .aec2 ∧
      ∀ setting ∈ call.setting, setting.field ≠ .aec2 := by
    simp [lateCalls, statusCalls, Call.Disturbs, Call.setting, Setting.switch, plain]
  rw [← pixformat_earlyCalls factory st direct] at before
  rw [loadFromNvs_eq, List.foldl_append, List.foldl_cons, field_foldl_calm factory late,
    aec2_framesize factory st.framesize before]
  exact aec2_earlyCalls factory st direct

/-- The settings of one sensor are stored and loaded into another one.  Whatever was stored, the
color bar is off and the downsizing is on, though the status has the stored values; the clock
is the one for the format that the other sensor had before, not for the stored one; and the
switch of `aec2` is the opposite of the stored value, which is the switch of the first sensor
if its status was read. -/
theorem nvs_load_overwrites (source target : Session) :
    let stored := saveToNvs source.last
    let loaded := target.continued (loadFromNvs (some stored.1) (some stored.2))
    (loaded.status.colorbar = source.last.status.colorbar ∧ loaded.direct.field .colorbar = 0) ∧
      (loaded.status.dcw = source.last.status.dcw ∧ loaded.direct.field .dcw = 1) ∧
      loaded.direct.registers bankSensor clkrc =
        clk target.last.pixformat (framesizeWindow source.last.status.framesize).1 ∧
      (source.last.pixformat ≠ .raw → target.last.pixformat ≠ .raw →
        loaded.direct.field .aec2 = if source.last.status.aec2 = 0 then 1 else 0) := by
  intro stored loaded
  have direct : loaded.direct = _ :=
    target.continued_last (allowed_loadFromNvs stored.1 stored.2)
  have status : loaded.status = source.last.status.limited := target.loaded_status source
  rw [loadFromNvs_eq, List.foldl_append, List.foldl_cons] at direct
  refine ⟨⟨by rw [status]; rfl, ?_⟩, ⟨by rw [status]; rfl, ?_⟩, ?_, ?_⟩
  · rw [direct]
    exact (DirectSensor.field_congr
      (registers_lateCalls _ stored.1 stored.2 (Or.inl rfl) _)).trans (colorbar_framesize _ _ _)
  · rw [direct]
    exact (DirectSensor.field_congr
      (registers_lateCalls _ stored.1 stored.2 (Or.inr (Or.inl rfl)) _)).trans (dcw_framesize _ _ _)
  · rw [direct, registers_lateCalls _ stored.1 stored.2 (Or.inr (Or.inr rfl)) _]
    refine (DirectSensor.setWindow_clkrc _ _ _ _ _ _ _).trans ?_
    refine congrArg (fun format => clk format _) ?_
    exact pixformat_earlyCalls _ _ _
  · intro plain before
    rw [direct, ← List.foldl_cons, ← List.foldl_append, ← loadFromNvs_eq]
    exact aec2_loadFromNvs _ _ plain before

/-- The color bar is lost, and the clock is the one of the gray picture. -/
theorem nvs_load_overwrites_bar :
    let stored := saveToNvs barSession.last
    let loaded := graySession.continued (loadFromNvs (some stored.1) (some stored.2))
    loaded.direct.field .colorbar = 0 ∧
      loaded.direct.field .aec2 = if barSession.last.status.aec2 = 0 then 1 else 0 := by
  rcases nvs_load_overwrites barSession graySession with ⟨⟨-, bar⟩, -, -, turned⟩
  exact ⟨bar, turned (by decide +kernel) (by decide +kernel)⟩

end ECam.Camera
