import ECam.Camera.SensorWrites

/-!
# The status record of the sensor

The setters write registers and note what they have set; `init_status` reads the record from
the registers.  The record is right as long as nothing else writes the registers: after any
calls, reading it again changes none of its fields.

There are three exceptions.  The tables of the modes write the registers of two fields and
the table of the raw format that of a third one, without a note; and the bit of `aec2` is the
opposite of what the setter notes.
-/

namespace ECam.Camera

open ECam.Library
open ECam.ImageProcessing (PixFormat)
open Register

/-! ## Fields -/

/-- The value of a field in the record. -/
def StatusField.get (status : Status) : StatusField → Byte
  | .gainceiling => status.gainceiling
  | .awb => status.awb
  | .awbGain => status.awbGain
  | .aec => status.aec
  | .aec2 => status.aec2
  | .agc => status.agc
  | .bpc => status.bpc
  | .wpc => status.wpc
  | .rawGma => status.rawGma
  | .lenc => status.lenc
  | .hmirror => status.hmirror
  | .vflip => status.vflip
  | .dcw => status.dcw
  | .colorbar => status.colorbar

/-- The bank and the register of a field. -/
def StatusField.register (field : StatusField) : Byte × Byte :=
  (field.place.1, field.place.2.1)

theorem StatusField.get_note_other {field own : StatusField} (different : field ≠ own)
    (value : Byte) (status : Status) : field.get (own.note value status) = field.get status := by
  cases field <;> cases own <;> first | rfl | exact absurd rfl different

/-- Different fields have no bit in common. -/
theorem StatusField.apart {field own : StatusField} (different : field ≠ own) :
    field.register ≠ own.register ∨
      FieldsApart own.place.2.2.1 own.place.2.2.2 field.place.2.2.1 field.place.2.2.2 := by
  cases field <;> cases own <;> first | exact absurd rfl different | decide

theorem StatusField.fits (field : StatusField) :
    FieldFits field.place.2.2.1 field.place.2.2.2 := by
  cases field <;> decide

variable {direct : DirectSensor} {field : StatusField}

/-- A field depends on its register only. -/
theorem DirectSensor.field_congr {other : DirectSensor}
    (same : other.registers field.place.1 field.place.2.1 =
      direct.registers field.place.1 field.place.2.1) : other.field field = direct.field field := by
  rw [DirectSensor.field, DirectSensor.bits, same]
  rfl

theorem DirectSensor.registers_write (bank reg value : Byte) :
    (direct.write bank reg value).registers bank reg = value :=
  if_pos ⟨rfl, rfl⟩

theorem DirectSensor.bits_writeBits {bank reg mask : Byte} {offset : Nat}
    (fits : FieldFits offset mask) (value : Byte) :
    (direct.writeBits bank reg offset mask value).bits bank reg offset mask = value &&& mask := by
  rw [DirectSensor.bits, DirectSensor.writeBits, DirectSensor.registers_write]
  exact getBits_setBits fits _ _

/-- A write to other bits. -/
theorem DirectSensor.bits_writeBits_other {bank reg mask otherBank other otherMask : Byte}
    {offset otherOffset : Nat} (fits : FieldFits otherOffset otherMask)
    (apart : (otherBank, other) ≠ (bank, reg) ∨ FieldsApart offset mask otherOffset otherMask)
    (value : Byte) :
    (direct.writeBits bank reg offset mask value).bits otherBank other otherOffset otherMask =
      direct.bits otherBank other otherOffset otherMask := by
  by_cases same : (otherBank, other) = (bank, reg)
  · rcases apart with different | apart
    · exact absurd same different
    · cases same
      rw [DirectSensor.bits, DirectSensor.writeBits, DirectSensor.registers_write]
      exact getBits_setBits_of_apart fits apart _ _
  · rw [DirectSensor.bits, DirectSensor.writeBits_registers _ _ _ same]
    rfl

/-! ## Setters -/

/-- The bit of a switch. -/
def switchBit (enable : Int) : Byte :=
  if enable ≠ 0 then 1 else 0

/-- What a setter does: the field, the value that is noted and the bits that are written. -/
structure Setting where
  field : StatusField
  noted : Byte
  written : Byte

/-- A switch notes its argument and writes one bit. -/
def Setting.switch (field : StatusField) (enable : Int) : Setting :=
  ⟨field, BitVec.ofInt 8 enable, switchBit enable⟩

/-- The setting of a call. -/
def Call.setting : Call → Option Setting
  | .gainceiling ceiling => some ⟨.gainceiling, ceiling, ceiling⟩
  | .rawGma enable => some (.switch .rawGma enable)
  | .awb enable => some (.switch .awb enable)
  | .awbGain enable => some (.switch .awbGain enable)
  | .lenc enable => some (.switch .lenc enable)
  | .dcw enable => some (.switch .dcw enable)
  | .bpc enable => some (.switch .bpc enable)
  | .wpc enable => some (.switch .wpc enable)
  | .aec2 enable => some ⟨.aec2, BitVec.ofInt 8 enable, if enable ≠ 0 then 0 else 1⟩
  | .colorbar enable => some (.switch .colorbar enable)
  | .agc enable => some (.switch .agc enable)
  | .aec enable => some (.switch .aec enable)
  | .hmirror enable => some (.switch .hmirror enable)
  | .vflip enable => some (.switch .vflip enable)
  | _ => none

/-- The value of a setting is noted. -/
def DirectSensor.noteSetting (direct : DirectSensor) (setting : Setting) : DirectSensor :=
  direct.note fun status => setting.field.note setting.noted status

/-- The bits of a setting are written. -/
def DirectSensor.writeSetting (direct : DirectSensor) (setting : Setting) : DirectSensor :=
  direct.writeBits setting.field.place.1 setting.field.place.2.1 setting.field.place.2.2.1
    setting.field.place.2.2.2 setting.written

theorem DirectSensor.writeMask_eq (reg : Byte) (offset : Nat) (enable : Int) :
    direct.writeMask reg ((1 : Byte) <<< offset) enable =
      direct.writeBits bankSensor reg offset 1 (switchBit enable) := by
  have value : (if (if enable ≠ 0 then (1 : Int) else 0) ≠ 0 then (1 : Byte) <<< offset else 0) =
      switchBit enable <<< offset := by
    unfold switchBit
    by_cases off : enable = 0
    · simp [off]
    · simp [off]
  rw [DirectSensor.writeMask, value, DirectSensor.writeBits, setBits_shifted]
  rfl

/-- A setter notes the value and writes the bits.  The setter of `vflip` writes another bit of
the register before. -/
theorem act_setting (factory : Registers) {call : Call} {setting : Setting}
    (sets : call.setting = some setting) :
    call.act factory direct = (direct.noteSetting setting).writeSetting setting ∨
      ∃ value, call.act factory direct = DirectSensor.writeSetting
        ((direct.noteSetting setting).writeBits bankSensor reg04 4 1 value) setting := by
  cases call with
  | gainceiling | aec2 | rawGma | awb | awbGain | lenc | dcw | bpc | wpc =>
      cases sets
      exact Or.inl rfl
  | colorbar enable =>
      cases sets
      exact Or.inl (DirectSensor.writeMask_eq com7 1 enable)
  | agc enable =>
      cases sets
      exact Or.inl (DirectSensor.writeMask_eq com8 2 enable)
  | aec enable =>
      cases sets
      exact Or.inl (DirectSensor.writeMask_eq com8 0 enable)
  | hmirror enable =>
      cases sets
      exact Or.inl (DirectSensor.writeMask_eq reg04 7 enable)
  | vflip enable =>
      cases sets
      refine Or.inr ⟨switchBit enable, (DirectSensor.writeMask_eq reg04 6 enable).trans ?_⟩
      exact congrArg (fun d => d.writeBits bankSensor reg04 6 1 (switchBit enable))
        (DirectSensor.writeMask_eq reg04 4 enable)
  | detect | reset | initStatus | pixformat | framesize | resRaw | contrast | brightness
  | saturation | specialEffect | aeLevel | wbMode | quality | agcGain | aecValue | reg
  | sharpness | denoise | pll | getReg =>
      cases sets

/-- What a setter leaves alone: all bits but its own and the one of `vflip`. -/
theorem bits_act_setting (factory : Registers) {call : Call} {setting : Setting}
    (sets : call.setting = some setting) {bank reg mask : Byte} {offset : Nat}
    (fits : FieldFits offset mask)
    (apart : (bank, reg) ≠ setting.field.register ∨
      FieldsApart setting.field.place.2.2.1 setting.field.place.2.2.2 offset mask)
    (flip : (bank, reg) ≠ (bankSensor, reg04) ∨ FieldsApart 4 1 offset mask) :
    (call.act factory direct).bits bank reg offset mask = direct.bits bank reg offset mask := by
  rcases act_setting factory sets with same | ⟨value, same⟩
  · rw [same, DirectSensor.writeSetting, DirectSensor.bits_writeBits_other fits apart]
    rfl
  · rw [same, DirectSensor.writeSetting, DirectSensor.bits_writeBits_other fits apart,
      DirectSensor.bits_writeBits_other fits flip]
    rfl

theorem status_act_setting (factory : Registers) {call : Call} {setting : Setting}
    (sets : call.setting = some setting) :
    (call.act factory direct).status = setting.field.note setting.noted direct.status := by
  rcases act_setting factory sets with same | ⟨value, same⟩
  · rw [same]
    rfl
  · rw [same]
    rfl

/-- The bits of the field are the ones that are written. -/
theorem field_act_setting (factory : Registers) {call : Call} {setting : Setting}
    (sets : call.setting = some setting) :
    (call.act factory direct).field setting.field =
      setting.written &&& setting.field.place.2.2.2 := by
  rcases act_setting factory sets with same | ⟨value, same⟩
  · rw [same]
    exact DirectSensor.bits_writeBits setting.field.fits _
  · rw [same]
    exact DirectSensor.bits_writeBits setting.field.fits _

/-- A setter leaves the other fields alone. -/
theorem field_act_setting_other (factory : Registers) {call : Call} {setting : Setting}
    (sets : call.setting = some setting) (different : field ≠ setting.field) :
    (call.act factory direct).field field = direct.field field := by
  refine bits_act_setting factory sets field.fits (StatusField.apart different) ?_
  cases field <;> decide

/-! ## Calls that leave a field alone -/

/-- The call writes the register of the field without being its setter. -/
def Call.Disturbs (field : StatusField) : Call → Prop
  | .detect | .reset => True
  | .pixformat format => field = .aec2 ∧ format = .raw
  | .framesize _ | .resRaw .. => field = .aec2 ∨ field = .dcw ∨ field = .colorbar
  | .reg number _ _ => field.register = (regBankOf number, (number &&& 0xFF).setWidth 8)
  | _ => False

/-- A row of a table changes nothing but registers. -/
theorem DirectSensor.writeRow_kept {Value : Type} (get : DirectSensor → Value)
    (kept : ∀ (direct : DirectSensor) (bank reg value : Byte),
      get (direct.write bank reg value) = get direct) (bank : Byte) (regs : List (List Byte))
    (row : Nat) : get (direct.writeRow bank regs row) = get direct := by
  unfold DirectSensor.writeRow
  generalize (regs.getD 0 []).zip (regs.getD row []) = entries
  induction entries generalizing direct with
  | nil => rfl
  | cons entry entries ih =>
      rw [List.foldl_cons, ih]
      exact kept direct bank entry.1 entry.2

theorem DirectSensor.writeRow_status (bank : Byte) (regs : List (List Byte)) (row : Nat) :
    (direct.writeRow bank regs row).status = direct.status :=
  DirectSensor.writeRow_kept DirectSensor.status (fun _ _ _ _ => rfl) bank regs row

/-- A level changes only its own part of the status. -/
theorem DirectSensor.setLevel_status {Value : Type} (get : Status → Value) (bank : Byte)
    (regs : List (List Byte)) (shift count level : Int) {change : Status → Status}
    (kept : ∀ status, get (change status) = get status) :
    get (direct.setLevel bank regs shift count level change).status = get direct.status := by
  unfold DirectSensor.setLevel
  split
  next => rfl
  next =>
    rw [DirectSensor.writeRow_status]
    exact kept _

theorem DirectSensor.setWbMode_status {Value : Type} (get : Status → Value) (mode : Int)
    (kept : ∀ status : Status,
      get { status with wbMode := BitVec.ofInt 8 mode } = get status) :
    get (direct.setWbMode mode).status = get direct.status := by
  unfold DirectSensor.setWbMode
  split
  next => rfl
  next =>
    simp only
    split
    next =>
      rw [DirectSensor.writeRow_status]
      exact kept _
    next => exact kept _

theorem register_formatSettings {format : PixFormat} (calm : ¬(field = .aec2 ∧ format = .raw)) :
    field.register ∉ tableRegisters ((formatSettings format).getD []) := by
  cases field <;> cases format <;> first | exact absurd ⟨rfl, rfl⟩ calm | decide +kernel

theorem register_windowRegisters
    (calm : ¬(field = .aec2 ∨ field = .dcw ∨ field = .colorbar)) :
    field.register ∉ windowRegisters := by
  cases field with
  | aec2 => exact absurd (Or.inl rfl) calm
  | dcw => exact absurd (Or.inr (Or.inl rfl)) calm
  | colorbar => exact absurd (Or.inr (Or.inr rfl)) calm
  | gainceiling | awb | awbGain | aec | agc | bpc | wpc | rawGma | lenc | hmirror | vflip =>
      decide +kernel

/-- A call without a setting leaves the bits of a field alone that it does not disturb. -/
theorem field_act_calm (factory : Registers) {call : Call} (calm : ¬call.Disturbs field)
    (other : call.setting = none) : (call.act factory direct).field field = direct.field field := by
  cases call with
  | detect | reset => exact absurd trivial calm
  | initStatus | sharpness | denoise | pll | getReg => rfl
  | pixformat format =>
      exact DirectSensor.field_congr
        (DirectSensor.writeTable_registers (register_formatSettings calm))
  | framesize =>
      exact DirectSensor.field_congr
        (DirectSensor.setWindow_registers _ _ _ _ _ _ _ (register_windowRegisters calm))
  | resRaw =>
      exact DirectSensor.field_congr
        (DirectSensor.setWindow_registers _ _ _ _ _ _ _ (register_windowRegisters calm))
  | contrast | brightness | saturation | specialEffect | aeLevel | wbMode | quality | agcGain =>
      refine DirectSensor.field_congr (act_registers factory (by simp) ?_)
      simp only [Call.written]
      cases field <;> decide
  | aecValue value =>
      have middle : field.register ≠ (bankSensor, Register.aec) := by cases field <;> decide
      have high : field.register ≠ (bankSensor, reg45) := by cases field <;> decide
      have low : field.register ≠ (bankSensor, reg04) ∨
          FieldsApart 0 3 field.place.2.2.1 field.place.2.2.2 := by cases field <;> decide
      refine (DirectSensor.bits_writeBits_other field.fits (Or.inl high) _).trans ?_
      refine (DirectSensor.field_congr (DirectSensor.write_registers _ middle)).trans ?_
      exact DirectSensor.bits_writeBits_other field.fits low _
  | reg => exact DirectSensor.field_congr (DirectSensor.write_registers _ calm)
  | gainceiling | aec2 | rawGma | awb | awbGain | lenc | dcw | bpc | wpc | colorbar | agc | aec
  | hmirror | vflip => cases other

/-- A call without a setting does not change the fields of the status. -/
theorem status_act_calm (factory : Registers) (field : StatusField) {call : Call}
    (other : call.setting = none) (unread : call ≠ .initStatus) :
    field.get (call.act factory direct).status = field.get direct.status := by
  cases call with
  | initStatus => exact absurd rfl unread
  | detect | reset | pixformat | resRaw | reg | sharpness | denoise | pll | getReg => rfl
  | framesize | quality | agcGain | aecValue => cases field <;> rfl
  | contrast | brightness | saturation | specialEffect | aeLevel =>
      exact DirectSensor.setLevel_status (fun status => field.get status) _ _ _ _ _
        fun status => by cases field <;> rfl
  | wbMode =>
      exact DirectSensor.setWbMode_status (fun status => field.get status) _
        fun status => by cases field <;> rfl
  | gainceiling | aec2 | rawGma | awb | awbGain | lenc | dcw | bpc | wpc | colorbar | agc | aec
  | hmirror | vflip => cases other

/-! ## Values -/

/-- What `init_status` reads from the registers. -/
inductive Item where
  | field (field : StatusField)
  | quality
  | agcGain
  | aecValue
  deriving DecidableEq, Repr

/-- The value in the status. -/
def Item.noted (status : Status) : Item → BitVec 16
  | .field field => (field.get status).setWidth 16
  | .quality => status.quality.setWidth 16
  | .agcGain => status.agcGain.setWidth 16
  | .aecValue => status.aecValue

/-- The value in the registers. -/
def Item.read (direct : DirectSensor) : Item → BitVec 16
  | .field field => (direct.field field).setWidth 16
  | .quality => (direct.registers bankDsp qs).setWidth 16
  | .agcGain => (agcGainOf (direct.registers bankSensor Register.gain)).setWidth 16
  | .aecValue => direct.exposure

/-- The registers of a value. -/
def Item.registers : Item → List (Byte × Byte)
  | .field field => [field.register]
  | .quality => [(bankDsp, qs)]
  | .agcGain => [(bankSensor, Register.gain)]
  | .aecValue => [(bankSensor, reg45), (bankSensor, Register.aec), (bankSensor, reg04)]

/-- The call keeps the status right: if it writes the value, it notes what it writes. -/
def Item.Spares (call : Call) : Item → Prop
  | .field field => ¬call.Disturbs field ∧
      ∀ setting ∈ call.setting, setting.field = field →
        setting.noted = setting.written &&& field.place.2.2.2
  | item => call ≠ .detect ∧ call ≠ .reset ∧ ∀ number mask value, call = .reg number mask value →
      (regBankOf number, (number &&& 0xFF).setWidth 8) ∉ item.registers

/-- The value that a call sets. -/
def Call.value : Call → Option Item
  | .quality _ => some .quality
  | .agcGain _ => some .agcGain
  | .aecValue _ => some .aecValue
  | _ => none

variable {item : Item}

/-- After a run from a reset, the state is the one of what its calls are for. -/
theorem performAll_append_direct {bus : Bus} (reliable : bus.Reliable) (caching : Bool)
    {before after : List Call} (allowedBefore : ∀ call ∈ before, call.Allowed)
    (allowedAfter : ∀ call ∈ after, call.Allowed) (sensor : Sensor) :
    (performAll bus caching (.detect :: .reset :: (before ++ after)) sensor).2.direct =
      after.foldl (fun d call => call.act bus.factory.registers d)
        ((.reset :: before).foldl (fun d call => call.act bus.factory.registers d)
          sensor.direct) := by
  have allowed := List.forall_mem_append.mpr ⟨allowedBefore, allowedAfter⟩
  rw [(performAll_probed reliable caching allowed sensor).2.2, ← List.cons_append,
    List.foldl_append]

/-- A run that neither sets nor disturbs a field leaves its bits alone. -/
theorem field_foldl_calm (factory : Registers) {calls : List Call}
    (calm : ∀ call ∈ calls, ¬call.Disturbs field ∧
      ∀ setting ∈ call.setting, setting.field ≠ field) (direct : DirectSensor) :
    (calls.foldl (fun d call => call.act factory d) direct).field field = direct.field field := by
  induction calls generalizing direct with
  | nil => rfl
  | cons call calls ih =>
      rcases calm call List.mem_cons_self with ⟨undisturbed, other⟩
      rw [List.foldl_cons, ih fun next mem => calm next (List.mem_cons_of_mem _ mem)]
      cases sets : call.setting with
      | none => exact field_act_calm factory undisturbed sets
      | some setting => exact field_act_setting_other factory sets (Ne.symm (other setting sets))

/-- The status keeps the value as long as it is not read again. -/
theorem noted_foldl_calm (factory : Registers) {calls : List Call}
    (other : ∀ call ∈ calls, ∀ setting ∈ call.setting, setting.field ≠ field)
    (unread : Call.initStatus ∉ calls) (direct : DirectSensor) :
    field.get (calls.foldl (fun d call => call.act factory d) direct).status =
      field.get direct.status := by
  induction calls generalizing direct with
  | nil => rfl
  | cons call calls ih =>
      rw [List.mem_cons, not_or] at unread
      rw [List.foldl_cons, ih (fun next mem => other next (List.mem_cons_of_mem _ mem)) unread.2]
      cases sets : call.setting with
      | none => exact status_act_calm factory field sets (Ne.symm unread.1)
      | some setting =>
          have different := other call List.mem_cons_self setting sets
          rw [status_act_setting factory sets]
          exact StatusField.get_note_other (Ne.symm different) _ _

/-- The status of `aec2` is turned around when it is read: after the setter and any calls that
leave its bit alone, the status has the argument of the setter, and `init_status` changes it
to the opposite. -/
theorem aec2_read_inverted {bus : Bus} (reliable : bus.Reliable) (caching : Bool)
    {before after : List Call} (enable : Int)
    (allowedBefore : ∀ call ∈ before, call.Allowed) (allowedAfter : ∀ call ∈ after, call.Allowed)
    (calm : ∀ call ∈ after, ¬call.Disturbs .aec2 ∧
      ∀ setting ∈ call.setting, setting.field ≠ .aec2)
    (unread : Call.initStatus ∉ after) (sensor : Sensor) :
    let calls := before ++ .aec2 enable :: after
    let set := performAll bus caching (.detect :: .reset :: calls) sensor
    let read := performAll bus caching (.detect :: .reset :: (calls ++ [.initStatus])) sensor
    set.2.direct.status.aec2 = BitVec.ofInt 8 enable ∧
      read.2.direct.status.aec2 = if enable ≠ 0 then 0 else 1 := by
  have allowedLater : ∀ call ∈ Call.aec2 enable :: after, call.Allowed :=
    List.forall_mem_cons.mpr ⟨trivial, allowedAfter⟩
  have allowedRead : ∀ call ∈ [Call.initStatus], call.Allowed :=
    List.forall_mem_singleton.mpr trivial
  have allowedAll := List.forall_mem_append.mpr ⟨allowedBefore, allowedLater⟩
  simp only
  rw [performAll_append_direct reliable caching allowedAll allowedRead sensor, List.foldl_cons,
    List.foldl_nil, performAll_append_direct reliable caching allowedBefore allowedLater sensor,
    ← List.cons_append, List.foldl_append, List.foldl_cons]
  constructor
  · exact @noted_foldl_calm .aec2 _ _ (fun call mem => (calm call mem).2) unread _
  · refine (field_foldl_calm _ calm _).trans ?_
    refine (field_act_setting _ (rfl : (Call.aec2 enable).setting = some _)).trans ?_
    by_cases off : enable = 0
    · simp [off, StatusField.place]
    · simp [off]

/-- The switch is turned on in a gray picture. -/
theorem aec2_read_inverted_on :
    (performAll steadyBus true [.detect, .reset, .pixformat .grayscale, .aec2 1, .awb 1]
        (newSensor blankChip)).2.direct.status.aec2 = 1 ∧
      (performAll steadyBus true
        [.detect, .reset, .pixformat .grayscale, .aec2 1, .awb 1, .initStatus]
        (newSensor blankChip)).2.direct.status.aec2 = 0 := by
  have turned := @aec2_read_inverted steadyBus (fun _ => rfl) true [.pixformat .grayscale] [.awb 1]
    1 (by simp [Call.Allowed]) (by simp [Call.Allowed])
    (by simp [Call.Disturbs, Call.setting, Setting.switch]) (by decide) (newSensor blankChip)
  simp only [List.cons_append, List.nil_append] at turned
  exact turned

end ECam.Camera
