import ECam.Camera.SensorRegisters

/-!
# Calls of the sensor

What each call is for, without banks and transactions, and that on a bus without failures
the driver does it.  The variable with the selected bank then only saves transactions.

A failure while a bank is selected is not noticed later: the variable already has the new
bank, and the following calls for it write to the other one.
-/

namespace ECam.Camera

open ECam.Library
open ECam.ImageProcessing (PixFormat)
open Register

/-! ## What each call is for -/

namespace DirectSensor

variable (direct : DirectSensor)

/-- A setter with a table of levels. -/
def setLevel (bank : Byte) (regs : List (List Byte)) (shift count level : Int)
    (change : Status → Status) : DirectSensor :=
  if level + shift ≤ 0 ∨ level + shift > count then direct
  else (direct.note change).writeRow bank regs (level + shift).toNat

/-- The white balance. -/
def setWbMode (mode : Int) : DirectSensor :=
  if mode < 0 ∨ mode > 11 then
    direct
  else
    let noted := direct.note fun status => { status with wbMode := BitVec.ofInt 8 mode }
    let switched := noted.writeBits bankDsp 0xC7 6 1 (if mode ≠ 0 then 1 else 0)
    if mode ≠ 0 then switched.writeRow bankDsp wbModesRegs mode.toNat else switched

/-- The exposure, in three registers. -/
def setExposure (value : Int) : DirectSensor :=
  let exposure := BitVec.ofInt 16 (clamp 1200 value)
  let noted := direct.note fun status => { status with aecValue := exposure }
  let low := noted.writeBits bankSensor reg04 0 3 ((exposure &&& 3).setWidth 8)
  let middle := low.write bankSensor Register.aec ((exposure >>> 2 &&& 0xFF).setWidth 8)
  middle.writeBits bankSensor reg45 0 0x3F ((exposure >>> 10).setWidth 8)

/-- A switch with one bit. -/
def setFlag (bank reg : Byte) (offset : Nat) (change : Byte → Status → Status) (enable : Int) :
    DirectSensor :=
  (direct.note (change (BitVec.ofInt 8 enable))).writeBits bank reg offset 1
    (if enable ≠ 0 then 1 else 0)

/-- All bits of a mask. -/
def writeMask (reg mask : Byte) (enable : Int) : DirectSensor :=
  direct.writeBits bankSensor reg 0 mask
    (if (if enable ≠ 0 then (1 : Int) else 0) ≠ 0 then mask else 0)

/-- A switch with a mask. -/
def setSwitch (reg mask : Byte) (change : Byte → Status → Status) (enable : Int) : DirectSensor :=
  (direct.note (change (BitVec.ofInt 8 enable))).writeMask reg mask enable

/-- The mirror image from top to bottom. -/
def setVflip (enable : Int) : DirectSensor :=
  let noted := direct.note fun status => { status with vflip := BitVec.ofInt 8 enable }
  (noted.writeMask reg04 0x10 enable).writeMask reg04 0x40 enable

/-- The bits of a register. -/
def bits (bank reg : Byte) (offset : Nat) (mask : Byte) : Byte :=
  getBits (direct.registers bank reg) offset mask

/-- The exposure in the registers. -/
def exposure : BitVec 16 :=
  (direct.bits bankSensor reg45 0 0x3F).setWidth 16 <<< 10 |||
    (direct.registers bankSensor Register.aec).setWidth 16 <<< 2 |||
    (direct.bits bankSensor reg04 0 3).setWidth 16

/-- The bits of a field of the status. -/
def field (field : StatusField) : Byte :=
  direct.bits field.place.1 field.place.2.1 field.place.2.2.1 field.place.2.2.2

/-- The status that `init_status` reads. -/
def statusRead (status : Status) : Status where
  framesize := status.framesize
  quality := direct.registers bankDsp qs
  brightness := 0
  contrast := 0
  saturation := 0
  sharpness := 0
  denoise := 0
  specialEffect := 0
  wbMode := 0
  awb := direct.field .awb
  awbGain := direct.field .awbGain
  aec := direct.field .aec
  aec2 := direct.field .aec2
  aeLevel := 0
  aecValue := direct.exposure
  agc := direct.field .agc
  agcGain := agcGainOf (direct.registers bankSensor Register.gain)
  gainceiling := direct.field .gainceiling
  bpc := direct.field .bpc
  wpc := direct.field .wpc
  rawGma := direct.field .rawGma
  lenc := direct.field .lenc
  hmirror := direct.field .hmirror
  vflip := direct.field .vflip
  dcw := direct.field .dcw
  colorbar := direct.field .colorbar

/-- What `init_status` is for. -/
def readStatus : DirectSensor :=
  direct.note direct.statusRead

@[simp] theorem note_registers (change : Status → Status) :
    (direct.note change).registers = direct.registers :=
  rfl

@[simp] theorem note_field (change : Status → Status) (field : StatusField) :
    (direct.note change).field field = direct.field field :=
  rfl

@[simp] theorem note_exposure (change : Status → Status) :
    (direct.note change).exposure = direct.exposure :=
  rfl

theorem note_note (first second : Status → Status) :
    (direct.note first).note second = direct.note (second ∘ first) :=
  rfl

/-- The status does not change what is read. -/
theorem foldl_note (fields : List StatusField) (direct : DirectSensor) :
    fields.foldl (fun d field => d.note (field.note (d.field field) ·)) direct =
      direct.note fun status =>
        fields.foldl (fun status field => field.note (direct.field field) status) status := by
  induction fields generalizing direct with
  | nil => rfl
  | cons field fields ih =>
      rw [List.foldl_cons, ih]
      rfl

/-- The bits of the mask in the register of a number. -/
def getReg (reg mask : BitVec 32) : Int :=
  let ret := (direct.registers.peek (regBankOf reg) ((reg &&& 0xFF).setWidth 8)).setWidth 32
  (if ret.toInt > 0 then ret &&& mask else ret).toInt

/-- The register of a number gets the bits of the mask. -/
def setReg (reg mask value : BitVec 32) : DirectSensor :=
  direct.write (regBankOf reg) ((reg &&& 0xFF).setWidth 8)
    (((direct.registers (regBankOf reg) ((reg &&& 0xFF).setWidth 8)).setWidth 32 &&& ~~~mask |||
      value &&& mask).setWidth 8)

end DirectSensor

/-- What a call is for. -/
def Call.act (factory : Registers) (direct : DirectSensor) : Call → DirectSensor
  | .detect => direct
  | .reset => { direct with registers := factory.storeAll (tableWrites 0 ov2640SettingsCif) }
  | .pixformat format => direct.setFormat format
  | .framesize size =>
      let mode := (framesizeWindow size).1
      let ratio := (framesizeWindow size).2
      (direct.note fun status => { status with framesize := size }).setWindow mode
        (BitVec.ofNat 32 ratio.offsetX) (BitVec.ofNat 32 ratio.offsetY)
        (BitVec.ofNat 32 ratio.maxX) (BitVec.ofNat 32 ratio.maxY)
        (BitVec.ofNat 32 (resolution size).1) (BitVec.ofNat 32 (resolution size).2.1)
  | .resRaw startX offsetX offsetY totalX totalY outputX outputY =>
      direct.setWindow startX offsetX offsetY totalX totalY outputX outputY
  | .contrast level =>
      direct.setLevel bankDsp contrastRegs 3 5 level fun status => { status with contrast := level }
  | .brightness level =>
      direct.setLevel bankDsp brightnessRegs 3 5 level
        fun status => { status with brightness := level }
  | .saturation level =>
      direct.setLevel bankDsp saturationRegs 3 5 level
        fun status => { status with saturation := level }
  | .specialEffect effect =>
      direct.setLevel bankDsp specialEffectsRegs 1 7 effect
        fun status => { status with specialEffect := BitVec.ofInt 8 effect }
  | .aeLevel level =>
      direct.setLevel bankSensor aeLevelsRegs 3 5 level
        fun status => { status with aeLevel := level }
  | .wbMode mode => direct.setWbMode mode
  | .quality value =>
      (direct.note fun status => { status with quality := BitVec.ofInt 8 (clamp 63 value) }).write
        bankDsp qs (BitVec.ofInt 8 (clamp 63 value))
  | .agcGain gain =>
      (direct.note fun status => { status with agcGain := BitVec.ofInt 8 (clamp 30 gain) }).write
        bankSensor Register.gain (agcGainTbl.getD (clamp 30 gain).toNat 0)
  | .gainceiling ceiling =>
      (direct.note fun status => { status with gainceiling := ceiling }).writeBits bankSensor com9
        5 7 ceiling
  | .aecValue value => direct.setExposure value
  | .rawGma enable =>
      direct.setFlag bankDsp ctrl1 5 (fun value status => { status with rawGma := value }) enable
  | .awb enable =>
      direct.setFlag bankDsp ctrl1 3 (fun value status => { status with awb := value }) enable
  | .awbGain enable =>
      direct.setFlag bankDsp ctrl1 2 (fun value status => { status with awbGain := value }) enable
  | .lenc enable =>
      direct.setFlag bankDsp ctrl1 1 (fun value status => { status with lenc := value }) enable
  | .dcw enable =>
      direct.setFlag bankDsp ctrl2 5 (fun value status => { status with dcw := value }) enable
  | .bpc enable =>
      direct.setFlag bankDsp ctrl3 7 (fun value status => { status with bpc := value }) enable
  | .wpc enable =>
      direct.setFlag bankDsp ctrl3 6 (fun value status => { status with wpc := value }) enable
  | .aec2 enable =>
      (direct.note fun status => { status with aec2 := BitVec.ofInt 8 enable }).writeBits bankDsp
        ctrl0 6 1 (if enable ≠ 0 then 0 else 1)
  | .colorbar enable =>
      direct.setSwitch com7 0x02 (fun value status => { status with colorbar := value }) enable
  | .agc enable =>
      direct.setSwitch com8 0x04 (fun value status => { status with agc := value }) enable
  | .aec enable =>
      direct.setSwitch com8 0x01 (fun value status => { status with aec := value }) enable
  | .hmirror enable =>
      direct.setSwitch reg04 0x80 (fun value status => { status with hmirror := value }) enable
  | .vflip enable => direct.setVflip enable
  | .sharpness _ | .denoise _ | .pll | .getReg _ _ => direct
  | .reg number mask value => direct.setReg number mask value
  | .initStatus => direct.readStatus

/-- The code of a level. -/
def levelCode (shift count level : Int) : Int :=
  if level + shift ≤ 0 ∨ level + shift > count then -1 else 0

/-- The code of a call. -/
def Call.code (direct : DirectSensor) : Call → Int
  | .pixformat format => if (formatSettings format).isSome then 0 else -1
  | .contrast level | .brightness level | .saturation level | .aeLevel level =>
      levelCode 3 5 level
  | .specialEffect effect => levelCode 1 7 effect
  | .wbMode mode => if mode < 0 ∨ mode > 11 then -1 else 0
  | .sharpness _ | .denoise _ | .pll => -1
  | .getReg number mask => direct.getReg number mask
  | _ => 0

/-- The codes of a sequence of calls. -/
def codes (factory : Registers) : List Call → DirectSensor → List Int
  | [], _ => []
  | call :: calls, direct => call.code direct :: codes factory calls (call.act factory direct)

/-- A number of `set_reg` must not name `BANK_SEL`, and must not start a reset.  The sensor is
detected before it is used. -/
def Call.Allowed : Call → Prop
  | .detect => False
  | .reg number mask value =>
      (number &&& 0xFF).setWidth 8 ≠ bankSel ∧
        ¬StartsReset (regBankOf number) ((number &&& 0xFF).setWidth 8)
          ((value &&& mask).setWidth 8)
  | _ => True

/-! ## The driver does it -/

section Acts

variable {bus : Bus} {caching : Bool} (reliable : bus.Reliable)

include reliable

/-- A row of a table whose registers neither select a bank nor start a reset. -/
theorem acts_writeRow {bank : Byte} {regs : List (List Byte)} (isBank : IsBank bank)
    (plain : ∀ reg ∈ regs.getD 0 [], reg ≠ bankSel ∧ ¬(bank = bankSensor ∧ reg = com7))
    (row : Nat) :
    Fallible.Acts Sensor.Selected Sensor.direct (writeRow bus caching bank regs row) 0
      (fun d => d.writeRow bank regs row) := by
  apply Fallible.Acts.sequence
  intro entry mem
  rcases plain entry.1 (List.of_mem_zip mem).1 with ⟨inside, other⟩
  exact acts_writeReg reliable isBank inside fun reset => other ⟨reset.1, reset.2.1⟩

theorem acts_setLevel {bank : Byte} {regs : List (List Byte)} (isBank : IsBank bank)
    (plain : ∀ reg ∈ regs.getD 0 [], reg ≠ bankSel ∧ ¬(bank = bankSensor ∧ reg = com7))
    (shift count level : Int) (change : Status → Status) :
    Fallible.Acts Sensor.Selected Sensor.direct
      (setLevel bus caching bank regs shift count level change) (levelCode shift count level)
      (fun d => d.setLevel bank regs shift count level change) := by
  unfold setLevel levelCode DirectSensor.setLevel
  split
  next => exact acts_answer (-1)
  next => exact (acts_note change).andThen (acts_writeRow reliable isBank plain _)

theorem acts_setWbMode (mode : Int) :
    Fallible.Acts Sensor.Selected Sensor.direct (setWbMode bus caching mode)
      (if mode < 0 ∨ mode > 11 then -1 else 0) (fun d => d.setWbMode mode) := by
  unfold setWbMode DirectSensor.setWbMode
  split
  next => exact acts_answer (-1)
  next =>
    have noted := acts_note fun status => { status with wbMode := BitVec.ofInt 8 mode }
    have switched := fun value => @acts_setRegBits bus caching bankDsp reliable 0xC7 1 value 6
      (Or.inl rfl) (by decide) (by simp)
    split
    next =>
      have row := @acts_writeRow bus caching reliable bankDsp wbModesRegs (Or.inl rfl) (by decide)
        mode.toNat
      exact noted.andThen ((switched 1).andThen (row.andThen (acts_answer 0)))
    next => exact noted.andThen ((switched 0).andThen ((acts_answer 0).andThen (acts_answer 0)))

theorem acts_setFlag (reg : Byte) (inside : reg ≠ bankSel) (offset : Nat)
    (change : Byte → Status → Status) (enable : Int) :
    Fallible.Acts Sensor.Selected Sensor.direct
      (setFlag bus caching bankDsp reg offset change enable) 0
      (fun d => d.setFlag bankDsp reg offset change enable) :=
  (acts_note _).andThen
    (acts_setRegBits reliable (Or.inl rfl) inside fun same => absurd same.1 (by decide))

theorem acts_writeRegBits {reg mask : Byte} (inside : reg ≠ bankSel)
    (apart : reg = com7 → FieldsApart 0 mask 0 com7Srst) (enable : Int) :
    Fallible.Acts Sensor.Selected Sensor.direct
      (writeRegBits bus caching bankSensor reg mask (if enable ≠ 0 then 1 else 0)) 0
      (fun d => d.writeMask reg mask enable) :=
  acts_setRegBits reliable (Or.inr rfl) inside fun same => apart same.2

theorem acts_setSwitch (reg mask : Byte) (inside : reg ≠ bankSel)
    (apart : reg = com7 → FieldsApart 0 mask 0 com7Srst) (change : Byte → Status → Status)
    (enable : Int) :
    Fallible.Acts Sensor.Selected Sensor.direct (setSwitch bus caching reg mask change enable) 0
      (fun d => d.setSwitch reg mask change enable) :=
  (acts_note _).andThen (acts_writeRegBits reliable inside apart enable)

theorem acts_setVflip (enable : Int) :
    Fallible.Acts Sensor.Selected Sensor.direct (setVflipSensor bus caching enable) 0
      (fun d => d.setVflip enable) := by
  have noted := acts_note fun status => { status with vflip := BitVec.ofInt 8 enable }
  have first := @acts_writeRegBits bus caching reliable reg04 0x10 (by decide) (by decide) enable
  have second := @acts_writeRegBits bus caching reliable reg04 0x40 (by decide) (by decide) enable
  exact noted.andThen (first.both second)

theorem acts_setAecValue (value : Int) :
    Fallible.Acts Sensor.Selected Sensor.direct (setAecValue bus caching value) 0
      (fun d => d.setExposure value) := by
  have noted := acts_note fun status =>
    { status with aecValue := BitVec.ofInt 16 (clamp 1200 value) }
  have low := @acts_setRegBits bus caching bankSensor reliable reg04 3
    ((BitVec.ofInt 16 (clamp 1200 value) &&& 3).setWidth 8) 0 (Or.inr rfl) (by decide) (by decide)
  have middle := @acts_writeReg bus caching bankSensor reliable Register.aec
    ((BitVec.ofInt 16 (clamp 1200 value) >>> 2 &&& 0xFF).setWidth 8) (Or.inr rfl) (by decide)
    (by simp [StartsReset])
  have high := @acts_setRegBits bus caching bankSensor reliable reg45 0x3F
    ((BitVec.ofInt 16 (clamp 1200 value) >>> 10).setWidth 8) 0 (Or.inr rfl) (by decide) (by decide)
  exact (noted.andThen (low.andThen (middle.andThen (high.andThen (acts_answer 0))))).recode
    fun code => if code = 0 then 0 else 1

omit reliable in
theorem isBank_regBankOf (reg : BitVec 32) : IsBank (regBankOf reg) := by
  have split : ∀ bits : BitVec 32, bits &&& 1 = 0 ∨ bits &&& 1 = 1 := by
    intro bits
    rcases Nat.mod_two_eq_zero_or_one bits.toNat with even | odd
    · exact Or.inl (BitVec.eq_of_toNat_eq (by simpa [Nat.and_one_is_mod] using even))
    · exact Or.inr (BitVec.eq_of_toNat_eq (by simpa [Nat.and_one_is_mod] using odd))
  unfold regBankOf IsBank
  rcases split (reg.sshiftRight 8) with low | low
  · exact Or.inl (by rw [low]; rfl)
  · exact Or.inr (by rw [low]; rfl)

/-- The bits that start a reset come from the value. -/
theorem acts_setReg {reg mask value : BitVec 32} (allowed : (Call.reg reg mask value).Allowed) :
    Fallible.Acts Sensor.Selected Sensor.direct (setReg bus caching reg mask value) 0
      (fun d => d.setReg reg mask value) := by
  apply Fallible.Acts.of_result
  intro sensor selected
  rcases @readReg_eq bus caching sensor (regBankOf reg) reliable _ (isBank_regBankOf reg) allowed.1
    selected with ⟨last, read, kept, same⟩
  have plain : ¬StartsReset (regBankOf reg) ((reg &&& 0xFF).setWidth 8)
      (((sensor.direct.registers (regBankOf reg) ((reg &&& 0xFF).setWidth 8)).setWidth 32 &&&
        ~~~mask ||| value &&& mask).setWidth 8) := by
    rintro ⟨bank, number, set⟩
    have current : sensor.direct.registers bankSensor com7 &&& com7Srst = 0 := selected.quiet
    have written : (value &&& mask).setWidth 8 &&& com7Srst = 0 := by
      by_contra nonzero
      exact allowed.2 ⟨bank, number, nonzero⟩
    rw [bank, number] at set
    apply set
    have joined : ((sensor.direct.registers bankSensor com7).setWidth 32 &&& ~~~mask |||
        value &&& mask).setWidth 8 &&& com7Srst =
          (sensor.direct.registers bankSensor com7 &&& com7Srst) &&& ~~~(mask.setWidth 8) |||
            ((value &&& mask).setWidth 8 &&& com7Srst) := by
      ext index inside
      simp
      grind
    rw [joined, current, written]
    simp
  have acts := @acts_writeReg bus caching (regBankOf reg) reliable _ _ (isBank_regBankOf reg)
    allowed.1 plain
  refine ⟨_, ?_, acts.keeps last kept, ?_⟩
  · simp only [setReg, read]
    exact Prod.ext (acts.code last kept) rfl
  · rw [acts.view last kept, same]
    rfl

omit reliable in
/-- A field gets what was read. -/
theorem acts_noteRead {Value : Type} {read : Sensor → Value × Sensor} {value : DirectSensor → Value}
    (reads : ∀ sensor : Sensor, sensor.Selected →
      ∃ last, read sensor = (value sensor.direct, last) ∧ last.Selected ∧
        last.direct = sensor.direct) (change : Value → Status → Status) :
    Fallible.Acts Sensor.Selected Sensor.direct (noteRead read change) 0
      (fun d => d.note (change (value d))) := by
  apply Fallible.Acts.of_result
  intro sensor selected
  rcases reads sensor selected with ⟨last, done, kept, same⟩
  refine ⟨{ last with status := change (value sensor.direct) last.status }, ?_,
    ⟨kept.selectable, kept.quiet⟩, ?_⟩
  · simp only [noteRead, done]
  · rw [← same]
    rfl

theorem getRegBits_eq {bank reg : Byte} (isBank : IsBank bank) (inside : reg ≠ bankSel)
    (offset : Nat) (mask : Byte) (sensor : Sensor) (selected : sensor.Selected) :
    ∃ last, getRegBits bus caching bank reg offset mask sensor =
        (sensor.direct.bits bank reg offset mask, last) ∧
      last.Selected ∧ last.direct = sensor.direct := by
  rcases @readReg_eq bus caching sensor bank reliable reg isBank inside selected with
    ⟨last, read, kept, same⟩
  refine ⟨last, ?_, kept, same⟩
  simp only [getRegBits, read, DirectSensor.bits]

theorem readAecValue_eq (sensor : Sensor) (selected : sensor.Selected) :
    ∃ last, readAecValue bus caching sensor = (sensor.direct.exposure, last) ∧
      last.Selected ∧ last.direct = sensor.direct := by
  rcases @getRegBits_eq bus caching reliable bankSensor reg45 (Or.inr rfl) (by decide) 0 0x3F
    sensor selected with ⟨first, high, firstSelected, firstSame⟩
  rcases @readReg_eq bus caching first bankSensor reliable Register.aec (Or.inr rfl) (by decide)
    firstSelected with ⟨second, middle, secondSelected, secondSame⟩
  rcases @getRegBits_eq bus caching reliable bankSensor reg04 (Or.inr rfl) (by decide) 0 3
    second secondSelected with ⟨last, low, kept, same⟩
  refine ⟨last, ?_, kept, same.trans (secondSame.trans firstSame)⟩
  simp only [readAecValue, high, middle, low, secondSame, firstSame, DirectSensor.exposure]

theorem acts_noteBits {bank reg : Byte} (isBank : IsBank bank) (inside : reg ≠ bankSel)
    (offset : Nat) (mask : Byte) (change : Byte → Status → Status) :
    Fallible.Acts Sensor.Selected Sensor.direct
      (noteRead (getRegBits bus caching bank reg offset mask) change) 0
      (fun d => d.note (change (d.bits bank reg offset mask))) :=
  acts_noteRead (getRegBits_eq reliable isBank inside offset mask) change

theorem acts_noteReg {bank reg : Byte} (isBank : IsBank bank) (inside : reg ≠ bankSel)
    (change : Byte → Status → Status) :
    Fallible.Acts Sensor.Selected Sensor.direct (noteRead (readReg bus caching bank reg) change) 0
      (fun d => d.note (change (d.registers bank reg))) :=
  acts_noteRead (fun _ selected => readReg_eq reliable isBank inside selected) change

theorem acts_initStatus :
    Fallible.Acts Sensor.Selected Sensor.direct (initStatus bus caching) 0
      (fun d => d.readStatus) := by
  have zeros := acts_note fun status => { status with
    brightness := 0, contrast := 0, saturation := 0, aeLevel := 0, specialEffect := 0, wbMode := 0 }
  have gain := @acts_noteReg bus caching reliable bankSensor Register.gain (Or.inr rfl) (by decide)
    fun value status => { status with agcGain := agcGainOf value }
  have exposure := acts_noteRead (@readAecValue_eq bus caching reliable)
    fun value status => { status with aecValue := value }
  have quality := @acts_noteReg bus caching reliable bankDsp qs (Or.inl rfl) (by decide)
    fun value status => { status with quality := value }
  have bits : Fallible.Acts Sensor.Selected Sensor.direct (Fallible.sequence
      (statusFields.map fun field =>
        noteRead (getRegBits bus caching field.place.1 field.place.2.1 field.place.2.2.1
          field.place.2.2.2) fun value status => field.note value status)) 0
      (fun d => statusFields.foldl (fun d field => d.note (field.note (d.field field) ·)) d) := by
    apply Fallible.Acts.sequence
    intro field _
    have valid : IsBank field.place.1 ∧ field.place.2.1 ≠ bankSel := by cases field <;> decide
    exact acts_noteBits reliable valid.1 valid.2 _ _ _
  have rest := acts_note fun status => { status with sharpness := 0, denoise := 0 }
  have all := (zeros.andThen (gain.andThen (exposure.andThen (quality.andThen
    (acts_answer 0))))).andThen (bits.andThen rest)
  refine ⟨all.code, all.keeps, ?_⟩
  intro sensor selected
  refine (all.view sensor selected).trans ?_
  simp only [Function.comp_apply, DirectSensor.foldl_note, DirectSensor.note_note,
    DirectSensor.note_registers,
    DirectSensor.note_exposure, DirectSensor.note_field, id]
  refine congrArg sensor.direct.note (funext fun status => ?_)
  simp only [Function.comp_apply, statusFields, List.foldl_cons, List.foldl_nil,
    StatusField.note, DirectSensor.statusRead]

/-- Every allowed call does what it is for; the codes of most calls do not depend on the
registers. -/
theorem acts_perform {call : Call} (allowed : call.Allowed)
    (plain : ∀ reg mask, call ≠ .getReg reg mask) (direct : DirectSensor) :
    Fallible.Acts Sensor.Selected Sensor.direct (perform bus caching call) (call.code direct)
      (fun d => call.act bus.factory.registers d) := by
  have dsp : IsBank bankDsp := Or.inl rfl
  cases call with
  | detect => cases allowed
  | reset =>
      apply Fallible.Acts.of_result
      intro sensor selected
      exact sensorReset_eq reliable (selected.selectable bankSensor (Or.inr rfl))
  | pixformat => exact acts_setPixformat reliable _
  | framesize => exact (acts_note _).andThen (acts_setWindow reliable _ _ _ _ _ _ _)
  | resRaw => exact acts_setWindow reliable _ _ _ _ _ _ _
  | contrast => exact acts_setLevel reliable dsp (by decide) 3 5 _ _
  | brightness => exact acts_setLevel reliable dsp (by decide) 3 5 _ _
  | saturation => exact acts_setLevel reliable dsp (by decide) 3 5 _ _
  | specialEffect => exact acts_setLevel reliable dsp (by decide) 1 7 _ _
  | aeLevel => exact acts_setLevel reliable (Or.inr rfl) (by decide) 3 5 _ _
  | wbMode => exact acts_setWbMode reliable _
  | quality =>
      exact (acts_note _).andThen (acts_writeReg reliable dsp (by decide) (by simp [StartsReset]))
  | agcGain =>
      exact (acts_note _).andThen
        (acts_writeReg reliable (Or.inr rfl) (by decide) (by simp [StartsReset]))
  | gainceiling =>
      exact (acts_note _).andThen (acts_setRegBits reliable (Or.inr rfl) (by decide) (by decide))
  | aecValue => exact acts_setAecValue reliable _
  | rawGma | awb | awbGain | lenc =>
      simp only [perform, Call.act]
      exact acts_setFlag reliable ctrl1 (by decide) _ _ _
  | dcw =>
      simp only [perform, Call.act]
      exact acts_setFlag reliable ctrl2 (by decide) _ _ _
  | bpc | wpc =>
      simp only [perform, Call.act]
      exact acts_setFlag reliable ctrl3 (by decide) _ _ _
  | aec2 => exact (acts_note _).andThen (acts_setRegBits reliable dsp (by decide) (by decide))
  | colorbar =>
      simp only [perform, Call.act]
      exact acts_setSwitch reliable com7 0x02 (by decide) (by decide) _ _
  | agc =>
      simp only [perform, Call.act]
      exact acts_setSwitch reliable com8 0x04 (by decide) (by decide) _ _
  | aec =>
      simp only [perform, Call.act]
      exact acts_setSwitch reliable com8 0x01 (by decide) (by decide) _ _
  | hmirror =>
      simp only [perform, Call.act]
      exact acts_setSwitch reliable reg04 0x80 (by decide) (by decide) _ _
  | vflip => exact acts_setVflip reliable _
  | sharpness | denoise | pll => exact acts_answer (-1)
  | getReg reg mask => exact absurd rfl (plain reg mask)
  | reg => exact acts_setReg reliable allowed
  | initStatus => exact acts_initStatus reliable

theorem perform_eq {call : Call} (allowed : call.Allowed) {sensor : Sensor}
    (selected : sensor.Selected) :
    ∃ last, perform bus caching call sensor = (call.code sensor.direct, last) ∧
      last.Selected ∧ last.direct = call.act bus.factory.registers sensor.direct := by
  by_cases plain : ∀ reg mask, call ≠ .getReg reg mask
  · have acts := @acts_perform bus caching reliable call allowed plain sensor.direct
    exact ⟨_, Prod.ext (acts.code sensor selected) rfl, acts.keeps sensor selected,
      acts.view sensor selected⟩
  · simp only [not_forall, not_not] at plain
    rcases plain with ⟨reg, mask, rfl⟩
    rcases @readReg_peek bus caching sensor _ reliable (isBank_regBankOf reg)
      ((reg &&& 0xFF).setWidth 8) selected with ⟨last, read, kept, same⟩
    refine ⟨last, ?_, kept, same⟩
    simp only [perform, getReg, read]
    rfl

end Acts

/-! ## Runs -/

/-- The codes of a sequence of calls and the sensor after it. -/
def performAll (bus : Bus) (caching : Bool) : List Call → Sensor → List Int × Sensor
  | [], sensor => ([], sensor)
  | call :: calls, sensor =>
      let done := perform bus caching call sensor
      let rest := performAll bus caching calls done.2
      (done.1 :: rest.1, rest.2)

variable {bus : Bus}

/-- A sequence of allowed calls does what they are for. -/
theorem performAll_acts (reliable : bus.Reliable) (caching : Bool) {calls : List Call}
    (allowed : ∀ call ∈ calls, call.Allowed) {sensor : Sensor} (selected : sensor.Selected) :
    (performAll bus caching calls sensor).1 =
        codes bus.factory.registers calls sensor.direct ∧
      (performAll bus caching calls sensor).2.Selected ∧
      (performAll bus caching calls sensor).2.direct =
        calls.foldl (fun d call => call.act bus.factory.registers d) sensor.direct := by
  induction calls generalizing sensor with
  | nil => exact ⟨rfl, selected, rfl⟩
  | cons call calls ih =>
      rcases @perform_eq bus caching reliable call (allowed call List.mem_cons_self) sensor
        selected with ⟨last, done, lastSelected, acted⟩
      rcases ih (fun other mem => allowed other (List.mem_cons_of_mem _ mem)) lastSelected with
        ⟨answered, kept, same⟩
      rw [acted] at answered same
      simp only [performAll, done]
      exact ⟨by rw [codes, answered], kept, same⟩

/-- The bank of the sensor is selected, and nothing is written. -/
theorem ov2640Detect_eq (reliable : bus.Reliable) (sensor : Sensor) :
    (ov2640Detect bus sensor).2.chip = { sensor.chip with selected := bankSensor } ∧
      (ov2640Detect bus sensor).2.direct = sensor.direct := by
  have write : ∀ sensor : Sensor, sccbWrite bus bankSel bankSensor sensor =
      (0, { sensor with
        chip := { sensor.chip with selected := bankSensor }
        clock := sensor.clock + 1 }) := by
    intro sensor
    simp only [sccbWrite, reliable sensor.clock, Chip.write, if_true]
  have read : ∀ (reg : Byte) (sensor : Sensor), (sccbRead bus reg sensor).2 =
      { sensor with clock := sensor.clock + 1 } := by
    intro reg sensor
    simp only [sccbRead, reliable sensor.clock]
  simp only [ov2640Detect, write]
  split
  next =>
    rw [read, read, read, read]
    exact ⟨rfl, rfl⟩
  next =>
    rw [read]
    exact ⟨rfl, rfl⟩

/-- From whatever state the sensor is detected and reset in, the calls then do what they are
for. -/
theorem performAll_probed (reliable : bus.Reliable) (caching : Bool) {calls : List Call}
    (allowed : ∀ call ∈ calls, call.Allowed) (sensor : Sensor) :
    (performAll bus caching (.detect :: .reset :: calls) sensor).1 =
        (ov2640Detect bus sensor).1 ::
          codes bus.factory.registers (.reset :: calls) sensor.direct ∧
      (performAll bus caching (.detect :: .reset :: calls) sensor).2.Selected ∧
      (performAll bus caching (.detect :: .reset :: calls) sensor).2.direct =
        (.reset :: calls).foldl (fun d call => call.act bus.factory.registers d) sensor.direct := by
  rcases ov2640Detect_eq reliable sensor with ⟨chip, same⟩
  have selectable : (ov2640Detect bus sensor).2.Selectable bankSensor := by
    intro _
    rw [chip]
  rcases @sensorReset_eq bus caching _ reliable selectable with ⟨last, done, selected, direct⟩
  rcases performAll_acts reliable caching allowed selected with ⟨answered, kept, acted⟩
  rw [direct, same] at answered acted
  simp only [performAll, perform, done]
  exact ⟨by rw [answered]; rfl, kept, acted⟩

/-- On a bus without failures, after the sensor was detected and reset from whatever state, the
variable with the selected bank only saves transactions: every sequence of calls has the
same codes and leaves the same registers, format and status as without it. -/
theorem selected_bank_transparent (reliable : bus.Reliable) {calls : List Call}
    (allowed : ∀ call ∈ calls, call.Allowed) (sensor : Sensor) :
    (performAll bus true (.detect :: .reset :: calls) sensor).1 =
        (performAll bus false (.detect :: .reset :: calls) sensor).1 ∧
      (performAll bus true (.detect :: .reset :: calls) sensor).2.direct =
        (performAll bus false (.detect :: .reset :: calls) sensor).2.direct := by
  rcases performAll_probed reliable true allowed sensor with ⟨cachedCodes, -, cachedDirect⟩
  rcases performAll_probed reliable false allowed sensor with ⟨plainCodes, -, plainDirect⟩
  constructor
  · rw [cachedCodes, plainCodes]
  · rw [cachedDirect, plainDirect]

/-- `sensor_t` as `calloc` returns it, with the variable and a sensor in the states they have
after power on. -/
def newSensor (factory : Chip) : Sensor where
  regBank := bankMax
  chip := factory
  clock := 0
  pixformat := .rgb565
  status := ⟨.size96x96, 0, 0, 0, 0, 0, 0, 0, 0, 0, 0, 0, 0, 0, 0, 0, 0, 0, 0, 0, 0, 0, 0, 0, 0, 0⟩

/-- A sensor whose registers are all zero. -/
def blankChip : Chip :=
  ⟨0, fun _ _ => 0⟩

/-- Its bus, without failures. -/
def steadyBus : Bus :=
  ⟨blankChip, fun _ => none⟩

/-- The settings of raw frames. -/
theorem selected_bank_transparent_raw :
    (performAll steadyBus true
        [.detect, .reset, .framesize .uxga, .pixformat .raw, .bpc 0, .wpc 1, .lenc 1,
          .getReg 0x10A 0xFF, .initStatus]
        (newSensor blankChip)).1 =
      (performAll steadyBus false
        [.detect, .reset, .framesize .uxga, .pixformat .raw, .bpc 0, .wpc 1, .lenc 1,
          .getReg 0x10A 0xFF, .initStatus]
        (newSensor blankChip)).1 :=
  (@selected_bank_transparent steadyBus (fun _ => rfl)
    [.framesize .uxga, .pixformat .raw, .bpc 0, .wpc 1, .lenc 1, .getReg 0x10A 0xFF, .initStatus]
    (by simp [Call.Allowed]) (newSensor blankChip)).1

/-! ## A bank that was not selected -/

variable {sensor : Sensor} {bank other : Byte}

/-- The functions that write to a bank: `write_reg`, `set_reg_bits`, and `write_regs` with a
table that selects the bank. -/
inductive BankWrite where
  | reg (reg value : Byte)
  | bits (reg : Byte) (offset : Nat) (mask value : Byte)
  | table (entries : List (Byte × Byte))
  deriving DecidableEq, Repr

namespace BankWrite

/-- What the driver does, with the variable. -/
def perform (bus : Bus) (bank : Byte) : BankWrite → Fallible Sensor
  | .reg number value => writeReg bus true bank number value
  | .bits number offset mask value => setRegBits bus true bank number offset mask value
  | .table entries => writeRegs bus true ((bankSel, bank) :: entries)

/-- The registers after a write to a bank. -/
def store (bank : Byte) (registers : Registers) : BankWrite → Registers
  | .reg number value => registers.store bank number value
  | .bits number offset mask value =>
      registers.store bank number (setBits (registers bank number) offset mask value)
  | .table entries => registers.storeAll (entries.map fun entry => (bank, entry.1, entry.2))

/-- The write selects no other bank and does not start a reset. -/
def Plain (bank : Byte) (registers : Registers) : BankWrite → Prop
  | .reg number value => number ≠ bankSel ∧ ¬StartsReset bank number value
  | .bits number offset mask value => number ≠ bankSel ∧
      ¬StartsReset bank number (setBits (registers bank number) offset mask value)
  | .table entries => ∀ entry ∈ entries,
      entry.1 ≠ 0 ∧ entry.1 ≠ bankSel ∧ ¬StartsReset bank entry.1 entry.2

instance (bank : Byte) (registers : Registers) :
    ∀ write : BankWrite, Decidable (write.Plain bank registers)
  | .reg .. => inferInstanceAs (Decidable (_ ∧ _))
  | .bits .. => inferInstanceAs (Decidable (_ ∧ _))
  | .table entries => List.decidableBAll _ entries

end BankWrite

section Misled

variable {registers : Registers} {clock : Nat}

theorem setBank_misled :
    setBank bus true bank (sensor.misled bank other registers clock) =
      (0, sensor.misled bank other registers clock) :=
  if_pos ⟨rfl, rfl⟩

theorem writeRegs_misled (isOther : IsBank other)
    (later : ∀ number, clock ≤ number → bus.answers number = none) {entries : List (Byte × Byte)}
    (plain : ∀ entry ∈ entries,
      entry.1 ≠ 0 ∧ entry.1 ≠ bankSel ∧ ¬StartsReset other entry.1 entry.2) :
    writeRegs bus true entries (sensor.misled bank other registers clock) =
      (0, sensor.misled bank other
        (registers.storeAll (entries.map fun entry => (other, entry.1, entry.2)))
        (clock + entries.length)) := by
  induction entries generalizing registers clock with
  | nil => rfl
  | cons entry entries ih =>
      rcases plain entry List.mem_cons_self with ⟨nonzero, inside, quiet⟩
      have first := @sccbWrite_misled bus sensor bank other registers clock isOther
        (later clock le_rfl) entry.1 entry.2 inside quiet
      have next := @ih (registers.store other entry.1 entry.2) (clock + 1)
        (fun number passed => later number (by omega))
        (fun other mem => plain other (List.mem_cons_of_mem _ mem))
      rw [writeRegs, if_neg nonzero, if_neg inside, Fallible.andThen_of_success first, next,
        List.length_cons, Nat.add_assoc, Nat.add_comm 1]
      rfl

/-- A write to the bank in the variable succeeds and goes to the other one. -/
theorem BankWrite.perform_misled (isOther : IsBank other)
    (later : ∀ number, clock ≤ number → bus.answers number = none) {write : BankWrite}
    (plain : write.Plain other registers) :
    ∃ last, clock ≤ last ∧ write.perform bus bank (sensor.misled bank other registers clock) =
      (0, sensor.misled bank other (write.store other registers) last) := by
  cases write with
  | reg number value =>
      refine ⟨clock + 1, Nat.le_succ clock, ?_⟩
      rw [BankWrite.perform, writeReg, Fallible.andThen_of_success setBank_misled]
      exact sccbWrite_misled isOther (later clock le_rfl) plain.1 plain.2
  | bits number offset mask value =>
      refine ⟨clock + 1 + 1, by omega, ?_⟩
      rw [BankWrite.perform, setRegBits, Fallible.andThen_of_success setBank_misled]
      simp only [sccbRead_misled isOther (later clock le_rfl) number, Registers.peek,
        if_neg plain.1]
      exact sccbWrite_misled isOther (later (clock + 1) (Nat.le_succ clock)) plain.1 plain.2
  | table entries =>
      refine ⟨clock + entries.length, Nat.le_add_right clock _, ?_⟩
      rw [BankWrite.perform, writeRegs, if_neg (by decide), if_pos rfl,
        Fallible.andThen_of_success setBank_misled]
      exact writeRegs_misled isOther later plain

theorem BankWrite.performAll_misled (isOther : IsBank other)
    (later : ∀ number, clock ≤ number → bus.answers number = none) {writes : List BankWrite}
    (plain : EachStep (BankWrite.store other) (BankWrite.Plain other) registers writes) :
    ∃ last, clock ≤ last ∧
      Fallible.sequence (writes.map (BankWrite.perform bus bank))
          (sensor.misled bank other registers clock) =
        (0, sensor.misled bank other (writes.foldl (BankWrite.store other) registers) last) := by
  induction writes generalizing registers clock with
  | nil => exact ⟨clock, le_rfl, rfl⟩
  | cons write writes ih =>
      rcases @BankWrite.perform_misled bus sensor bank other registers clock isOther later write
        plain.1 with ⟨middle, passed, first⟩
      rcases @ih (write.store other registers) middle
        (fun number beyond => later number (by omega)) plain.2 with ⟨last, beyond, next⟩
      refine ⟨last, by omega, ?_⟩
      rw [List.map_cons, Fallible.sequence, Fallible.andThen_of_success first, next]
      rfl

end Misled

/-- If a bank cannot be selected, the call fails.  All following writes to this bank succeed
and go to the other bank, until a call for the other bank selects it. -/
theorem failed_selection_misdirects (isOther : IsBank other) (different : bank ≠ other)
    (inVariable : sensor.regBank = other) (inSensor : sensor.chip.selected = other)
    (fails : bus.answers sensor.clock ≠ none)
    (later : ∀ number, sensor.clock < number → bus.answers number = none) (first : BankWrite)
    {writes : List BankWrite}
    (plain : EachStep (BankWrite.store other) (BankWrite.Plain other) sensor.chip.registers
      writes) :
    let failed := first.perform bus bank sensor
    let after := Fallible.sequence (writes.map (BankWrite.perform bus bank)) failed.2
    let selected := setBank bus true other after.2
    failed.1 ≠ 0 ∧ after.1 = 0 ∧
      after.2.chip.registers = writes.foldl (BankWrite.store other) sensor.chip.registers ∧
      selected.1 = 0 ∧ selected.2.regBank = other ∧ selected.2.chip.selected = other := by
  have failed : first.perform bus bank sensor =
      (255, sensor.misled bank other sensor.chip.registers (sensor.clock + 1)) := by
    rcases Option.ne_none_iff_exists'.mp fails with ⟨data, answered⟩
    have refused : setBank bus true bank sensor =
        (255, sensor.misled bank other sensor.chip.registers (sensor.clock + 1)) := by
      rw [setBank, if_neg (by rw [inVariable]; exact fun same => different same.2)]
      simp only [sccbWrite, answered, Sensor.misled, ← inSensor]
    have nonzero : ¬(255 : Int) = 0 := by decide
    cases first with
    | reg => rw [BankWrite.perform, writeReg, Fallible.andThen, refused, if_neg nonzero]
    | bits => rw [BankWrite.perform, setRegBits, Fallible.andThen, refused, if_neg nonzero]
    | table =>
        rw [BankWrite.perform, writeRegs, if_neg (by decide), if_pos rfl, Fallible.andThen, refused,
          if_neg nonzero]
  rcases @BankWrite.performAll_misled bus sensor bank other sensor.chip.registers
    (sensor.clock + 1) isOther (fun number passed => later number (by omega)) writes plain with
    ⟨last, passed, after⟩
  have selected : setBank bus true other (sensor.misled bank other
      (writes.foldl (BankWrite.store other) sensor.chip.registers) last) =
        (0, sensor.misled other other
          (writes.foldl (BankWrite.store other) sensor.chip.registers) (last + 1)) := by
    have answered := later last passed
    rw [setBank, if_neg (fun same => different same.2.symm)]
    simp only [sccbWrite, Sensor.misled, Chip.write, if_true, answered]
  simp only [failed, after, selected]
  exact ⟨by decide, trivial, rfl, trivial, rfl, rfl⟩

/-- The quality is set again after a failure, and then a switch.  The registers of the sensor
bank with the same numbers get the values. -/
theorem failed_selection_misdirects_quality :
    (Fallible.sequence
      ([.reg qs 12, .bits ctrl1 5 1 1, .table [(ctrl0, 3)]].map (BankWrite.perform
        ⟨blankChip, fun number => if number = 0 then some 0 else none⟩ bankDsp))
      (BankWrite.perform ⟨blankChip, fun number => if number = 0 then some 0 else none⟩ bankDsp
        (.reg qs 12)
        ((newSensor blankChip).moved bankSensor (fun _ _ => 0) 0)).2).2.chip.registers =
      Registers.storeAll (fun _ _ => 0)
        [(bankSensor, qs, 12), (bankSensor, ctrl1, 0x20), (bankSensor, ctrl0, 3)] :=
  (@failed_selection_misdirects ⟨blankChip, fun number => if number = 0 then some 0 else none⟩
    ((newSensor blankChip).moved bankSensor (fun _ _ => 0) 0) bankDsp bankSensor (Or.inr rfl)
    (by decide) rfl rfl (by decide) (fun number passed => if_neg (Nat.ne_of_gt passed))
    (.reg qs 12) [.reg qs 12, .bits ctrl1 5 1 1, .table [(ctrl0, 3)]] (by decide)).2.2.1

end ECam.Camera
