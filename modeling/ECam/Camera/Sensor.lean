import ECam.Camera.SensorSettings
import ECam.ImageProcessing.SampleMode
import ECam.Library.Bits
import ECam.Library.Fallible

/-!
# The driver of the sensor

The registers of the sensor lie in two banks, and a register of both banks, `BANK_SEL`,
selects the one that is read and written.  The driver keeps the selected bank in a variable
and selects a bank only if it is not the one in the variable.  Every register is reached by a
transaction on a serial bus, which may fail.

The driver also keeps what it has set in a status record; `init_status` fills the record from
the registers.
-/

namespace ECam.Camera

open ECam.Library
open ECam.ImageProcessing (PixFormat ov2640Pid)
open Register

/-! ## The sensor -/

/-- The registers by bank and number. -/
abbrev Registers := Byte → Byte → Byte

/-- A register gets another value. -/
def Registers.store (registers : Registers) (bank reg value : Byte) : Registers :=
  fun otherBank other => if otherBank = bank ∧ other = reg then value else registers otherBank other

/-- The registers and the register that selects a bank. -/
structure Chip where
  selected : Byte
  registers : Registers

/-- `COM7_SRST`: all registers get their factory values. -/
def com7Srst : Byte := 0x80

/-- The value starts a reset. -/
def StartsReset (bank reg value : Byte) : Prop :=
  bank = bankSensor ∧ reg = com7 ∧ value &&& com7Srst ≠ 0

instance (bank reg value : Byte) : Decidable (StartsReset bank reg value) :=
  inferInstanceAs (Decidable (_ ∧ _ ∧ _))

/-- The lowest bit selects the bank. -/
def Chip.bank (chip : Chip) : Byte :=
  chip.selected &&& 1

def Chip.write (chip factory : Chip) (reg value : Byte) : Chip :=
  if reg = bankSel then
    { chip with selected := value }
  else if StartsReset chip.bank reg value then
    factory
  else
    { chip with registers := chip.registers.store chip.bank reg value }

def Chip.read (chip : Chip) (reg : Byte) : Byte :=
  if reg = bankSel then chip.selected else chip.registers chip.bank reg

/-! ## The driver -/

/-- `framesize_t`. -/
inductive FrameSize where
  | size96x96 | qqvga | qcif | hqvga | size240x240 | qvga | cif | hvga | vga | svga | xga | hd
  | sxga | uxga | fhd | pHd | p3mp | qxga | qhd | wqxga | pFhd | qsxga
  deriving DecidableEq, Repr

/-- `camera_status_t`. -/
structure Status where
  framesize : FrameSize
  quality : Byte
  brightness : Int
  contrast : Int
  saturation : Int
  sharpness : Int
  denoise : Byte
  specialEffect : Byte
  wbMode : Byte
  awb : Byte
  awbGain : Byte
  aec : Byte
  aec2 : Byte
  aeLevel : Int
  aecValue : BitVec 16
  agc : Byte
  agcGain : Byte
  gainceiling : Byte
  bpc : Byte
  wpc : Byte
  rawGma : Byte
  lenc : Byte
  hmirror : Byte
  vflip : Byte
  dcw : Byte
  colorbar : Byte
  deriving DecidableEq, Repr

/-- The variable of the driver with the selected bank, the sensor, the number of transactions
so far, and the fields of `sensor_t` that the driver changes. -/
structure Sensor where
  regBank : Byte
  chip : Chip
  clock : Nat
  pixformat : PixFormat
  status : Status

/-- The factory values, and the answers of the bus: a transaction succeeds, or it fails and a
read gives some byte. -/
structure Bus where
  factory : Chip
  answers : Nat → Option Byte

variable (bus : Bus) (caching : Bool)

/-- `SCCB_Write`. -/
def sccbWrite (reg value : Byte) : Fallible Sensor := fun sensor =>
  match bus.answers sensor.clock with
  | none =>
      (0, { sensor with
        chip := sensor.chip.write bus.factory reg value
        clock := sensor.clock + 1 })
  | some _ => (255, { sensor with clock := sensor.clock + 1 })

/-- `SCCB_Read`: a failure cannot be told from a value. -/
def sccbRead (reg : Byte) (sensor : Sensor) : Byte × Sensor :=
  match bus.answers sensor.clock with
  | none => (sensor.chip.read reg, { sensor with clock := sensor.clock + 1 })
  | some value => (value, { sensor with clock := sensor.clock + 1 })

/-- `set_bank`.  The driver is the one with `caching`; without it, the bank is selected
every time. -/
def setBank (bank : Byte) : Fallible Sensor := fun sensor =>
  if caching = true ∧ bank = sensor.regBank then
    (0, sensor)
  else
    sccbWrite bus bankSel bank { sensor with regBank := bank }

/-- `write_regs`. -/
def writeRegs : List (Byte × Byte) → Fallible Sensor
  | [] => Fallible.modify id
  | (reg, value) :: others =>
      if reg = 0 then
        Fallible.modify id
      else
        Fallible.andThen
          (if reg = bankSel then setBank bus caching value else sccbWrite bus reg value)
          (writeRegs others)

/-- `write_reg`. -/
def writeReg (bank reg value : Byte) : Fallible Sensor :=
  Fallible.andThen (setBank bus caching bank) (sccbWrite bus reg value)

/-- `set_reg_bits`. -/
def setRegBits (bank reg : Byte) (offset : Nat) (mask value : Byte) : Fallible Sensor :=
  Fallible.andThen (setBank bus caching bank) fun sensor =>
    let current := sccbRead bus reg sensor
    sccbWrite bus reg (setBits current.1 offset mask value) current.2

/-- `read_reg`. -/
def readReg (bank reg : Byte) (sensor : Sensor) : Byte × Sensor :=
  if (setBank bus caching bank sensor).1 ≠ 0 then
    (0, (setBank bus caching bank sensor).2)
  else
    sccbRead bus reg (setBank bus caching bank sensor).2

/-- `get_reg_bits`. -/
def getRegBits (bank reg : Byte) (offset : Nat) (mask : Byte) (sensor : Sensor) :
    Byte × Sensor :=
  (getBits (readReg bus caching bank reg sensor).1 offset mask,
    (readReg bus caching bank reg sensor).2)

/-- `write_reg_bits`. -/
def writeRegBits (bank reg mask : Byte) (enable : Int) : Fallible Sensor :=
  setRegBits bus caching bank reg 0 mask (if enable ≠ 0 then mask else 0)

/-- A change of the status record. -/
def note (change : Status → Status) : Fallible Sensor :=
  Fallible.modify fun sensor => { sensor with status := change sensor.status }

/-- An answer without any transaction. -/
def answer (code : Int) : Fallible Sensor := fun sensor => (code, sensor)

/-! ## Formats and sizes -/

/-- `ov2640_detect`: the bank is selected without the variable. -/
def ov2640Detect : Fallible Sensor := fun sensor =>
  let selected := (sccbWrite bus bankSel bankSensor sensor).2
  let pid := sccbRead bus regPid selected
  if pid.1 = ov2640Pid.toBitVec.setWidth 8 then
    let ver := sccbRead bus regVer pid.2
    let midl := sccbRead bus regMidl ver.2
    let midh := sccbRead bus regMidh midl.2
    (pid.1.toNat, midh.2)
  else
    (0, pid.2)

/-- `reset`. -/
def sensorReset : Fallible Sensor :=
  Fallible.andThen (writeReg bus caching bankSensor com7 com7Srst)
    (writeRegs bus caching ov2640SettingsCif)

/-- The table for a format. -/
def formatSettings : PixFormat → Option (List (Byte × Byte))
  | .rgb565 | .rgb888 => some ov2640SettingsRgb565
  | .yuv422 | .grayscale => some ov2640SettingsYuv422
  | .jpeg => some ov2640SettingsJpeg3
  | .raw => some ov2640SettingsRaw
  | .rgb444 | .rgb555 => none

/-- `set_pixformat`. -/
def setPixformat (pixformat : PixFormat) : Fallible Sensor :=
  Fallible.andThen (Fallible.modify fun sensor => { sensor with pixformat := pixformat })
    (match formatSettings pixformat with
      | some settings => writeRegs bus caching settings
      | none => answer (-1))

/-- `ov2640_sensor_mode_t`. -/
def ov2640ModeUxga : BitVec 32 := 0

def ov2640ModeSvga : BitVec 32 := 1

def ov2640ModeCif : BitVec 32 := 2

/-- `c.clk` of `set_window`. -/
def clk (pixformat : PixFormat) (mode : BitVec 32) : Byte :=
  if pixformat = .jpeg then 0x00 else if mode = ov2640ModeCif then 0x83 else 0x87

/-- `c.pclk` of `set_window`. -/
def pclk (pixformat : PixFormat) (mode : BitVec 32) : Byte :=
  if pixformat = .jpeg then 0x08 else if mode = ov2640ModeUxga then 0x8C else 0x88

/-- The value of `VHYX` in `win_regs`. -/
def vhyxValue (offsetX offsetY maxX maxY : BitVec 32) : Byte :=
  ((maxY.sshiftRight 1 &&& 0x80) ||| (offsetY.sshiftRight 4 &&& 0x70) |||
    (maxX.sshiftRight 5 &&& 0x08) ||| (offsetX.sshiftRight 8 &&& 0x07)).setWidth 8

/-- The value of `ZMHH` in `win_regs`. -/
def zmhhValue (w h : BitVec 32) : Byte :=
  ((h.sshiftRight 6 &&& 0x04) ||| (w.sshiftRight 8 &&& 0x03)).setWidth 8

/-- `win_regs` of `set_window`, with sizes that are divided by four. -/
def winRegs (offsetX offsetY maxX maxY w h : BitVec 32) : List (Byte × Byte) :=
  [(bankSel, bankDsp),
    (hsize, (maxX &&& 0xFF).setWidth 8),
    (vsize, (maxY &&& 0xFF).setWidth 8),
    (xoffl, (offsetX &&& 0xFF).setWidth 8),
    (yoffl, (offsetY &&& 0xFF).setWidth 8),
    (vhyx, vhyxValue offsetX offsetY maxX maxY),
    (test, (maxX.sshiftRight 2 &&& 0x80).setWidth 8),
    (zmow, (w &&& 0xFF).setWidth 8),
    (zmoh, (h &&& 0xFF).setWidth 8),
    (zmhh, zmhhValue w h),
    (0, 0)]

/-- The table for a mode. -/
def modeSettings (mode : BitVec 32) : List (Byte × Byte) :=
  if mode = ov2640ModeCif then ov2640SettingsToCif
  else if mode = ov2640ModeSvga then ov2640SettingsToSvga
  else ov2640SettingsToUxga

/-- The writes of `set_window`.  The code of `set_pixformat` at the end is not used. -/
def windowWrites (pixformat : PixFormat) (mode offsetX offsetY maxX maxY w h : BitVec 32) :
    List (Fallible Sensor) :=
  [writeReg bus caching bankDsp rBypass 0x01,
    writeRegs bus caching (modeSettings mode),
    writeRegs bus caching
      (winRegs offsetX offsetY (maxX.sdiv 4) (maxY.sdiv 4) (w.sdiv 4) (h.sdiv 4)),
    writeReg bus caching bankSensor clkrc (clk pixformat mode),
    writeReg bus caching bankDsp rDvpSp (pclk pixformat mode),
    writeReg bus caching bankDsp rBypass 0x00,
    fun sensor => (0, (setPixformat bus caching sensor.pixformat sensor).2)]

/-- `set_window`. -/
def setWindow (mode offsetX offsetY maxX maxY w h : BitVec 32) : Fallible Sensor := fun sensor =>
  Fallible.sequence
    (windowWrites bus caching sensor.pixformat mode offsetX offsetY maxX maxY w h) sensor

/-- `aspect_ratio_t`. -/
inductive AspectRatio where
  | ratio4x3 | ratio3x2 | ratio16x10 | ratio5x3 | ratio16x9 | ratio21x9 | ratio5x4 | ratio1x1
  | ratio9x16
  deriving DecidableEq, Repr

/-- `resolution`: width, height and aspect ratio. -/
def resolution : FrameSize → Nat × Nat × AspectRatio
  | .size96x96 => (96, 96, .ratio1x1)
  | .qqvga => (160, 120, .ratio4x3)
  | .qcif => (176, 144, .ratio5x4)
  | .hqvga => (240, 176, .ratio4x3)
  | .size240x240 => (240, 240, .ratio1x1)
  | .qvga => (320, 240, .ratio4x3)
  | .cif => (400, 296, .ratio4x3)
  | .hvga => (480, 320, .ratio3x2)
  | .vga => (640, 480, .ratio4x3)
  | .svga => (800, 600, .ratio4x3)
  | .xga => (1024, 768, .ratio4x3)
  | .hd => (1280, 720, .ratio16x9)
  | .sxga => (1280, 1024, .ratio5x4)
  | .uxga => (1600, 1200, .ratio4x3)
  | .fhd => (1920, 1080, .ratio16x9)
  | .pHd => (720, 1280, .ratio9x16)
  | .p3mp => (864, 1536, .ratio9x16)
  | .qxga => (2048, 1536, .ratio4x3)
  | .qhd => (2560, 1440, .ratio16x9)
  | .wqxga => (2560, 1600, .ratio16x10)
  | .pFhd => (1088, 1920, .ratio9x16)
  | .qsxga => (2560, 1920, .ratio4x3)

/-- `ov2640_ratio_settings_t`. -/
structure RatioSettings where
  offsetX : Nat
  offsetY : Nat
  maxX : Nat
  maxY : Nat
  deriving DecidableEq, Repr

/-- `ratio_table`. -/
def ratioTable : AspectRatio → RatioSettings
  | .ratio4x3 => ⟨0, 0, 1600, 1200⟩
  | .ratio3x2 => ⟨8, 72, 1584, 1056⟩
  | .ratio16x10 => ⟨0, 100, 1600, 1000⟩
  | .ratio5x3 => ⟨0, 120, 1600, 960⟩
  | .ratio16x9 => ⟨0, 150, 1600, 900⟩
  | .ratio21x9 => ⟨2, 258, 1596, 684⟩
  | .ratio5x4 => ⟨50, 0, 1500, 1200⟩
  | .ratio1x1 => ⟨200, 0, 1200, 1200⟩
  | .ratio9x16 => ⟨462, 0, 676, 1200⟩

/-- The mode of a frame size and the part of the picture in it. -/
def framesizeWindow (framesize : FrameSize) : BitVec 32 × RatioSettings :=
  let ratio := ratioTable (resolution framesize).2.2
  if framesize.ctorIdx ≤ FrameSize.cif.ctorIdx then
    (ov2640ModeCif, ⟨ratio.offsetX / 4, ratio.offsetY / 4, ratio.maxX / 4,
      if ratio.maxY / 4 > 296 then 296 else ratio.maxY / 4⟩)
  else if framesize.ctorIdx ≤ FrameSize.svga.ctorIdx then
    (ov2640ModeSvga, ⟨ratio.offsetX / 2, ratio.offsetY / 2, ratio.maxX / 2, ratio.maxY / 2⟩)
  else
    (ov2640ModeUxga, ratio)

/-- `set_framesize`. -/
def setFramesize (framesize : FrameSize) : Fallible Sensor :=
  let mode := (framesizeWindow framesize).1
  let ratio := (framesizeWindow framesize).2
  Fallible.andThen (note fun status => { status with framesize := framesize })
    (setWindow bus caching mode (BitVec.ofNat 32 ratio.offsetX) (BitVec.ofNat 32 ratio.offsetY)
      (BitVec.ofNat 32 ratio.maxX) (BitVec.ofNat 32 ratio.maxY)
      (BitVec.ofNat 32 (resolution framesize).1) (BitVec.ofNat 32 (resolution framesize).2.1))

/-- `set_res_raw`; the other parameters are not used. -/
def setResRaw (startX offsetX offsetY totalX totalY outputX outputY : BitVec 32) :
    Fallible Sensor :=
  setWindow bus caching startX offsetX offsetY totalX totalY outputX outputY

/-! ## Levels -/

/-- A row of a table is written to the registers of the first row. -/
def writeRow (bank : Byte) (regs : List (List Byte)) (row : Nat) : Fallible Sensor :=
  Fallible.sequence ((((regs.getD 0 []).zip (regs.getD row []))).map fun entry =>
    writeReg bus caching bank entry.1 entry.2)

/-- The setters with a table of levels: a level outside of the table is refused. -/
def setLevel (bank : Byte) (regs : List (List Byte)) (shift count level : Int)
    (change : Status → Status) : Fallible Sensor :=
  if level + shift ≤ 0 ∨ level + shift > count then
    answer (-1)
  else
    Fallible.andThen (note change) (writeRow bus caching bank regs (level + shift).toNat)

/-- `set_contrast`. -/
def setContrast (level : Int) : Fallible Sensor :=
  setLevel bus caching bankDsp contrastRegs 3 5 level
    fun status => { status with contrast := level }

/-- `set_brightness`. -/
def setBrightness (level : Int) : Fallible Sensor :=
  setLevel bus caching bankDsp brightnessRegs 3 5 level
    fun status => { status with brightness := level }

/-- `set_saturation`. -/
def setSaturation (level : Int) : Fallible Sensor :=
  setLevel bus caching bankDsp saturationRegs 3 5 level
    fun status => { status with saturation := level }

/-- `set_special_effect`. -/
def setSpecialEffect (effect : Int) : Fallible Sensor :=
  setLevel bus caching bankDsp specialEffectsRegs 1 7 effect
    fun status => { status with specialEffect := BitVec.ofInt 8 effect }

/-- `set_ae_level`. -/
def setAeLevel (level : Int) : Fallible Sensor :=
  setLevel bus caching bankSensor aeLevelsRegs 3 5 level
    fun status => { status with aeLevel := level }

/-- `set_wb_mode`. -/
def setWbMode (mode : Int) : Fallible Sensor :=
  if mode < 0 ∨ mode > 11 then
    answer (-1)
  else
    Fallible.sequence [
      note fun status => { status with wbMode := BitVec.ofInt 8 mode },
      setRegBits bus caching bankDsp 0xC7 6 1 (if mode ≠ 0 then 1 else 0),
      if mode ≠ 0 then writeRow bus caching bankDsp wbModesRegs mode.toNat else Fallible.modify id]

/-! ## Values -/

/-- A value outside of the range becomes the nearest one inside. -/
def clamp (limit value : Int) : Int :=
  if value < 0 then 0 else if value > limit then limit else value

/-- `set_quality`. -/
def setQuality (quality : Int) : Fallible Sensor :=
  Fallible.andThen (note fun status => { status with quality := BitVec.ofInt 8 (clamp 63 quality) })
    (writeReg bus caching bankDsp qs (BitVec.ofInt 8 (clamp 63 quality)))

/-- `set_agc_gain`. -/
def setAgcGain (gain : Int) : Fallible Sensor :=
  Fallible.andThen (note fun status => { status with agcGain := BitVec.ofInt 8 (clamp 30 gain) })
    (writeReg bus caching bankSensor Register.gain (agcGainTbl.getD (clamp 30 gain).toNat 0))

/-- `set_gainceiling_sensor`. -/
def setGainceilingSensor (gainceiling : Byte) : Fallible Sensor :=
  Fallible.andThen (note fun status => { status with gainceiling := gainceiling })
    (setRegBits bus caching bankSensor com9 5 7 gainceiling)

/-- `set_aec_value`; the operator `||` turns every failure into 1. -/
def setAecValue (value : Int) : Fallible Sensor := fun sensor =>
  let exposure := BitVec.ofInt 16 (clamp 1200 value)
  let written := Fallible.sequence [
    note fun status => { status with aecValue := exposure },
    setRegBits bus caching bankSensor reg04 0 3 ((exposure &&& 3).setWidth 8),
    writeReg bus caching bankSensor Register.aec ((exposure >>> 2 &&& 0xFF).setWidth 8),
    setRegBits bus caching bankSensor reg45 0 0x3F ((exposure >>> 10).setWidth 8)] sensor
  (if written.1 = 0 then 0 else 1, written.2)

/-! ## Switches -/

/-- The setters of one bit. -/
def setFlag (bank reg : Byte) (offset : Nat) (change : Byte → Status → Status) (enable : Int) :
    Fallible Sensor :=
  Fallible.andThen (note (change (BitVec.ofInt 8 enable)))
    (setRegBits bus caching bank reg offset 1 (if enable ≠ 0 then 1 else 0))

/-- `set_raw_gma_dsp`. -/
def setRawGmaDsp (enable : Int) : Fallible Sensor :=
  setFlag bus caching bankDsp ctrl1 5 (fun value status => { status with rawGma := value }) enable

/-- `set_awb_dsp`. -/
def setAwbDsp (enable : Int) : Fallible Sensor :=
  setFlag bus caching bankDsp ctrl1 3 (fun value status => { status with awb := value }) enable

/-- `set_awb_gain_dsp`. -/
def setAwbGainDsp (enable : Int) : Fallible Sensor :=
  setFlag bus caching bankDsp ctrl1 2 (fun value status => { status with awbGain := value }) enable

/-- `set_lenc_dsp`. -/
def setLencDsp (enable : Int) : Fallible Sensor :=
  setFlag bus caching bankDsp ctrl1 1 (fun value status => { status with lenc := value }) enable

/-- `set_dcw_dsp`. -/
def setDcwDsp (enable : Int) : Fallible Sensor :=
  setFlag bus caching bankDsp ctrl2 5 (fun value status => { status with dcw := value }) enable

/-- `set_bpc_dsp`. -/
def setBpcDsp (enable : Int) : Fallible Sensor :=
  setFlag bus caching bankDsp ctrl3 7 (fun value status => { status with bpc := value }) enable

/-- `set_wpc_dsp`. -/
def setWpcDsp (enable : Int) : Fallible Sensor :=
  setFlag bus caching bankDsp ctrl3 6 (fun value status => { status with wpc := value }) enable

/-- `set_aec2`: unlike the other switches, the bit is the opposite of the argument. -/
def setAec2 (enable : Int) : Fallible Sensor :=
  Fallible.andThen (note fun status => { status with aec2 := BitVec.ofInt 8 enable })
    (setRegBits bus caching bankDsp ctrl0 6 1 (if enable ≠ 0 then 0 else 1))

/-- The setters that write all bits of a mask. -/
def setSwitch (reg mask : Byte) (change : Byte → Status → Status) (enable : Int) :
    Fallible Sensor :=
  Fallible.andThen (note (change (BitVec.ofInt 8 enable)))
    (writeRegBits bus caching bankSensor reg mask (if enable ≠ 0 then 1 else 0))

/-- `set_colorbar`. -/
def setColorbar (enable : Int) : Fallible Sensor :=
  setSwitch bus caching com7 0x02 (fun value status => { status with colorbar := value }) enable

/-- `set_agc_sensor`. -/
def setAgcSensor (enable : Int) : Fallible Sensor :=
  setSwitch bus caching com8 0x04 (fun value status => { status with agc := value }) enable

/-- `set_aec_sensor`. -/
def setAecSensor (enable : Int) : Fallible Sensor :=
  setSwitch bus caching com8 0x01 (fun value status => { status with aec := value }) enable

/-- `set_hmirror_sensor`. -/
def setHmirrorSensor (enable : Int) : Fallible Sensor :=
  setSwitch bus caching reg04 0x80 (fun value status => { status with hmirror := value }) enable

/-- `set_vflip_sensor`: both bits are written whatever the first code is, and the codes are
joined bit by bit. -/
def setVflipSensor (enable : Int) : Fallible Sensor :=
  Fallible.andThen (note fun status => { status with vflip := BitVec.ofInt 8 enable }) fun sensor =>
    let first := writeRegBits bus caching bankSensor reg04 0x10 (if enable ≠ 0 then 1 else 0) sensor
    let second :=
      writeRegBits bus caching bankSensor reg04 0x40 (if enable ≠ 0 then 1 else 0) first.2
    (if first.1 = 0 then 0 else second.1, second.2)

/-! ## Registers by number -/

/-- The bank of the register numbers of `get_reg` and `set_reg`. -/
def regBankOf (reg : BitVec 32) : Byte :=
  (reg.sshiftRight 8 &&& 0x01).setWidth 8

/-- `set_sharpness`. -/
def setSharpness (_level : Int) : Fallible Sensor :=
  answer (-1)

/-- `set_denoise`. -/
def setDenoise (_level : Int) : Fallible Sensor :=
  answer (-1)

/-- `_set_pll`, whose arguments are not read. -/
def setPll : Fallible Sensor :=
  answer (-1)

/-- `get_reg`. -/
def getReg (reg mask : BitVec 32) : Fallible Sensor := fun sensor =>
  let current := readReg bus caching (regBankOf reg) ((reg &&& 0xFF).setWidth 8) sensor
  let ret := current.1.setWidth 32
  ((if ret.toInt > 0 then ret &&& mask else ret).toInt, current.2)

/-- `set_reg`. -/
def setReg (reg mask value : BitVec 32) : Fallible Sensor := fun sensor =>
  let current := readReg bus caching (regBankOf reg) ((reg &&& 0xFF).setWidth 8) sensor
  writeReg bus caching (regBankOf reg) ((reg &&& 0xFF).setWidth 8)
    ((current.1.setWidth 32 &&& ~~~mask ||| value &&& mask).setWidth 8) current.2

/-! ## The status record -/

/-- The gain whose interval in `agc_gain_tbl` has the value of the register. -/
def agcGainOf (value : Byte) : Byte :=
  match (List.range 30).find? fun i =>
      agcGainTbl.getD i 0 ≤ value && decide (value < agcGainTbl.getD (i + 1) 0) with
  | some i => BitVec.ofNat 8 i
  | none => 30

/-- A field gets the value that was read. -/
def noteRead {Value : Type} (read : Sensor → Value × Sensor)
    (change : Value → Status → Status) : Fallible Sensor := fun sensor =>
  (0, { (read sensor).2 with status := change (read sensor).1 (read sensor).2.status })

/-- The exposure, in three registers. -/
def readAecValue (sensor : Sensor) : BitVec 16 × Sensor :=
  let high := getRegBits bus caching bankSensor reg45 0 0x3F sensor
  let middle := readReg bus caching bankSensor Register.aec high.2
  let low := getRegBits bus caching bankSensor reg04 0 3 middle.2
  (high.1.setWidth 16 <<< 10 ||| middle.1.setWidth 16 <<< 2 ||| low.1.setWidth 16, low.2)

/-- The fields of the status that are bits of a register. -/
inductive StatusField where
  | gainceiling | awb | awbGain | aec | aec2 | agc | bpc | wpc | rawGma | lenc | hmirror | vflip
  | dcw | colorbar
  deriving DecidableEq, Repr

/-- The bank, the register, the offset and the mask of a field. -/
def StatusField.place : StatusField → Byte × Byte × Nat × Byte
  | .gainceiling => (bankSensor, com9, 5, 7)
  | .awb => (bankDsp, ctrl1, 3, 1)
  | .awbGain => (bankDsp, ctrl1, 2, 1)
  | .aec => (bankSensor, com8, 0, 1)
  | .aec2 => (bankDsp, ctrl0, 6, 1)
  | .agc => (bankSensor, com8, 2, 1)
  | .bpc => (bankDsp, ctrl3, 7, 1)
  | .wpc => (bankDsp, ctrl3, 6, 1)
  | .rawGma => (bankDsp, ctrl1, 5, 1)
  | .lenc => (bankDsp, ctrl1, 1, 1)
  | .hmirror => (bankSensor, reg04, 7, 1)
  | .vflip => (bankSensor, reg04, 6, 1)
  | .dcw => (bankDsp, ctrl2, 5, 1)
  | .colorbar => (bankSensor, com7, 1, 1)

/-- The value of a field is noted. -/
def StatusField.note (value : Byte) (status : Status) : StatusField → Status
  | .gainceiling => { status with gainceiling := value }
  | .awb => { status with awb := value }
  | .awbGain => { status with awbGain := value }
  | .aec => { status with aec := value }
  | .aec2 => { status with aec2 := value }
  | .agc => { status with agc := value }
  | .bpc => { status with bpc := value }
  | .wpc => { status with wpc := value }
  | .rawGma => { status with rawGma := value }
  | .lenc => { status with lenc := value }
  | .hmirror => { status with hmirror := value }
  | .vflip => { status with vflip := value }
  | .dcw => { status with dcw := value }
  | .colorbar => { status with colorbar := value }

/-- The fields that `init_status` reads with `get_reg_bits`, in its order. -/
def statusFields : List StatusField :=
  [.gainceiling, .awb, .awbGain, .aec, .aec2, .agc, .bpc, .wpc, .rawGma, .lenc, .hmirror, .vflip,
    .dcw, .colorbar]

/-- `init_status`. -/
def initStatus : Fallible Sensor :=
  Fallible.andThen
    (Fallible.sequence [
      note fun status => { status with
        brightness := 0, contrast := 0, saturation := 0, aeLevel := 0, specialEffect := 0,
        wbMode := 0 },
      noteRead (readReg bus caching bankSensor Register.gain)
        fun value status => { status with agcGain := agcGainOf value },
      noteRead (readAecValue bus caching) fun value status => { status with aecValue := value },
      noteRead (readReg bus caching bankDsp qs)
        fun value status => { status with quality := value }])
    (Fallible.andThen
      (Fallible.sequence (statusFields.map fun field =>
        noteRead (getRegBits bus caching field.place.1 field.place.2.1 field.place.2.2.1
          field.place.2.2.2) fun value status => field.note value status))
      (note fun status => { status with sharpness := 0, denoise := 0 }))

/-! ## Calls -/

/-- `ov2640_detect` and the functions that `ov2640_init` offers, apart from `set_xclk`, which
sets a timer of the chip. -/
inductive Call where
  | detect
  | reset
  | pixformat (pixformat : PixFormat)
  | framesize (framesize : FrameSize)
  | resRaw (startX offsetX offsetY totalX totalY outputX outputY : BitVec 32)
  | contrast (level : Int)
  | brightness (level : Int)
  | saturation (level : Int)
  | specialEffect (effect : Int)
  | aeLevel (level : Int)
  | wbMode (mode : Int)
  | quality (quality : Int)
  | agcGain (gain : Int)
  | gainceiling (gainceiling : Byte)
  | aecValue (value : Int)
  | rawGma (enable : Int)
  | awb (enable : Int)
  | awbGain (enable : Int)
  | lenc (enable : Int)
  | dcw (enable : Int)
  | bpc (enable : Int)
  | wpc (enable : Int)
  | aec2 (enable : Int)
  | colorbar (enable : Int)
  | agc (enable : Int)
  | aec (enable : Int)
  | hmirror (enable : Int)
  | vflip (enable : Int)
  | sharpness (level : Int)
  | denoise (level : Int)
  | getReg (reg mask : BitVec 32)
  | reg (reg mask value : BitVec 32)
  | pll
  | initStatus
  deriving DecidableEq, Repr

/-- What a call does. -/
def perform : Call → Fallible Sensor
  | .detect => ov2640Detect bus
  | .reset => sensorReset bus caching
  | .pixformat pixformat => setPixformat bus caching pixformat
  | .framesize framesize => setFramesize bus caching framesize
  | .resRaw startX offsetX offsetY totalX totalY outputX outputY =>
      setResRaw bus caching startX offsetX offsetY totalX totalY outputX outputY
  | .contrast level => setContrast bus caching level
  | .brightness level => setBrightness bus caching level
  | .saturation level => setSaturation bus caching level
  | .specialEffect effect => setSpecialEffect bus caching effect
  | .aeLevel level => setAeLevel bus caching level
  | .wbMode mode => setWbMode bus caching mode
  | .quality quality => setQuality bus caching quality
  | .agcGain gain => setAgcGain bus caching gain
  | .gainceiling gainceiling => setGainceilingSensor bus caching gainceiling
  | .aecValue value => setAecValue bus caching value
  | .rawGma enable => setRawGmaDsp bus caching enable
  | .awb enable => setAwbDsp bus caching enable
  | .awbGain enable => setAwbGainDsp bus caching enable
  | .lenc enable => setLencDsp bus caching enable
  | .dcw enable => setDcwDsp bus caching enable
  | .bpc enable => setBpcDsp bus caching enable
  | .wpc enable => setWpcDsp bus caching enable
  | .aec2 enable => setAec2 bus caching enable
  | .colorbar enable => setColorbar bus caching enable
  | .agc enable => setAgcSensor bus caching enable
  | .aec enable => setAecSensor bus caching enable
  | .hmirror enable => setHmirrorSensor bus caching enable
  | .vflip enable => setVflipSensor bus caching enable
  | .sharpness level => setSharpness level
  | .denoise level => setDenoise level
  | .pll => setPll
  | .getReg reg mask => getReg bus caching reg mask
  | .reg reg mask value => setReg bus caching reg mask value
  | .initStatus => initStatus bus caching

end ECam.Camera
