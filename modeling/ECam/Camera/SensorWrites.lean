import ECam.Camera.SensorCalls

/-!
# What the calls of the sensor leave alone

The registers that each call writes.  All other registers keep their values.
-/

namespace ECam.Camera

open ECam.Library
open ECam.ImageProcessing (PixFormat)
open Register

/-- The registers that a table writes. -/
def tableRegisters (table : List (Byte × Byte)) : List (Byte × Byte) :=
  (tableWrites 0 table).map fun write => (write.1, write.2.1)

/-- The registers that the tables of the formats write. -/
def formatRegisters : List (Byte × Byte) :=
  tableRegisters ov2640SettingsRgb565 ++ tableRegisters ov2640SettingsYuv422 ++
    tableRegisters ov2640SettingsJpeg3 ++ tableRegisters ov2640SettingsRaw

/-- The registers that `win_regs` writes. -/
def winRegisters : List (Byte × Byte) :=
  [(bankDsp, hsize), (bankDsp, vsize), (bankDsp, xoffl), (bankDsp, yoffl), (bankDsp, vhyx),
    (bankDsp, test), (bankDsp, zmow), (bankDsp, zmoh), (bankDsp, zmhh)]

/-- The registers that the tables of the modes write. -/
def modeRegisters : List (Byte × Byte) :=
  tableRegisters ov2640SettingsToCif ++ tableRegisters ov2640SettingsToSvga ++
    tableRegisters ov2640SettingsToUxga

/-- The registers that `set_window` writes. -/
def windowRegisters : List (Byte × Byte) :=
  [(bankDsp, rBypass), (bankSensor, clkrc), (bankDsp, rDvpSp)] ++
    (modeRegisters ++ (winRegisters ++ formatRegisters))

/-- The registers that a call writes, apart from a reset. -/
def Call.written : Call → List (Byte × Byte)
  | .detect | .reset | .initStatus | .sharpness _ | .denoise _ | .pll | .getReg _ _ => []
  | .pixformat _ => formatRegisters
  | .framesize _ | .resRaw .. => windowRegisters
  | .contrast _ | .brightness _ | .saturation _ | .specialEffect _ =>
      [(bankDsp, bpaddr), (bankDsp, bpdata)]
  | .aeLevel _ => [(bankSensor, aew), (bankSensor, aeb), (bankSensor, vv)]
  | .wbMode _ => [(bankDsp, 0xC7), (bankDsp, 0xCC), (bankDsp, 0xCD), (bankDsp, 0xCE)]
  | .quality _ => [(bankDsp, qs)]
  | .agcGain _ => [(bankSensor, Register.gain)]
  | .gainceiling _ => [(bankSensor, com9)]
  | .aecValue _ => [(bankSensor, reg04), (bankSensor, Register.aec), (bankSensor, reg45)]
  | .rawGma _ | .awb _ | .awbGain _ | .lenc _ => [(bankDsp, ctrl1)]
  | .dcw _ => [(bankDsp, ctrl2)]
  | .bpc _ | .wpc _ => [(bankDsp, ctrl3)]
  | .aec2 _ => [(bankDsp, ctrl0)]
  | .colorbar _ => [(bankSensor, com7)]
  | .agc _ | .aec _ => [(bankSensor, com8)]
  | .hmirror _ | .vflip _ => [(bankSensor, reg04)]
  | .reg number _ _ => [(regBankOf number, (number &&& 0xFF).setWidth 8)]

/-- A property of all entries of a list, by going through the list. -/
theorem forall_mem_of_all {Entry : Type} {property : Entry → Prop} [DecidablePred property]
    {entries : List Entry} (all : entries.all (fun entry => decide (property entry)) = true) :
    ∀ entry ∈ entries, property entry :=
  fun entry mem => of_decide_eq_true (List.all_eq_true.mp all entry mem)

variable {direct : DirectSensor} {bank reg : Byte}

theorem DirectSensor.write_registers {otherBank other : Byte} (value : Byte)
    (different : (bank, reg) ≠ (otherBank, other)) :
    (direct.write otherBank other value).registers bank reg = direct.registers bank reg := by
  apply if_neg
  rintro ⟨rfl, rfl⟩
  exact different rfl

theorem DirectSensor.writeBits_registers {otherBank other : Byte} (offset : Nat) (mask value : Byte)
    (different : (bank, reg) ≠ (otherBank, other)) :
    (direct.writeBits otherBank other offset mask value).registers bank reg =
      direct.registers bank reg :=
  DirectSensor.write_registers _ different

theorem lastWrite_of_not_mem {writes : List (Byte × Byte × Byte)}
    (absent : (bank, reg) ∉ writes.map fun write => (write.1, write.2.1)) :
    lastWrite bank reg writes = none := by
  induction writes with
  | nil => rfl
  | cons write writes ih =>
      rw [List.map_cons, List.mem_cons, not_or] at absent
      rw [lastWrite, ih absent.2, Option.none_or, if_neg]
      rintro ⟨rfl, rfl⟩
      exact absent.1 rfl

theorem DirectSensor.writeTable_registers {table : List (Byte × Byte)}
    (absent : (bank, reg) ∉ tableRegisters table) :
    (direct.writeTable table).registers bank reg = direct.registers bank reg := by
  refine (storeAll_apply (tableWrites 0 table) bank reg).trans ?_
  rw [lastWrite_of_not_mem absent, Option.getD_none]

theorem DirectSensor.writeRow_registers {otherBank : Byte} {regs : List (List Byte)} (row : Nat)
    (absent : bank = otherBank → reg ∉ regs.getD 0 []) :
    (direct.writeRow otherBank regs row).registers bank reg = direct.registers bank reg := by
  have kept : ∀ entries : List (Byte × Byte),
      (∀ entry ∈ entries, (bank, reg) ≠ (otherBank, entry.1)) → ∀ direct : DirectSensor,
        (entries.foldl (fun direct entry => direct.write otherBank entry.1 entry.2)
          direct).registers bank reg = direct.registers bank reg := by
    intro entries
    induction entries with
    | nil => exact fun _ _ => rfl
    | cons entry entries ih =>
        intro different direct
        rw [List.foldl_cons, ih fun other mem => different other (List.mem_cons_of_mem _ mem)]
        exact DirectSensor.write_registers _ (different entry List.mem_cons_self)
  apply kept
  rintro entry mem ⟨rfl, rfl⟩
  exact absent rfl (List.of_mem_zip mem).1

theorem DirectSensor.setFormat_registers (pixformat : PixFormat)
    (absent : (bank, reg) ∉ formatRegisters) :
    (direct.setFormat pixformat).registers bank reg = direct.registers bank reg := by
  simp only [formatRegisters, List.mem_append, not_or] at absent
  refine DirectSensor.writeTable_registers ?_
  cases pixformat with
  | rgb565 | rgb888 => exact absent.1.1.1
  | yuv422 | grayscale => exact absent.1.1.2
  | jpeg => exact absent.1.2
  | raw => exact absent.2
  | rgb444 | rgb555 => exact List.not_mem_nil

theorem DirectSensor.setWindow_registers (mode offsetX offsetY maxX maxY w h : BitVec 32)
    (absent : (bank, reg) ∉ windowRegisters) :
    (direct.setWindow mode offsetX offsetY maxX maxY w h).registers bank reg =
      direct.registers bank reg := by
  simp only [windowRegisters, List.mem_append, not_or] at absent
  rcases absent with ⟨clocks, modes, win, formats⟩
  simp only [List.mem_cons, List.not_mem_nil, or_false, not_or] at clocks
  have table : (bank, reg) ∉ tableRegisters (modeSettings mode) := by
    simp only [modeRegisters, List.mem_append, not_or] at modes
    unfold modeSettings
    split
    next => exact modes.1.1
    next =>
      split
      next => exact modes.1.2
      next => exact modes.2
  unfold DirectSensor.setWindow DirectSensor.window
  rw [DirectSensor.setFormat_registers _ formats, DirectSensor.write_registers _ clocks.1,
    DirectSensor.write_registers _ clocks.2.2, DirectSensor.write_registers _ clocks.2.1,
    DirectSensor.writeTable_registers win, DirectSensor.writeTable_registers table,
    DirectSensor.write_registers _ clocks.1]

/-- The registers that `set_window` writes after the table of the mode. -/
def laterRegisters : List (Byte × Byte) :=
  [(bankDsp, rBypass), (bankSensor, clkrc), (bankDsp, rDvpSp)] ++ (winRegisters ++ formatRegisters)

/-- The other registers have the values of the table of the mode. -/
theorem DirectSensor.setWindow_mode (mode offsetX offsetY maxX maxY w h : BitVec 32)
    (absent : (bank, reg) ∉ laterRegisters) {value : Byte}
    (written : lastWrite bank reg (tableWrites 0 (modeSettings mode)) = some value) :
    (direct.setWindow mode offsetX offsetY maxX maxY w h).registers bank reg = value := by
  simp only [laterRegisters, List.mem_append, not_or] at absent
  rcases absent with ⟨clocks, win, formats⟩
  simp only [List.mem_cons, List.not_mem_nil, or_false, not_or] at clocks
  unfold DirectSensor.setWindow DirectSensor.window
  rw [DirectSensor.setFormat_registers _ formats, DirectSensor.write_registers _ clocks.1,
    DirectSensor.write_registers _ clocks.2.2, DirectSensor.write_registers _ clocks.2.1,
    DirectSensor.writeTable_registers win]
  refine (storeAll_apply _ _ _).trans ?_
  rw [written, Option.getD_some]

theorem DirectSensor.setLevel_registers {otherBank : Byte} {regs : List (List Byte)}
    (shift count level : Int) (change : Status → Status)
    (absent : bank = otherBank → reg ∉ regs.getD 0 []) :
    (direct.setLevel otherBank regs shift count level change).registers bank reg =
      direct.registers bank reg := by
  unfold DirectSensor.setLevel
  split
  next => rfl
  next => exact DirectSensor.writeRow_registers _ absent

/-- A call that is not a reset leaves the other registers alone. -/
theorem act_registers (factory : Registers) {call : Call} (noReset : call ≠ .reset)
    (absent : (bank, reg) ∉ call.written) :
    (call.act factory direct).registers bank reg = direct.registers bank reg := by
  cases call with
  | reset => exact absurd rfl noReset
  | detect | initStatus | sharpness | denoise | pll | getReg => rfl
  | pixformat => exact DirectSensor.setFormat_registers _ absent
  | framesize => exact DirectSensor.setWindow_registers _ _ _ _ _ _ _ absent
  | resRaw => exact DirectSensor.setWindow_registers _ _ _ _ _ _ _ absent
  | contrast | brightness | saturation | specialEffect =>
      apply DirectSensor.setLevel_registers
      rintro rfl mem
      simp [Call.written, contrastRegs, brightnessRegs, saturationRegs, specialEffectsRegs]
        at absent mem
      grind
  | aeLevel =>
      apply DirectSensor.setLevel_registers
      rintro rfl mem
      simp [Call.written, aeLevelsRegs] at absent mem
      grind
  | wbMode mode =>
      simp only [Call.act, DirectSensor.setWbMode]
      split
      next => rfl
      next =>
        simp only [Call.written, List.mem_cons, List.not_mem_nil, or_false, not_or] at absent
        split
        next =>
          refine (DirectSensor.writeRow_registers _ ?_).trans
            (DirectSensor.writeBits_registers _ _ _ absent.1)
          rintro rfl mem
          simp [wbModesRegs] at absent mem
          grind
        next => exact DirectSensor.writeBits_registers _ _ _ absent.1
  | quality | agcGain =>
      exact DirectSensor.write_registers _
        fun same => absent (by rw [same]; exact List.mem_cons_self)
  | gainceiling | aec2 | rawGma | awb | awbGain | lenc | dcw | bpc | wpc =>
      exact DirectSensor.writeBits_registers _ _ _
        fun same => absent (by rw [same]; exact List.mem_cons_self)
  | colorbar | agc | aec | hmirror =>
      exact DirectSensor.writeBits_registers _ _ _
        fun same => absent (by rw [same]; exact List.mem_cons_self)
  | aecValue =>
      simp only [Call.written, List.mem_cons, List.not_mem_nil, or_false, not_or] at absent
      simp only [Call.act, DirectSensor.setExposure]
      rw [DirectSensor.writeBits_registers _ _ _ absent.2.2,
        DirectSensor.write_registers _ absent.2.1, DirectSensor.writeBits_registers _ _ _ absent.1]
      rfl
  | vflip =>
      simp only [Call.written, List.mem_cons, List.not_mem_nil, or_false] at absent
      simp only [Call.act, DirectSensor.setVflip, DirectSensor.writeMask]
      rw [DirectSensor.writeBits_registers _ _ _ absent,
        DirectSensor.writeBits_registers _ _ _ absent]
      rfl
  | reg =>
      exact DirectSensor.write_registers _
        fun same => absent (by rw [same]; exact List.mem_cons_self)

end ECam.Camera
