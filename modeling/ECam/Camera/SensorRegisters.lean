import ECam.Camera.Sensor
import ECam.Library.Run

/-!
# The selected bank

On a bus without failures the variable with the selected bank saves transactions and nothing
else: after the sensor was detected and reset, every sequence of calls has the same codes and
leaves the same registers, format and status as a driver that selects the bank every time.

A failure while a bank is selected is different.  The variable already has the new bank then,
so that the following calls for this bank succeed and write to the other one.
-/

namespace ECam.Camera

open ECam.Library
open ECam.ImageProcessing (PixFormat)
open Register

/-! ## What can be seen of the sensor -/

/-- What the calls are for: the registers, the format and the status. -/
structure DirectSensor where
  registers : Registers
  pixformat : PixFormat
  status : Status

def Sensor.direct (sensor : Sensor) : DirectSensor :=
  ⟨sensor.chip.registers, sensor.pixformat, sensor.status⟩

/-- No transaction fails. -/
def Bus.Reliable (bus : Bus) : Prop :=
  ∀ number, bus.answers number = none

/-- A bank that can be selected. -/
def IsBank (bank : Byte) : Prop :=
  bank = bankDsp ∨ bank = bankSensor

instance (bank : Byte) : Decidable (IsBank bank) :=
  inferInstanceAs (Decidable (_ ∨ _))

/-- The register that starts a reset does not hold the bit for it. -/
def Registers.Quiet (registers : Registers) : Prop :=
  registers bankSensor com7 &&& com7Srst = 0

/-- The bank can be selected: if the variable has the bank, so has the sensor. -/
def Sensor.Selectable (sensor : Sensor) (bank : Byte) : Prop :=
  sensor.regBank = bank → sensor.chip.selected = bank

/-- The variable is right about the sensor. -/
structure Sensor.Selected (sensor : Sensor) : Prop where
  selectable : ∀ bank, IsBank bank → sensor.Selectable bank
  quiet : sensor.chip.registers.Quiet

/-- The sensor with the bank selected and in the variable. -/
def Sensor.moved (sensor : Sensor) (bank : Byte) (registers : Registers) (clock : Nat) : Sensor :=
  { sensor with regBank := bank, chip := ⟨bank, registers⟩, clock := clock }

/-- The variable has a bank, and the sensor has selected another one. -/
def Sensor.misled (sensor : Sensor) (bank other : Byte) (registers : Registers) (clock : Nat) :
    Sensor :=
  { sensor with regBank := bank, chip := ⟨other, registers⟩, clock := clock }

variable {bus : Bus} {caching : Bool} {sensor : Sensor} {bank other : Byte}
  {registers : Registers} {clock : Nat}

theorem Registers.Quiet.store (quiet : registers.Quiet) {reg value : Byte}
    (plain : ¬StartsReset bank reg value) : (registers.store bank reg value).Quiet := by
  unfold Registers.Quiet Registers.store
  split
  next same =>
    rcases same with ⟨rfl, rfl⟩
    by_contra set
    exact plain ⟨rfl, rfl, set⟩
  next => exact quiet

theorem IsBank.chip_bank (isBank : IsBank bank) (registers : Registers) :
    Chip.bank ⟨bank, registers⟩ = bank := by
  simp only [Chip.bank]
  rcases isBank with rfl | rfl <;> decide

theorem Sensor.moved_self (inVariable : sensor.regBank = bank)
    (inSensor : sensor.chip.selected = bank) :
    sensor.moved bank sensor.chip.registers sensor.clock = sensor := by
  rcases sensor with ⟨regBank, ⟨selected, registers⟩, clock, pixformat, status⟩
  cases inVariable
  cases inSensor
  rfl

theorem Sensor.direct_moved :
    (sensor.moved bank registers clock).direct = { sensor.direct with registers := registers } :=
  rfl

theorem Sensor.moved_selectable (other : Byte) :
    (sensor.moved bank registers clock).Selectable other :=
  id

theorem Sensor.moved_selected (quiet : registers.Quiet) :
    (sensor.moved bank registers clock).Selected :=
  ⟨fun other _ => Sensor.moved_selectable other, quiet⟩

/-! ## Transactions -/

/-- A bank is selected, with or without a transaction. -/
theorem setBank_eq (reliable : bus.Reliable) (selectable : sensor.Selectable bank) :
    ∃ clock, setBank bus caching bank sensor =
      (0, sensor.moved bank sensor.chip.registers clock) := by
  unfold setBank
  split
  next same =>
    refine ⟨sensor.clock, ?_⟩
    rw [Sensor.moved_self same.2.symm (selectable same.2.symm)]
  next =>
    refine ⟨sensor.clock + 1, ?_⟩
    simp only [sccbWrite, reliable sensor.clock, Chip.write, if_true]
    rfl

/-- A register of the bank that the sensor has selected is written, whatever the variable says. -/
theorem sccbWrite_misled (isOther : IsBank other) (answered : bus.answers clock = none)
    {reg value : Byte} (inside : reg ≠ bankSel) (plain : ¬StartsReset other reg value) :
    sccbWrite bus reg value (sensor.misled bank other registers clock) =
      (0, sensor.misled bank other (registers.store other reg value) (clock + 1)) := by
  simp only [sccbWrite, Sensor.misled, answered, Chip.write, if_neg inside, isOther.chip_bank,
    if_neg plain]

/-- What is read in a bank: `BANK_SEL` has the bank itself. -/
def Registers.peek (registers : Registers) (bank reg : Byte) : Byte :=
  if reg = bankSel then bank else registers bank reg

theorem sccbRead_misled (isOther : IsBank other) (answered : bus.answers clock = none)
    (reg : Byte) :
    sccbRead bus reg (sensor.misled bank other registers clock) =
      (registers.peek other reg, sensor.misled bank other registers (clock + 1)) := by
  simp only [sccbRead, Sensor.misled, answered, Chip.read, isOther.chip_bank, Registers.peek]

/-- A register of the selected bank is written. -/
theorem sccbWrite_moved (reliable : bus.Reliable) (isBank : IsBank bank) {reg value : Byte}
    (inside : reg ≠ bankSel) (plain : ¬StartsReset bank reg value) :
    sccbWrite bus reg value (sensor.moved bank registers clock) =
      (0, sensor.moved bank (registers.store bank reg value) (clock + 1)) :=
  sccbWrite_misled isBank (reliable clock) inside plain

theorem sccbRead_moved (reliable : bus.Reliable) (isBank : IsBank bank) (reg : Byte) :
    sccbRead bus reg (sensor.moved bank registers clock) =
      (registers.peek bank reg, sensor.moved bank registers (clock + 1)) :=
  sccbRead_misled isBank (reliable clock) reg

/-- A reset puts the sensor into its factory state; the variable is not changed. -/
theorem sccbWrite_srst (reliable : bus.Reliable) :
    sccbWrite bus com7 com7Srst (sensor.moved bankSensor registers clock) =
      (0, { sensor with regBank := bankSensor, chip := bus.factory, clock := clock + 1 }) := by
  have bank := IsBank.chip_bank (Or.inr rfl : IsBank bankSensor) registers
  have restarted : Chip.write ⟨bankSensor, registers⟩ bus.factory com7 com7Srst = bus.factory := by
    rw [Chip.write, if_neg (by decide), if_pos (by rw [bank]; decide)]
  simp only [sccbWrite, Sensor.moved, reliable clock, restarted]

/-! ## Tables -/

/-- The banks, registers and values that a table writes. -/
def tableWrites : Byte → List (Byte × Byte) → List (Byte × Byte × Byte)
  | _, [] => []
  | bank, (reg, value) :: others =>
      if reg = 0 then []
      else if reg = bankSel then tableWrites value others
      else (bank, reg, value) :: tableWrites bank others

/-- The table selects only banks and does not start a reset. -/
def entriesValid : Byte → List (Byte × Byte) → Bool
  | _, [] => true
  | bank, (reg, value) :: others =>
      if reg = 0 then true
      else if reg = bankSel then decide (IsBank value) && entriesValid value others
      else !decide (StartsReset bank reg value) && entriesValid bank others

/-- The table starts with a bank. -/
def tableValid : List (Byte × Byte) → Bool
  | [] => false
  | (reg, value) :: others =>
      decide (reg = bankSel) && (decide (IsBank value) && entriesValid value others)

/-- The registers after some writes. -/
def Registers.storeAll (registers : Registers) (writes : List (Byte × Byte × Byte)) : Registers :=
  writes.foldl (fun registers write => registers.store write.1 write.2.1 write.2.2) registers

/-- The last value that is written to a register. -/
def lastWrite (bank reg : Byte) : List (Byte × Byte × Byte) → Option Byte
  | [] => none
  | write :: writes =>
      (lastWrite bank reg writes).or
        (if bank = write.1 ∧ reg = write.2.1 then some write.2.2 else none)

theorem storeAll_apply (writes : List (Byte × Byte × Byte)) (bank reg : Byte) :
    registers.storeAll writes bank reg = (lastWrite bank reg writes).getD (registers bank reg) := by
  induction writes generalizing registers with
  | nil => rfl
  | cons write writes ih =>
      rw [Registers.storeAll, List.foldl_cons]
      refine Eq.trans ih ?_
      rw [lastWrite]
      cases lastWrite bank reg writes with
      | some value => rfl
      | none =>
          rw [Option.getD_none, Option.none_or, Registers.store]
          split <;> rfl

/-- A valid table does not write the bit that starts a reset. -/
theorem Registers.Quiet.storeAll (quiet : registers.Quiet) {table : List (Byte × Byte)}
    (valid : entriesValid bank table = true) :
    (registers.storeAll (tableWrites bank table)).Quiet := by
  induction table generalizing bank registers with
  | nil => exact quiet
  | cons entry table ih =>
      rcases entry with ⟨reg, value⟩
      rw [tableWrites]
      rw [entriesValid] at valid
      split
      next => exact quiet
      next nonzero =>
        rw [if_neg nonzero] at valid
        split
        next select =>
          rw [if_pos select, Bool.and_eq_true] at valid
          exact ih quiet valid.2
        next inside =>
          rw [if_neg inside, Bool.and_eq_true, Bool.not_eq_true', decide_eq_false_iff_not] at valid
          exact ih (quiet.store valid.1) valid.2

theorem writeRegs_moved (reliable : bus.Reliable) {table : List (Byte × Byte)}
    (isBank : IsBank bank) (valid : entriesValid bank table = true) :
    ∃ last time, writeRegs bus caching table (sensor.moved bank registers clock) =
      (0, sensor.moved last (registers.storeAll (tableWrites bank table)) time) := by
  induction table generalizing bank registers clock with
  | nil => exact ⟨bank, clock, rfl⟩
  | cons entry table ih =>
      rcases entry with ⟨reg, value⟩
      rw [writeRegs, tableWrites]
      rw [entriesValid] at valid
      split
      next => exact ⟨bank, clock, rfl⟩
      next nonzero =>
        rw [if_neg nonzero] at valid
        split
        next select =>
          rw [if_pos select, Bool.and_eq_true, decide_eq_true_eq] at valid
          rcases @setBank_eq bus caching (sensor.moved bank registers clock) value reliable
            (Sensor.moved_selectable value) with ⟨time, done⟩
          rw [Fallible.andThen_of_success done]
          exact ih valid.1 valid.2
        next inside =>
          rw [if_neg inside, Bool.and_eq_true, Bool.not_eq_true', decide_eq_false_iff_not] at valid
          rw [Fallible.andThen_of_success (sccbWrite_moved reliable isBank inside valid.1)]
          exact ih isBank valid.2

/-! ## What the calls are for -/

/-- A register gets another value. -/
def DirectSensor.write (direct : DirectSensor) (bank reg value : Byte) : DirectSensor :=
  { direct with registers := direct.registers.store bank reg value }

/-- A field of a register gets another value. -/
def DirectSensor.writeBits (direct : DirectSensor) (bank reg : Byte) (offset : Nat)
    (mask value : Byte) : DirectSensor :=
  direct.write bank reg (setBits (direct.registers bank reg) offset mask value)

/-- All writes of a table. -/
def DirectSensor.writeTable (direct : DirectSensor) (table : List (Byte × Byte)) : DirectSensor :=
  { direct with registers := direct.registers.storeAll (tableWrites 0 table) }

/-- A change of the status. -/
def DirectSensor.note (direct : DirectSensor) (change : Status → Status) : DirectSensor :=
  { direct with status := change direct.status }

/-- The format and its table. -/
def DirectSensor.setFormat (direct : DirectSensor) (pixformat : PixFormat) : DirectSensor :=
  DirectSensor.writeTable { direct with pixformat := pixformat }
    ((formatSettings pixformat).getD [])

/-- The mode, the part of the picture and the clocks for a format, and then the format. -/
def DirectSensor.window (direct : DirectSensor) (pixformat : PixFormat)
    (mode offsetX offsetY maxX maxY w h : BitVec 32) : DirectSensor :=
  let bypassed := direct.write bankDsp rBypass 0x01
  let moded := bypassed.writeTable (modeSettings mode)
  let windowed := moded.writeTable
    (winRegs offsetX offsetY (maxX.sdiv 4) (maxY.sdiv 4) (w.sdiv 4) (h.sdiv 4))
  let clocked := windowed.write bankSensor clkrc (clk pixformat mode)
  let speeded := clocked.write bankDsp rDvpSp (pclk pixformat mode)
  let enabled := speeded.write bankDsp rBypass 0x00
  enabled.setFormat enabled.pixformat

/-- The window for the format that is set. -/
def DirectSensor.setWindow (direct : DirectSensor)
    (mode offsetX offsetY maxX maxY w h : BitVec 32) : DirectSensor :=
  direct.window direct.pixformat mode offsetX offsetY maxX maxY w h

/-- A row of a table of levels. -/
def DirectSensor.writeRow (direct : DirectSensor) (bank : Byte) (regs : List (List Byte))
    (row : Nat) : DirectSensor :=
  ((regs.getD 0 []).zip (regs.getD row [])).foldl
    (fun direct entry => direct.write bank entry.1 entry.2) direct

/-! ## The calls do what they are for -/

theorem acts_note (change : Status → Status) :
    Fallible.Acts Sensor.Selected Sensor.direct (note change) 0 (fun d => d.note change) := by
  apply Fallible.Acts.modify
  · intro sensor selected
    exact ⟨selected.selectable, selected.quiet⟩
  · intro sensor
    rfl

theorem acts_answer (code : Int) :
    Fallible.Acts Sensor.Selected Sensor.direct (answer code) code id :=
  ⟨fun _ _ => rfl, fun _ selected => selected, fun _ _ => rfl⟩

theorem tableValid_winRegs (offsetX offsetY maxX maxY w h : BitVec 32) :
    tableValid (winRegs offsetX offsetY maxX maxY w h) = true := by
  simp [tableValid, winRegs, entriesValid, StartsReset, IsBank]

theorem tableValid_modeSettings (mode : BitVec 32) : tableValid (modeSettings mode) = true := by
  unfold modeSettings
  split
  next => decide +kernel
  next =>
    split
    next => decide +kernel
    next => decide +kernel

section Acts

variable (reliable : bus.Reliable)

include reliable

/-- A register is written in its bank. -/
theorem acts_writeReg {reg value : Byte} (isBank : IsBank bank) (inside : reg ≠ bankSel)
    (plain : ¬StartsReset bank reg value) :
    Fallible.Acts Sensor.Selected Sensor.direct (writeReg bus caching bank reg value) 0
      (fun d => d.write bank reg value) := by
  apply Fallible.Acts.of_result
  intro sensor selected
  rcases @setBank_eq bus caching sensor bank reliable (selected.selectable bank isBank) with
    ⟨clock, done⟩
  refine ⟨sensor.moved bank (sensor.chip.registers.store bank reg value) (clock + 1), ?_,
    Sensor.moved_selected (selected.quiet.store plain), rfl⟩
  rw [writeReg, Fallible.andThen_of_success done]
  exact sccbWrite_moved reliable isBank inside plain

/-- What is read in a bank. -/
theorem readReg_peek (isBank : IsBank bank) (reg : Byte) (selected : sensor.Selected) :
    ∃ last, readReg bus caching bank reg sensor = (sensor.direct.registers.peek bank reg, last) ∧
      last.Selected ∧ last.direct = sensor.direct := by
  rcases @setBank_eq bus caching sensor bank reliable (selected.selectable bank isBank) with
    ⟨clock, done⟩
  refine ⟨sensor.moved bank sensor.chip.registers (clock + 1), ?_,
    Sensor.moved_selected selected.quiet, rfl⟩
  rw [readReg, done, if_neg (by simp)]
  exact sccbRead_moved reliable isBank reg

/-- A register is read in its bank. -/
theorem readReg_eq {reg : Byte} (isBank : IsBank bank) (inside : reg ≠ bankSel)
    (selected : sensor.Selected) :
    ∃ last, readReg bus caching bank reg sensor = (sensor.direct.registers bank reg, last) ∧
      last.Selected ∧ last.direct = sensor.direct := by
  rcases @readReg_peek bus caching sensor bank reliable isBank reg selected with
    ⟨last, read, kept, same⟩
  rw [Registers.peek, if_neg inside] at read
  exact ⟨last, read, kept, same⟩

/-- A field of a register is written in its bank, and no reset is started. -/
theorem acts_setRegBits {reg mask value : Byte} {offset : Nat} (isBank : IsBank bank)
    (inside : reg ≠ bankSel)
    (apart : bank = bankSensor ∧ reg = com7 → FieldsApart offset mask 0 com7Srst) :
    Fallible.Acts Sensor.Selected Sensor.direct
      (setRegBits bus caching bank reg offset mask value) 0
      (fun d => d.writeBits bank reg offset mask value) := by
  apply Fallible.Acts.of_result
  intro sensor selected
  have plain : ¬StartsReset bank reg
      (setBits (sensor.chip.registers bank reg) offset mask value) := by
    rintro ⟨rfl, rfl, set⟩
    have kept := getBits_setBits_of_apart (by decide : FieldFits 0 com7Srst)
      (apart ⟨rfl, rfl⟩) (sensor.chip.registers bankSensor com7) value
    simp only [getBits, BitVec.ushiftRight_zero] at kept
    rw [kept] at set
    exact set selected.quiet
  rcases @setBank_eq bus caching sensor bank reliable (selected.selectable bank isBank) with
    ⟨clock, done⟩
  refine ⟨sensor.moved bank (sensor.chip.registers.store bank reg _) (clock + 1 + 1), ?_,
    Sensor.moved_selected (selected.quiet.store plain), rfl⟩
  rw [setRegBits, Fallible.andThen_of_success done]
  simp only [sccbRead_moved reliable isBank reg, Registers.peek, if_neg inside]
  exact sccbWrite_moved reliable isBank inside plain

/-- A table is written, if the bank that it selects first can be selected. -/
theorem writeRegs_table {table : List (Byte × Byte)} (valid : tableValid table = true)
    (selectable : ∀ bank, IsBank bank → table.head? = some (bankSel, bank) →
      sensor.Selectable bank) :
    ∃ last time, writeRegs bus caching table sensor =
      (0, sensor.moved last (sensor.chip.registers.storeAll (tableWrites 0 table)) time) := by
  cases table with
  | nil => cases valid
  | cons entry table =>
      rcases entry with ⟨reg, bank⟩
      simp only [tableValid, Bool.and_eq_true, decide_eq_true_eq] at valid
      rcases valid with ⟨rfl, isBank, entries⟩
      rcases @setBank_eq bus caching sensor bank reliable (selectable bank isBank rfl) with
        ⟨clock, done⟩
      rw [writeRegs, if_neg (by decide), if_pos rfl, Fallible.andThen_of_success done]
      exact writeRegs_moved reliable isBank entries

theorem acts_writeRegs {table : List (Byte × Byte)} (valid : tableValid table = true) :
    Fallible.Acts Sensor.Selected Sensor.direct (writeRegs bus caching table) 0
      (fun d => d.writeTable table) := by
  apply Fallible.Acts.of_result
  intro sensor selected
  rcases @writeRegs_table bus caching sensor reliable table valid
    (fun bank isBank _ => selected.selectable bank isBank) with ⟨last, time, done⟩
  have kept : (sensor.chip.registers.storeAll (tableWrites 0 table)).Quiet := by
    cases table with
    | nil => cases valid
    | cons entry table =>
        simp only [tableValid, Bool.and_eq_true, decide_eq_true_eq] at valid
        rw [tableWrites, if_neg (by rw [valid.1]; decide), if_pos valid.1]
        exact selected.quiet.storeAll valid.2.2
  exact ⟨_, done, Sensor.moved_selected kept, rfl⟩

/-- After a reset the variable is right, whatever the factory values are: the first table
entry selects the other bank. -/
theorem sensorReset_eq (selectable : sensor.Selectable bankSensor) :
    ∃ last, sensorReset bus caching sensor = (0, last) ∧ last.Selected ∧
      last.direct = { sensor.direct with
        registers := bus.factory.registers.storeAll (tableWrites 0 ov2640SettingsCif) } := by
  rcases @setBank_eq bus caching sensor bankSensor reliable selectable with ⟨clock, done⟩
  have restarted : writeReg bus caching bankSensor com7 com7Srst sensor =
      (0, { sensor with regBank := bankSensor, chip := bus.factory, clock := clock + 1 }) := by
    rw [writeReg, Fallible.andThen_of_success done]
    exact sccbWrite_srst reliable
  have other : ∀ bank, IsBank bank → ov2640SettingsCif.head? = some (bankSel, bank) →
      Sensor.Selectable
        { sensor with regBank := bankSensor, chip := bus.factory, clock := clock + 1 } bank := by
    intro bank _ first same
    cases first
    cases same
  rcases @writeRegs_table bus caching _ reliable ov2640SettingsCif (by decide +kernel) other with
    ⟨last, time, written⟩
  have quiet : (bus.factory.registers.storeAll (tableWrites 0 ov2640SettingsCif)).Quiet := by
    have written : lastWrite bankSensor com7 (tableWrites 0 ov2640SettingsCif) = some 0x20 := by
      decide +kernel
    rw [Registers.Quiet, storeAll_apply, written, Option.getD_some]
    decide
  exact ⟨_, (Fallible.andThen_of_success restarted).trans written, Sensor.moved_selected quiet,
    Sensor.direct_moved⟩

theorem acts_setPixformat (pixformat : PixFormat) :
    Fallible.Acts Sensor.Selected Sensor.direct (setPixformat bus caching pixformat)
      (if (formatSettings pixformat).isSome then 0 else -1) (fun d => d.setFormat pixformat) := by
  have noted : Fallible.Acts Sensor.Selected Sensor.direct
      (Fallible.modify fun sensor => { sensor with pixformat := pixformat }) 0
      (fun d => { d with pixformat := pixformat }) := by
    apply Fallible.Acts.modify
    · intro sensor selected
      exact ⟨selected.selectable, selected.quiet⟩
    · intro sensor
      rfl
  cases pixformat with
  | rgb444 | rgb555 => exact noted.andThen (acts_answer (-1))
  | rgb565 | rgb888 | yuv422 | grayscale | jpeg | raw =>
      exact noted.andThen (acts_writeRegs reliable (by decide +kernel))

theorem acts_setWindow (mode offsetX offsetY maxX maxY w h : BitVec 32) :
    Fallible.Acts Sensor.Selected Sensor.direct
      (setWindow bus caching mode offsetX offsetY maxX maxY w h) 0
      (fun d => d.setWindow mode offsetX offsetY maxX maxY w h) := by
  have format : Fallible.Acts Sensor.Selected Sensor.direct
      (fun sensor => (0, (setPixformat bus caching sensor.pixformat sensor).2)) 0
      (fun d => d.setFormat d.pixformat) := by
    apply Fallible.Acts.of_agrees
    intro sensor _
    exact ⟨_, _, (acts_setPixformat reliable sensor.pixformat).recode fun _ => 0, rfl, rfl⟩
  have steps : ∀ pixformat, Fallible.Acts Sensor.Selected Sensor.direct
      (Fallible.sequence
        (windowWrites bus caching pixformat mode offsetX offsetY maxX maxY w h)) 0
      (fun d => d.window pixformat mode offsetX offsetY maxX maxY w h) := by
    intro pixformat
    have bypass := @acts_writeReg bus caching bankDsp reliable rBypass 0x01 (Or.inl rfl)
      (by decide) (by decide)
    have moded := @acts_writeRegs bus caching reliable _ (tableValid_modeSettings mode)
    have windowed := @acts_writeRegs bus caching reliable _ (tableValid_winRegs offsetX offsetY
      (maxX.sdiv 4) (maxY.sdiv 4) (w.sdiv 4) (h.sdiv 4))
    have clocked := @acts_writeReg bus caching bankSensor reliable clkrc (clk pixformat mode)
      (Or.inr rfl) (by decide) (by simp [StartsReset])
    have speeded := @acts_writeReg bus caching bankDsp reliable rDvpSp (pclk pixformat mode)
      (Or.inl rfl) (by decide) (by simp [StartsReset])
    have enabled := @acts_writeReg bus caching bankDsp reliable rBypass 0x00 (Or.inl rfl)
      (by decide) (by decide)
    exact bypass.andThen (moded.andThen (windowed.andThen (clocked.andThen (speeded.andThen
      (enabled.andThen (format.andThen (acts_answer 0)))))))
  apply Fallible.Acts.of_agrees
  intro sensor _
  exact ⟨_, _, steps sensor.pixformat, rfl, rfl⟩

end Acts

end ECam.Camera
