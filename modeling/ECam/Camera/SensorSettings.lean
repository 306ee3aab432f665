import Mathlib.Tactic

/-!
# Settings of the sensor

The registers of the sensor by their names, and the tables of the driver: lists of registers
and values that are written one after the other, up to an entry for register 0.  An entry for
`BANK_SEL` selects the bank of the following ones.
-/

namespace ECam.Camera

/-- A register or its value. -/
abbrev Byte := BitVec 8

/-! ## Registers -/

namespace Register

/-- `ov2640_bank_t`; the last one stands for a bank that is not known. -/
abbrev bankDsp : Byte := 0
abbrev bankSensor : Byte := 1
abbrev bankMax : Byte := 2

/-- Registers of the signal processor. -/
abbrev rBypass : Byte := 0x05
abbrev qs : Byte := 0x44
abbrev ctrli : Byte := 0x50
abbrev hsize : Byte := 0x51
abbrev vsize : Byte := 0x52
abbrev xoffl : Byte := 0x53
abbrev yoffl : Byte := 0x54
abbrev vhyx : Byte := 0x55
abbrev test : Byte := 0x57
abbrev zmow : Byte := 0x5A
abbrev zmoh : Byte := 0x5B
abbrev zmhh : Byte := 0x5C
abbrev bpaddr : Byte := 0x7C
abbrev bpdata : Byte := 0x7D
abbrev ctrl2 : Byte := 0x86
abbrev ctrl3 : Byte := 0x87
abbrev sizel : Byte := 0x8C
abbrev hsize8 : Byte := 0xC0
abbrev vsize8 : Byte := 0xC1
abbrev ctrl0 : Byte := 0xC2
abbrev ctrl1 : Byte := 0xC3
abbrev rDvpSp : Byte := 0xD3
abbrev imageMode : Byte := 0xDA
abbrev reset : Byte := 0xE0
abbrev mcBist : Byte := 0xF9
abbrev bankSel : Byte := 0xFF

/-- Registers of the sensor. -/
abbrev gain : Byte := 0x00
abbrev com1 : Byte := 0x03
abbrev reg04 : Byte := 0x04
abbrev com2 : Byte := 0x09
abbrev regPid : Byte := 0x0A
abbrev regVer : Byte := 0x0B
abbrev com4 : Byte := 0x0D
abbrev aec : Byte := 0x10
abbrev clkrc : Byte := 0x11
abbrev com7 : Byte := 0x12
abbrev com8 : Byte := 0x13
abbrev com9 : Byte := 0x14
abbrev hstart : Byte := 0x17
abbrev hstop : Byte := 0x18
abbrev vstart : Byte := 0x19
abbrev vstop : Byte := 0x1A
abbrev regMidh : Byte := 0x1C
abbrev regMidl : Byte := 0x1D
abbrev aew : Byte := 0x24
abbrev aeb : Byte := 0x25
abbrev vv : Byte := 0x26
abbrev reg32 : Byte := 0x32
abbrev arcom2 : Byte := 0x34
abbrev reg45 : Byte := 0x45
abbrev bd50 : Byte := 0x4F
abbrev bd60 : Byte := 0x50
abbrev histoLow : Byte := 0x61
abbrev histoHigh : Byte := 0x62

end Register

open Register

/-! ## Tables -/

/-- The settings after a reset. -/
def ov2640SettingsCif : List (Byte × Byte) :=
  [(bankSel, bankDsp), (0x2C, 0xFF), (0x2E, 0xDF), (bankSel, bankSensor), (0x3C, 0x32),
    (clkrc, 0x01), (com2, 0x02), (reg04, 0x28), (com8, 0xE5), (com9, 0x48), (0x2C, 0x0C),
    (0x33, 0x78), (0x3A, 0x33), (0x3B, 0xFB), (0x3E, 0x00), (0x43, 0x11), (0x16, 0x10),
    (0x39, 0x92), (0x35, 0xDA), (0x22, 0x1A), (0x37, 0xC3), (0x23, 0x00), (arcom2, 0xC0),
    (0x06, 0x88), (0x07, 0xC0), (com4, 0x87), (0x0E, 0x41), (0x4C, 0x00), (0x4A, 0x81),
    (0x21, 0x99), (aew, 0x40), (aeb, 0x38), (vv, 0x82), (0x5C, 0x00), (0x63, 0x00),
    (histoLow, 0x70), (histoHigh, 0x80), (0x7C, 0x05), (0x20, 0x80), (0x28, 0x30), (0x6C, 0x00),
    (0x6D, 0x80), (0x6E, 0x00), (0x70, 0x02), (0x71, 0x94), (0x73, 0xC1), (0x3D, 0x34),
    (0x5A, 0x57), (bd50, 0xBB), (bd60, 0x9C), (com7, 0x20), (hstart, 0x11), (hstop, 0x43),
    (vstart, 0x00), (vstop, 0x25), (reg32, 0x89), (0x37, 0xC0), (bd50, 0xCA), (bd60, 0xA8),
    (0x6D, 0x00), (0x3D, 0x38), (bankSel, bankDsp), (0xE5, 0x7F), (mcBist, 0xC0), (0x41, 0x24),
    (reset, 0x14), (0x76, 0xFF), (0x33, 0xA0), (0x42, 0x20), (0x43, 0x18), (0x4C, 0x00),
    (ctrl3, 0x50), (0x88, 0x3F), (0xD7, 0x03), (0xD9, 0x10), (rDvpSp, 0x82), (0xC8, 0x08),
    (0xC9, 0x80), (bpaddr, 0x00), (bpdata, 0x00), (bpaddr, 0x03), (bpdata, 0x48), (bpdata, 0x48),
    (bpaddr, 0x08), (bpdata, 0x20), (bpdata, 0x10), (bpdata, 0x0E), (0x90, 0x00), (0x91, 0x0E),
    (0x91, 0x1A), (0x91, 0x31), (0x91, 0x5A), (0x91, 0x69), (0x91, 0x75), (0x91, 0x7E),
    (0x91, 0x88), (0x91, 0x8F), (0x91, 0x96), (0x91, 0xA3), (0x91, 0xAF), (0x91, 0xC4),
    (0x91, 0xD7), (0x91, 0xE8), (0x91, 0x20), (0x92, 0x00), (0x93, 0x06), (0x93, 0xE3),
    (0x93, 0x05), (0x93, 0x05), (0x93, 0x00), (0x93, 0x04), (0x93, 0x00), (0x93, 0x00),
    (0x93, 0x00), (0x93, 0x00), (0x93, 0x00), (0x93, 0x00), (0x93, 0x00), (0x96, 0x00),
    (0x97, 0x08), (0x97, 0x19), (0x97, 0x02), (0x97, 0x0C), (0x97, 0x24), (0x97, 0x30),
    (0x97, 0x28), (0x97, 0x26), (0x97, 0x02), (0x97, 0x98), (0x97, 0x80), (0x97, 0x00),
    (0x97, 0x00), (0xA4, 0x00), (0xA8, 0x00), (0xC5, 0x11), (0xC6, 0x51), (0xBF, 0x80),
    (0xC7, 0x10), (0xB6, 0x66), (0xB8, 0xA5), (0xB7, 0x64), (0xB9, 0x7C), (0xB3, 0xAF),
    (0xB4, 0x97), (0xB5, 0xFF), (0xB0, 0xC5), (0xB1, 0x94), (0xB2, 0x0F), (0xC4, 0x5C),
    (ctrl0, 0x0C), (ctrl1, 0xFD), (0x7F, 0x00), (0xE5, 0x1F), (0xE1, 0x67), (0xDD, 0x7F),
    (imageMode, 0x00), (reset, 0x00), (rBypass, 0x00), (0x00, 0x00)]

/-- The parts of the sensor that are used. -/
def ov2640SettingsToCif : List (Byte × Byte) :=
  [(bankSel, bankSensor), (com7, 0x20), (com1, 0x0A), (reg32, 0x89), (hstart, 0x11),
    (hstop, 0x43), (vstart, 0x00), (vstop, 0x25), (bd50, 0xCA), (bd60, 0xA8), (0x5A, 0x23),
    (0x6D, 0x00), (0x3D, 0x38), (0x39, 0x92), (0x35, 0xDA), (0x22, 0x1A), (0x37, 0xC3),
    (0x23, 0x00), (arcom2, 0xC0), (0x06, 0x88), (0x07, 0xC0), (com4, 0x87), (0x0E, 0x41),
    (0x4C, 0x00), (bankSel, bankDsp), (reset, 0x04), (hsize8, 0x32), (vsize8, 0x25),
    (sizel, 0x00), (hsize, 0x64), (vsize, 0x4A), (xoffl, 0x00), (yoffl, 0x00), (vhyx, 0x00),
    (test, 0x00), (ctrl2, 0x3D), (ctrli, 0x80), (0x00, 0x00)]

def ov2640SettingsToSvga : List (Byte × Byte) :=
  [(bankSel, bankSensor), (com7, 0x40), (com1, 0x0A), (reg32, 0x09), (hstart, 0x11),
    (hstop, 0x43), (vstart, 0x00), (vstop, 0x4B), (0x37, 0xC0), (bd50, 0xCA), (bd60, 0xA8),
    (0x5A, 0x23), (0x6D, 0x00), (0x3D, 0x38), (0x39, 0x92), (0x35, 0xDA), (0x22, 0x1A),
    (0x37, 0xC3), (0x23, 0x00), (arcom2, 0xC0), (0x06, 0x88), (0x07, 0xC0), (com4, 0x87),
    (0x0E, 0x41), (0x42, 0x03), (0x4C, 0x00), (bankSel, bankDsp), (reset, 0x04), (hsize8, 0x64),
    (vsize8, 0x4B), (sizel, 0x00), (hsize, 0xC8), (vsize, 0x96), (xoffl, 0x00), (yoffl, 0x00),
    (vhyx, 0x00), (test, 0x00), (ctrl2, 0x3D), (ctrli, 0x80), (0x00, 0x00)]

def ov2640SettingsToUxga : List (Byte × Byte) :=
  [(bankSel, bankSensor), (com7, 0x00), (com1, 0x0F), (reg32, 0x36), (hstart, 0x11),
    (hstop, 0x75), (vstart, 0x01), (vstop, 0x97), (0x3D, 0x34), (bd50, 0xBB), (bd60, 0x9C),
    (0x5A, 0x57), (0x6D, 0x80), (0x39, 0x82), (0x23, 0x00), (0x07, 0xC0), (0x4C, 0x00),
    (0x35, 0x88), (0x22, 0x0A), (0x37, 0x40), (arcom2, 0xA0), (0x06, 0x02), (com4, 0xB7),
    (0x0E, 0x01), (0x42, 0x83), (bankSel, bankDsp), (reset, 0x04), (hsize8, 0xC8),
    (vsize8, 0x96), (sizel, 0x00), (hsize, 0x90), (vsize, 0x2C), (xoffl, 0x00), (yoffl, 0x00),
    (vhyx, 0x88), (test, 0x00), (ctrl2, 0x3D), (ctrli, 0x00), (0x00, 0x00)]

/-- The formats of the pixels. -/
def ov2640SettingsJpeg3 : List (Byte × Byte) :=
  [(bankSel, bankDsp), (reset, 0x14), (imageMode, 0x12), (0xD7, 0x03), (0xE1, 0x77),
    (0xE5, 0x1F), (0xD9, 0x10), (0xDF, 0x80), (0x33, 0x80), (0x3C, 0x10), (0xEB, 0x30),
    (0xDD, 0x7F), (reset, 0x00), (0x00, 0x00)]

def ov2640SettingsYuv422 : List (Byte × Byte) :=
  [(bankSel, bankDsp), (reset, 0x04), (imageMode, 0x00), (0xD7, 0x01), (0xE1, 0x67),
    (reset, 0x00), (0x00, 0x00)]

def ov2640SettingsRgb565 : List (Byte × Byte) :=
  [(bankSel, bankDsp), (reset, 0x04), (imageMode, 0x08), (0xD7, 0x03), (0xE1, 0x77),
    (reset, 0x00), (0x00, 0x00)]

def ov2640SettingsRaw : List (Byte × Byte) :=
  [(bankSel, bankDsp), (reset, 0x04), (imageMode, 0x04), (ctrl0, 0x01), (rDvpSp, 0x81),
    (0xD7, 0x03), (0xE1, 0x77), (reset, 0x00), (0x00, 0x00)]

/-- Values for the levels of a setting; the first row has the registers. -/
def brightnessRegs : List (List Byte) :=
  [[bpaddr, bpdata, bpaddr, bpdata, bpdata],
    [0x00, 0x04, 0x09, 0x00, 0x00],
    [0x00, 0x04, 0x09, 0x10, 0x00],
    [0x00, 0x04, 0x09, 0x20, 0x00],
    [0x00, 0x04, 0x09, 0x30, 0x00],
    [0x00, 0x04, 0x09, 0x40, 0x00]]

def contrastRegs : List (List Byte) :=
  [[bpaddr, bpdata, bpaddr, bpdata, bpdata, bpdata, bpdata],
    [0x00, 0x04, 0x07, 0x20, 0x18, 0x34, 0x06],
    [0x00, 0x04, 0x07, 0x20, 0x1C, 0x2A, 0x06],
    [0x00, 0x04, 0x07, 0x20, 0x20, 0x20, 0x06],
    [0x00, 0x04, 0x07, 0x20, 0x24, 0x16, 0x06],
    [0x00, 0x04, 0x07, 0x20, 0x28, 0x0C, 0x06]]

def saturationRegs : List (List Byte) :=
  [[bpaddr, bpdata, bpaddr, bpdata, bpdata],
    [0x00, 0x02, 0x03, 0x28, 0x28],
    [0x00, 0x02, 0x03, 0x38, 0x38],
    [0x00, 0x02, 0x03, 0x48, 0x48],
    [0x00, 0x02, 0x03, 0x58, 0x58],
    [0x00, 0x02, 0x03, 0x68, 0x68]]

def specialEffectsRegs : List (List Byte) :=
  [[bpaddr, bpdata, bpaddr, bpdata, bpdata],
    [0x00, 0x00, 0x05, 0x80, 0x80],
    [0x00, 0x40, 0x05, 0x80, 0x80],
    [0x00, 0x18, 0x05, 0x80, 0x80],
    [0x00, 0x18, 0x05, 0x40, 0xC0],
    [0x00, 0x18, 0x05, 0x40, 0x40],
    [0x00, 0x18, 0x05, 0xA0, 0x40],
    [0x00, 0x18, 0x05, 0x40, 0xA6]]

def wbModesRegs : List (List Byte) :=
  [[0xCC, 0xCD, 0xCE],
    [0x5E, 0x41, 0x54],
    [0x65, 0x41, 0x4F],
    [0x52, 0x41, 0x66],
    [0x42, 0x3F, 0x71],
    [0x71, 0x61, 0x71],
    [0xFF, 0x00, 0x00],
    [0x00, 0xFF, 0x00],
    [0x00, 0x00, 0xFF],
    [0x00, 0x88, 0x00],
    [0xFF, 0xE1, 0xC8],
    [0xFF, 0xFF, 0xFF]]

def aeLevelsRegs : List (List Byte) :=
  [[aew, aeb, vv],
    [0x20, 0x18, 0x60],
    [0x34, 0x1C, 0x00],
    [0x3E, 0x38, 0x81],
    [0x48, 0x40, 0x81],
    [0x58, 0x50, 0x92]]

def agcGainTbl : List Byte :=
  [0x00, 0x10, 0x18, 0x30, 0x34, 0x38, 0x3C, 0x70, 0x72, 0x74, 0x76, 0x78, 0x7A, 0x7C, 0x7E,
    0xF0, 0xF1, 0xF2, 0xF3, 0xF4, 0xF5, 0xF6, 0xF7, 0xF8, 0xF9, 0xFA, 0xFB, 0xFC, 0xFD, 0xFE,
    0xFF]

end ECam.Camera
