import Mathlib.Tactic

/-!
# Fields of a word

A field of a word is a mask that is shifted by an offset.  A field can be written without a
change to the other bits and read back.
-/

namespace ECam.Library

variable {width : Nat}

/-- The word with another value in a field. -/
def setBits (word : BitVec width) (offset : Nat) (mask value : BitVec width) : BitVec width :=
  (word &&& ~~~(mask <<< offset)) ||| ((value &&& mask) <<< offset)

/-- The value of a field. -/
def getBits (word : BitVec width) (offset : Nat) (mask : BitVec width) : BitVec width :=
  (word >>> offset) &&& mask

/-- No bit of the mask is shifted out. -/
def FieldFits (offset : Nat) (mask : BitVec width) : Prop :=
  mask <<< offset >>> offset = mask

instance (offset : Nat) (mask : BitVec width) : Decidable (FieldFits offset mask) :=
  inferInstanceAs (Decidable (_ = _))

/-- Two fields have no bit in common. -/
def FieldsApart (offset : Nat) (mask : BitVec width) (otherOffset : Nat)
    (otherMask : BitVec width) : Prop :=
  mask <<< offset &&& otherMask <<< otherOffset = 0

instance (offset : Nat) (mask : BitVec width) (otherOffset : Nat) (otherMask : BitVec width) :
    Decidable (FieldsApart offset mask otherOffset otherMask) :=
  inferInstanceAs (Decidable (_ = _))

/-- The bits of a mask that fits stay inside the word. -/
theorem FieldFits.bit {offset : Nat} {mask : BitVec width} (fits : FieldFits offset mask)
    {index : Nat} (set : mask.getLsbD index = true) : offset + index < width := by
  rw [← fits, BitVec.getLsbD_ushiftRight, BitVec.getLsbD_shiftLeft] at set
  simp only [Bool.and_eq_true, decide_eq_true_eq] at set
  exact set.1.1

/-- The bits of a field come from the value, all others from the word. -/
theorem getLsbD_setBits (word : BitVec width) (offset : Nat) (mask value : BitVec width)
    (index : Nat) :
    (setBits word offset mask value).getLsbD index =
      if (mask <<< offset).getLsbD index then value.getLsbD (index - offset)
      else word.getLsbD index := by
  simp only [setBits, BitVec.getLsbD_or, BitVec.getLsbD_and, BitVec.getLsbD_not,
    BitVec.getLsbD_shiftLeft]
  rcases Nat.lt_or_ge index width with inside | outside
  · cases mask.getLsbD (index - offset) <;> cases decide (index < offset) <;> simp [inside]
  · simp [BitVec.getLsbD_of_ge _ _ outside, Nat.not_lt.mpr outside]

theorem getBits_setBits {offset : Nat} {mask : BitVec width} (fits : FieldFits offset mask)
    (word value : BitVec width) :
    getBits (setBits word offset mask value) offset mask = value &&& mask := by
  apply BitVec.eq_of_getLsbD_eq
  intro index inside
  simp only [getBits, BitVec.getLsbD_and, BitVec.getLsbD_ushiftRight]
  cases set : mask.getLsbD index with
  | false => rw [Bool.and_false, Bool.and_false]
  | true =>
      have written : (mask <<< offset).getLsbD (offset + index) = true := by
        simp [set, fits.bit set]
      rw [getLsbD_setBits, if_pos written, Nat.add_sub_cancel_left]

theorem getBits_setBits_of_apart {offset otherOffset : Nat} {mask otherMask : BitVec width}
    (fits : FieldFits otherOffset otherMask)
    (apart : FieldsApart offset mask otherOffset otherMask) (word value : BitVec width) :
    getBits (setBits word offset mask value) otherOffset otherMask =
      getBits word otherOffset otherMask := by
  apply BitVec.eq_of_getLsbD_eq
  intro index inside
  simp only [getBits, BitVec.getLsbD_and, BitVec.getLsbD_ushiftRight]
  cases set : otherMask.getLsbD index with
  | false => rw [Bool.and_false, Bool.and_false]
  | true =>
      have other : (otherMask <<< otherOffset).getLsbD (otherOffset + index) = true := by
        simp [set, fits.bit set]
      have common := congrArg (fun bits => BitVec.getLsbD bits (otherOffset + index)) apart
      simp only [BitVec.getLsbD_and, other, Bool.and_true] at common
      have untouched : ¬(mask <<< offset).getLsbD (otherOffset + index) = true := by
        rw [common]
        simp
      rw [getLsbD_setBits, if_neg untouched]

/-- A field at the bottom of the word with its mask and value shifted is the field itself. -/
theorem setBits_shifted (word mask value : BitVec width) (offset : Nat) :
    setBits word 0 (mask <<< offset) (value <<< offset) = setBits word offset mask value := by
  simp only [setBits, BitVec.shiftLeft_zero, BitVec.shiftLeft_and_distrib]

end ECam.Library
