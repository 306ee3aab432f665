import Mathlib.Tactic

/-!
# Ring buffers

A stream of values is stored in a buffer of fixed size, starting again at the beginning
whenever the end is reached.  The buffer holds the last values of the stream; a block of it
can be read as long as not so many further values have arrived that it was overwritten.
-/

namespace ECam.Library

variable {Value : Type} {ring : Nat} {received : List Value} {memory : Nat → Value}

/-- The last `ring` received values are where they were stored. -/
def RingHolds (ring : Nat) (received : List Value) (memory : Nat → Value) : Prop :=
  ∀ (index : Nat) (value : Value), received[index]? = some value →
    received.length ≤ index + ring → memory (index % ring) = value

theorem RingHolds.empty : RingHolds ring [] memory := by
  intro index value selected
  cases selected

/-- Storing the next value. -/
theorem RingHolds.store (holds : RingHolds ring received memory) (value : Value) :
    RingHolds ring (received ++ [value])
      (Function.update memory (received.length % ring) value) := by
  intro index other selected recent
  rw [List.length_append, List.length_singleton] at recent
  rcases Nat.lt_trichotomy index received.length with earlier | last | beyond
  · rw [List.getElem?_append_left earlier] at selected
    have elsewhere : index % ring ≠ received.length % ring := by
      intro same
      have distance := Nat.sub_mod_eq_zero_of_mod_eq same.symm
      have whole : received.length - index < ring := by omega
      rw [Nat.mod_eq_of_lt whole] at distance
      omega
    rw [Function.update_of_ne elsewhere]
    exact holds index other selected (by omega)
  · rw [last, List.getElem?_concat_length, Option.some.injEq] at selected
    rw [last, selected, Function.update_self]
  · rw [List.getElem?_eq_none (by rw [List.length_append, List.length_singleton]; omega)]
      at selected
    cases selected

/-- The position of a value of a block. -/
theorem block_mod {count width : Nat} (block : Nat) {offset : Nat} (inside : offset < width)
    (positive : 0 < count) :
    (block * width + offset) % (count * width) = block % count * width + offset := by
  have split := Nat.div_add_mod block count
  have whole : block * width + offset =
      count * width * (block / count) + (block % count * width + offset) := by
    calc
      block * width + offset = (count * (block / count) + block % count) * width + offset := by
        rw [split]
      _ = count * width * (block / count) + (block % count * width + offset) := by ring
  have below : block % count * width + offset < count * width := by
    have less : block % count + 1 ≤ count := Nat.mod_lt block positive
    calc
      block % count * width + offset < block % count * width + width := by omega
      _ = (block % count + 1) * width := by ring
      _ ≤ count * width := Nat.mul_le_mul_right width less
  rw [whole, Nat.mul_add_mod, Nat.mod_eq_of_lt below]

/-- A block that has been received completely, and not been overwritten since, is read as it
was received. -/
theorem RingHolds.block {count width block offset : Nat}
    (holds : RingHolds (count * width) received memory) (positive : 0 < count)
    (inside : offset < width) (complete : (block + 1) * width ≤ received.length)
    (recent : received.length ≤ (block + count) * width) :
    received[block * width + offset]? = some (memory (block % count * width + offset)) := by
  have received' : block * width + offset < received.length := by
    rw [Nat.add_mul, Nat.one_mul] at complete
    omega
  have stored := holds (block * width + offset) _ (List.getElem?_eq_getElem received')
    (by rw [Nat.add_mul] at recent; omega)
  rw [block_mod block inside positive] at stored
  rw [stored, List.getElem?_eq_getElem received']

end ECam.Library
