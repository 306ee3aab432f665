import Mathlib.Tactic

/-!
# Texts

Texts are lists of characters.  `replaceAll` is the ordinal substitution of every
occurrence of a pattern, found from left to right without overlaps, that string
libraries offer under the name `Replace`.  `decimal` prints an integer, and `writeArray`
a list of items in brackets.
-/

namespace ECam.Library

/-- Replace every occurrence of `old` by `new`.  After a match the remaining
characters of the occurrence are skipped, so occurrences never overlap. -/
def replaceFrom {α : Type} [BEq α] (old new : List α) : Nat → List α → List α
  | _, [] => []
  | skip + 1, _ :: rest => replaceFrom old new skip rest
  | 0, head :: rest =>
      if old.isPrefixOf (head :: rest) then
        new ++ replaceFrom old new (old.length - 1) rest
      else
        head :: replaceFrom old new 0 rest

/-- `text.Replace(old, new)` for a non-empty pattern. -/
def replaceAll {α : Type} [BEq α] (text old new : List α) : List α :=
  replaceFrom old new 0 text

section Replace

variable {α : Type} [BEq α] [LawfulBEq α] {old new head tail : List α} {first : α}

/-- Text in which the pattern cannot start is kept. -/
theorem replaceAll_append (absent : first ∉ head) :
    replaceAll (head ++ tail) (first :: old) new =
      head ++ replaceAll tail (first :: old) new := by
  induction head with
  | nil => rfl
  | cons char head ih =>
      rw [List.mem_cons, not_or] at absent
      have noMatch : (first :: old).isPrefixOf (char :: (head ++ tail)) = false := by
        simp [List.isPrefixOf, absent.1]
      simp only [replaceAll, List.cons_append, replaceFrom, noMatch, Bool.false_eq_true,
        if_false]
      rw [← replaceAll, ih absent.2, replaceAll]

omit [LawfulBEq α] in
theorem replaceFrom_skip (old new head tail : List α) :
    replaceFrom old new head.length (head ++ tail) = replaceFrom old new 0 tail := by
  induction head with
  | nil => rfl
  | cons char head ih =>
      rw [List.length_cons, List.cons_append, replaceFrom]
      exact ih

/-- An occurrence of the pattern is replaced. -/
theorem replaceAll_match :
    replaceAll (first :: old ++ tail) (first :: old) new =
      new ++ replaceAll tail (first :: old) new := by
  have found : (first :: old).isPrefixOf (first :: old ++ tail) = true := by
    rw [List.isPrefixOf_iff_prefix]
    exact List.prefix_append _ _
  rw [List.cons_append] at found
  simp only [replaceAll, List.cons_append, replaceFrom, found, if_true, List.length_cons,
    Nat.add_sub_cancel]
  rw [replaceFrom_skip]

omit [BEq α] [LawfulBEq α] in
/-- A character outside the pattern ends every occurrence that starts before it. -/
theorem prefix_append_cons_iff {char : α} (absent : char ∉ old) :
    old <+: head ++ char :: tail ↔ old <+: head := by
  constructor
  · intro starts
    rcases List.prefix_or_prefix_of_prefix starts (List.prefix_append head (char :: tail)) with
      within | ⟨rest, joined⟩
    · exact within
    · cases rest with
      | nil =>
          rw [← joined, List.append_nil]
      | cons first rest =>
          rw [← joined, List.prefix_append_right_inj, List.cons_prefix_cons] at starts
          have member : char ∈ old := by
            rw [← joined, starts.1]
            simp
          exact absurd member absent
  · intro within
    exact within.trans (List.prefix_append _ _)

theorem replaceFrom_append_cons {char : α} {skip : Nat} (absent : char ∉ old)
    (nonempty : old ≠ []) (inside : skip ≤ head.length) :
    replaceFrom old new skip (head ++ char :: tail) =
      replaceFrom old new skip head ++ char :: replaceAll tail old new := by
  induction head generalizing skip with
  | nil =>
      have zero : skip = 0 := Nat.le_zero.mp inside
      have noMatch : old.isPrefixOf (char :: tail) = false := by
        rw [Bool.eq_false_iff, ne_eq, List.isPrefixOf_iff_prefix]
        intro starts
        have empty : old <+: [] :=
          (prefix_append_cons_iff absent).mp (show old <+: [] ++ char :: tail from starts)
        exact nonempty (List.prefix_nil.mp empty)
      simp [zero, replaceFrom, noMatch, replaceAll]
  | cons first head ih =>
      cases skip with
      | succ skip => exact ih (Nat.le_of_succ_le_succ inside)
      | zero =>
          have sameTest : old.isPrefixOf (first :: (head ++ char :: tail)) =
              old.isPrefixOf (first :: head) := by
            rw [Bool.eq_iff_iff, List.isPrefixOf_iff_prefix, List.isPrefixOf_iff_prefix,
              ← List.cons_append, prefix_append_cons_iff absent]
          rw [List.cons_append, replaceFrom, replaceFrom, sameTest]
          split
          next matched =>
            have fits : old.length ≤ head.length + 1 :=
              (List.isPrefixOf_iff_prefix.mp matched).length_le
            rw [ih (by omega), List.append_assoc]
          next =>
            rw [ih (Nat.zero_le _)]
            rfl

/-- Texts on both sides of a character outside the pattern are replaced separately. -/
theorem replaceAll_append_cons {char : α} (absent : char ∉ old) (nonempty : old ≠ []) :
    replaceAll (head ++ char :: tail) old new =
      replaceAll head old new ++ char :: replaceAll tail old new :=
  replaceFrom_append_cons absent nonempty (Nat.zero_le _)

/-- Text without the pattern is kept. -/
theorem replaceAll_of_not_infix {text : List α} (absent : ¬old <:+: text) :
    replaceAll text old new = text := by
  induction text with
  | nil => rfl
  | cons char text ih =>
      rw [List.infix_cons_iff, not_or] at absent
      have noMatch : old.isPrefixOf (char :: text) = false := by
        rw [Bool.eq_false_iff, ne_eq, List.isPrefixOf_iff_prefix]
        exact absent.1
      rw [replaceAll, replaceFrom, noMatch, ← replaceAll, ih absent.2]
      rfl

/-- A pattern that does not get longer shortens the text, and one that does not get
shorter lengthens it. -/
theorem length_replaceFrom {text : List α} {skip : Nat} (nonempty : old ≠ [])
    (inside : skip ≤ text.length) :
    (new.length ≤ old.length → (replaceFrom old new skip text).length + skip ≤ text.length) ∧
      (old.length ≤ new.length →
        text.length ≤ (replaceFrom old new skip text).length + skip) := by
  induction text generalizing skip with
  | nil => simp_all [replaceFrom]
  | cons char text ih =>
      have positive := List.length_pos_iff.mpr nonempty
      cases skip with
      | succ skip =>
          rcases ih (Nat.le_of_succ_le_succ inside) with ⟨upper, lower⟩
          simp only [replaceFrom, List.length_cons]
          constructor
          · intro shorter
            have bound := upper shorter
            omega
          · intro longer
            have bound := lower longer
            omega
      | zero =>
          rw [replaceFrom]
          split
          next matched =>
            have fits : old.length ≤ text.length + 1 :=
              (List.isPrefixOf_iff_prefix.mp matched).length_le
            rcases @ih (old.length - 1) (by omega) with ⟨upper, lower⟩
            simp only [List.length_append, List.length_cons]
            constructor
            · intro shorter
              have bound := upper shorter
              omega
            · intro longer
              have bound := lower longer
              omega
          next =>
            rcases ih (Nat.zero_le _) with ⟨upper, lower⟩
            simp only [List.length_cons]
            constructor
            · intro shorter
              have bound := upper shorter
              omega
            · intro longer
              have bound := lower longer
              omega

/-- Replacing changes a text with an occurrence of the pattern, unless the pattern is
replaced by itself. -/
theorem eq_of_replaceAll_eq_self {text : List α} (occurs : first :: old <:+: text)
    (same : replaceAll text (first :: old) new = text) : new = first :: old := by
  induction text with
  | nil => cases List.infix_nil.mp occurs
  | cons char text ih =>
      cases matched : (first :: old).isPrefixOf (char :: text) with
      | true =>
          rcases List.isPrefixOf_iff_prefix.mp matched with ⟨after, joined⟩
          rw [← joined, replaceAll_match] at same
          have sizes : (new.length ≤ (first :: old).length →
              (replaceAll after (first :: old) new).length + 0 ≤ after.length) ∧
              ((first :: old).length ≤ new.length →
                after.length ≤ (replaceAll after (first :: old) new).length + 0) :=
            length_replaceFrom (List.cons_ne_nil first old) (Nat.zero_le after.length)
          have total := congrArg List.length same
          simp only [List.length_append] at total
          have equal : new.length = (first :: old).length := by
            rcases Nat.le_total new.length (first :: old).length with shorter | longer
            · have upper := sizes.1 shorter
              omega
            · have lower := sizes.2 longer
              omega
          exact (List.append_inj same equal).1
      | false =>
          rw [replaceAll, replaceFrom, matched, ← replaceAll] at same
          have later : first :: old <:+: text := by
            rcases List.infix_cons_iff.mp occurs with starts | later
            · rw [← List.isPrefixOf_iff_prefix, matched] at starts
              cases starts
            · exact later
          exact ih later (List.cons.inj same).2

theorem replaceAll_self (text : List α) :
    replaceAll text (first :: old) (first :: old) = text := by
  induction total : text.length using Nat.strong_induction_on generalizing text with
  | _ size ih =>
      cases text with
      | nil => rfl
      | cons char text =>
          cases matched : (first :: old).isPrefixOf (char :: text) with
          | true =>
              rcases List.isPrefixOf_iff_prefix.mp matched with ⟨after, joined⟩
              have shorter : after.length < size := by
                rw [← total, ← joined]
                simp
              rw [← joined, replaceAll_match, ih after.length shorter after rfl]
          | false =>
              rw [replaceAll, replaceFrom, matched, ← replaceAll]
              have shorter : text.length < size := by
                rw [← total]
                simp
              rw [ih text.length shorter text rfl]
              rfl

/-- A replacement leaves the text as it is exactly if the pattern does not occur in it
or is replaced by itself. -/
theorem replaceAll_eq_self_iff {text : List α} :
    replaceAll text (first :: old) new = text ↔
      ¬first :: old <:+: text ∨ new = first :: old := by
  constructor
  · intro same
    by_cases occurs : first :: old <:+: text
    · exact Or.inr (eq_of_replaceAll_eq_self occurs same)
    · exact Or.inl occurs
  · rintro (absent | rfl)
    · exact replaceAll_of_not_infix absent
    · exact replaceAll_self text

end Replace

/-- Decimal digits of an integer, with a leading minus sign when it is negative. -/
def decimal (value : Int) : List Char :=
  if value < 0 then '-' :: Nat.toDigits 10 value.natAbs
  else Nat.toDigits 10 value.natAbs

theorem decimal_of_nonneg {value : Int} (nonneg : 0 ≤ value) :
    decimal value = Nat.toDigits 10 value.natAbs := by
  simp [decimal, Int.not_lt.mpr nonneg]

theorem isDigit_of_mem_decimal {value : Int} (nonneg : 0 ≤ value) {char : Char}
    (member : char ∈ decimal value) : char.isDigit = true := by
  rw [decimal_of_nonneg nonneg] at member
  exact Nat.isDigit_of_mem_toDigits (by decide) (by decide) member

theorem mem_decimal {value : Int} {char : Char} (member : char ∈ decimal value) :
    char = '-' ∨ char.isDigit = true := by
  unfold decimal at member
  split at member
  next =>
    rcases List.mem_cons.mp member with sign | digit
    · exact Or.inl sign
    · exact Or.inr (Nat.isDigit_of_mem_toDigits (by decide) (by decide) digit)
  next => exact Or.inr (Nat.isDigit_of_mem_toDigits (by decide) (by decide) member)

/-- A character that is neither a digit nor the sign does not occur. -/
theorem not_mem_decimal {char : Char} (sign : char ≠ '-') (digit : char.isDigit = false)
    (value : Int) : char ∉ decimal value := by
  intro member
  rcases mem_decimal member with isSign | isDigit
  · exact sign isSign
  · rw [digit] at isDigit
    cases isDigit

theorem decimal_injective : Function.Injective decimal := by
  have digits : Function.Injective (Nat.toDigits 10) :=
    Function.LeftInverse.injective fun _ => Nat.ofDigitChars_ten_toDigits
  have noSign : ∀ (number : Nat) (rest : List Char), Nat.toDigits 10 number ≠ '-' :: rest := by
    intro number rest equal
    have member : '-' ∈ Nat.toDigits 10 number := by
      rw [equal]
      exact List.mem_cons_self
    have isDigit := Nat.isDigit_of_mem_toDigits (by decide) (by decide) member
    exact absurd isDigit (by decide)
  intro left right equal
  unfold decimal at equal
  split at equal <;> split at equal
  next =>
    have same := digits (List.cons.inj equal).2
    omega
  next => exact absurd equal.symm (noSign _ _)
  next => exact absurd equal (noSign _ _)
  next =>
    have same := digits equal
    omega

theorem decimal_ne_nil (value : Int) : decimal value ≠ [] := by
  unfold decimal
  split
  · simp
  · exact Nat.toDigits_ne_nil

/-- The numbers that are printed with at most the given number of characters. -/
theorem length_decimal_le_iff {value : Int} {width : Nat} :
    (decimal value).length ≤ width + 2 ↔
      -10 ^ (width + 1) < value ∧ value < 10 ^ (width + 2) := by
  have digits : ∀ size : Nat, 0 < size →
      ((Nat.toDigits 10 value.natAbs).length ≤ size ↔ value.natAbs < 10 ^ size) :=
    fun size positive => Nat.length_toDigits_le_iff (by decide) positive
  unfold decimal
  split
  next negative =>
    rw [List.length_cons, Nat.add_le_add_iff_right, digits (width + 1) (by omega)]
    zify
    have positive : (0 : Int) < 10 ^ (width + 2) := by positivity
    rw [abs_of_neg negative]
    omega
  next nonneg =>
    rw [digits (width + 2) (by omega)]
    zify
    have positive : (0 : Int) < 10 ^ (width + 1) := by positivity
    rw [abs_of_nonneg (Int.not_lt.mp nonneg)]
    omega

/-! ## Arrays -/

/-- Items in brackets, separated by commas. -/
def writeArray (items : List (List Char)) : List Char :=
  '[' :: ([','].intercalate items ++ [']'])

/-- The items of an array. -/
def readArray : List Char → Option (List (List Char))
  | '[' :: rest =>
      if rest.getLast? = some ']' then
        some (if rest.dropLast = [] then [] else rest.dropLast.splitOn ',')
      else
        none
  | _ => none

theorem readArray_writeArray {items : List (List Char)}
    (plain : ∀ item ∈ items, item ≠ [] ∧ ',' ∉ item) :
    readArray (writeArray items) = some items := by
  have last : ([','].intercalate items ++ [']']).getLast? = some ']' := by simp
  rw [writeArray, readArray, if_pos last, List.dropLast_concat]
  cases items with
  | nil => rfl
  | cons item items =>
      have content : [','].intercalate (item :: items) ≠ [] := by
        have nonempty := (plain item List.mem_cons_self).1
        cases items with
        | nil => simpa using nonempty
        | cons other items => simp [nonempty]
      rw [if_neg content, List.splitOn_intercalate ',' (fun other member => (plain other member).2)
        (List.cons_ne_nil item items)]

/-- Items that are each followed by a comma, without the last comma. -/
theorem dropLast_commas {items : List (List Char)} (nonempty : items ≠ []) :
    (items.flatMap (· ++ [','])).dropLast = [','].intercalate items := by
  induction items with
  | nil => exact absurd rfl nonempty
  | cons item items ih =>
      cases items with
      | nil => simp
      | cons other items =>
          have more : (other :: items).flatMap (· ++ [',']) ≠ [] := by simp
          rw [List.flatMap_cons, List.dropLast_append_of_ne_nil more,
            ih (List.cons_ne_nil other items), List.intercalate_cons_cons]

end ECam.Library
