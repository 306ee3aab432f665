import ECam.Library.Text

/-!
# Flat JSON objects

A reader for JSON texts that are one object whose members are scalars: integers in
canonical form, texts without escapes, `true`, `false` and `null`.  The text is first
split into tokens, then the tokens are read as an object.  Trailing commas, missing
braces and anything after the closing brace are rejected.
-/

namespace ECam.Library

namespace Json

/-- The value of a member. -/
inductive Scalar where
  | null
  | bool (value : Bool)
  | number (value : Int)
  | text (value : List Char)
  deriving DecidableEq

inductive Token where
  | leftBrace
  | rightBrace
  | colon
  | comma
  | scalar (value : Scalar)
  deriving DecidableEq

/-! ## Words -/

/-- The integer that is printed as the given word. -/
def readInteger (word : List Char) : Option Int :=
  let value : Int :=
    match word with
    | '-' :: digits => -(Nat.ofDigitChars 10 digits 0)
    | digits => Nat.ofDigitChars 10 digits 0
  if decimal value = word then some value else none

/-- The scalar a word without quotes stands for. -/
def readWord (word : List Char) : Option Scalar :=
  if word = "null".toList then
    some .null
  else if word = "true".toList then
    some (.bool true)
  else if word = "false".toList then
    some (.bool false)
  else
    (readInteger word).map .number

/-- A printed integer is read back. -/
theorem readInteger_decimal (value : Int) : readInteger (decimal value) = some value := by
  unfold readInteger
  split
  next digits printed =>
    have negative : value < 0 := by
      by_contra nonneg
      have digit := isDigit_of_mem_decimal (Int.not_lt.mp nonneg)
        (show '-' ∈ decimal value by simp [printed])
      exact absurd digit (by decide)
    have value_eq : -((Nat.ofDigitChars 10 digits 0 : Nat) : Int) = value := by
      rw [decimal, if_pos negative, List.cons.injEq] at printed
      rw [← printed.2, Nat.ofDigitChars_ten_toDigits]
      omega
    rw [value_eq, if_pos rfl]
  next unsigned =>
    have nonneg : 0 ≤ value := by
      by_contra negative
      exact unsigned (Nat.toDigits 10 value.natAbs) (if_pos (Int.not_le.mp negative))
    have value_eq : ((Nat.ofDigitChars 10 (decimal value) 0 : Nat) : Int) = value := by
      rw [decimal_of_nonneg nonneg, Nat.ofDigitChars_ten_toDigits]
      omega
    rw [value_eq, if_pos rfl]

/-- A word that begins with a digit is read as a number. -/
theorem readWord_decimal {value : Int} (nonneg : 0 ≤ value) :
    readWord (decimal value) = some (.number value) := by
  have notWord : ∀ (first : Char) (rest : List Char), first.isDigit = false →
      decimal value ≠ first :: rest := by
    intro first rest letter equal
    have digit := isDigit_of_mem_decimal nonneg (show first ∈ decimal value by simp [equal])
    rw [letter] at digit
    cases digit
  have notNull : decimal value ≠ "null".toList := notWord 'n' _ (by decide)
  have notTrue : decimal value ≠ "true".toList := notWord 't' _ (by decide)
  have notFalse : decimal value ≠ "false".toList := notWord 'f' _ (by decide)
  rw [readWord, if_neg notNull, if_neg notTrue, if_neg notFalse, readInteger_decimal]
  rfl

/-! ## Tokens -/

/-- The role of a character outside a text. -/
inductive CharClass where
  | space
  | punctuation (token : Token)
  | quote
  | word

def charClass (char : Char) : CharClass :=
  if char = ' ' ∨ char = '\t' ∨ char = '\n' ∨ char = '\r' then .space
  else if char = '\x7b' then .punctuation .leftBrace
  else if char = '\x7d' then .punctuation .rightBrace
  else if char = ':' then .punctuation .colon
  else if char = ',' then .punctuation .comma
  else if char = '"' then .quote
  else .word

/-- Where the tokenizer stands: between tokens, or inside a text or a word of which
some characters have been read. -/
inductive LexMode where
  | between
  | inText (read : List Char)
  | inWord (read : List Char)

/-- The tokens of a text. -/
def tokenize : LexMode → List Char → Option (List Token)
  | .between, [] => some []
  | .inText _, [] => none
  | .inWord read, [] => (readWord read).map fun value => [.scalar value]
  | .between, char :: rest =>
      match charClass char with
      | .space => tokenize .between rest
      | .punctuation token => (tokenize .between rest).map (token :: ·)
      | .quote => tokenize (.inText []) rest
      | .word => tokenize (.inWord [char]) rest
  | .inText read, char :: rest =>
      if char = '"' then
        (tokenize .between rest).map (.scalar (.text read) :: ·)
      else if char = '\\' ∨ char.toNat < 32 then
        none
      else
        tokenize (.inText (read ++ [char])) rest
  | .inWord read, char :: rest =>
      match charClass char with
      | .space =>
          (readWord read).bind fun value =>
            (tokenize .between rest).map (.scalar value :: ·)
      | .punctuation token =>
          (readWord read).bind fun value =>
            (tokenize .between rest).map (.scalar value :: token :: ·)
      | .quote => none
      | .word => tokenize (.inWord (read ++ [char])) rest

/-- A character that stands for itself inside quotes. -/
def plainChar (char : Char) : Bool :=
  char != '"' && char != '\\' && decide (32 ≤ char.toNat)

/-- A text that stands for itself inside quotes. -/
def PlainText (text : List Char) : Prop :=
  text.all plainChar = true

theorem tokenize_inText {read text : List Char} (rest : List Char) (plain : PlainText text) :
    tokenize (.inText read) (text ++ '"' :: rest) =
      (tokenize .between rest).map (.scalar (.text (read ++ text)) :: ·) := by
  induction text generalizing read with
  | nil => simp [tokenize]
  | cons char text ih =>
      rw [PlainText, List.all_cons, Bool.and_eq_true] at plain
      have first := plain.1
      simp only [plainChar, Bool.and_eq_true, bne_iff_ne, decide_eq_true_eq] at first
      have printable : ¬(char = '\\' ∨ char.toNat < 32) := by
        rintro (slash | control)
        · exact first.1.2 slash
        · omega
      rw [List.cons_append, tokenize, if_neg first.1.1, if_neg printable, ih plain.2,
        List.append_assoc, List.singleton_append]

theorem tokenize_inWord {read word : List Char} (rest : List Char)
    (plain : ∀ char ∈ word, charClass char = .word) :
    tokenize (.inWord read) (word ++ rest) = tokenize (.inWord (read ++ word)) rest := by
  induction word generalizing read with
  | nil => simp
  | cons char word ih =>
      have later : ∀ other ∈ word, charClass other = .word :=
        fun other member => plain other (List.mem_cons_of_mem _ member)
      rw [List.cons_append, tokenize, plain char List.mem_cons_self]
      simp only
      rw [ih later, List.append_assoc, List.singleton_append]

theorem charClass_digit {char : Char} (digit : char.isDigit = true) : charClass char = .word := by
  have different : ∀ other : Char, other.isDigit = false → char ≠ other := by
    intro other letter equal
    rw [equal, letter] at digit
    cases digit
  simp [charClass, different]

/-- A number that is followed by punctuation. -/
theorem tokenize_number {value : Int} (nonneg : 0 ≤ value) {char : Char} {token : Token}
    (rest : List Char) (ends : charClass char = .punctuation token) :
    tokenize .between (decimal value ++ char :: rest) =
      (tokenize .between rest).map (.scalar (.number value) :: token :: ·) := by
  cases digits : decimal value with
  | nil => exact absurd digits (decimal_ne_nil value)
  | cons first more =>
      have plain : ∀ other ∈ first :: more, charClass other = .word := by
        intro other member
        apply charClass_digit
        apply isDigit_of_mem_decimal nonneg
        rw [digits]
        exact member
      rw [List.cons_append, tokenize, plain first List.mem_cons_self]
      simp only
      rw [tokenize_inWord _ fun other member => plain other (List.mem_cons_of_mem _ member),
        List.singleton_append, ← digits, tokenize, ends]
      simp only
      rw [readWord_decimal nonneg, Option.bind_some]

/-- The name of a member with its colon. -/
theorem tokenize_name {name : List Char} (rest : List Char) (plain : PlainText name) :
    tokenize .between ('"' :: (name ++ '"' :: ':' :: rest)) =
      (tokenize .between rest).map (.scalar (.text name) :: .colon :: ·) := by
  have opened : tokenize .between ('"' :: (name ++ '"' :: ':' :: rest)) =
      tokenize (.inText []) (name ++ '"' :: ':' :: rest) := rfl
  have colon : tokenize .between (':' :: rest) =
      (tokenize .between rest).map (.colon :: ·) := rfl
  rw [opened, tokenize_inText _ plain, colon, Option.map_map]
  rfl

/-! ## Objects -/

/-- The members up to the closing brace. -/
def readMembers : List Token → Option (List (List Char × Scalar))
  | [.scalar (.text name), .colon, .scalar value, .rightBrace] => some [(name, value)]
  | .scalar (.text name) :: .colon :: .scalar value :: .comma :: rest =>
      (readMembers rest).map ((name, value) :: ·)
  | _ => none

/-- The members of an object. -/
def readObject : List Token → Option (List (List Char × Scalar))
  | [.leftBrace, .rightBrace] => some []
  | .leftBrace :: rest => readMembers rest
  | _ => none

/-- The members of the object that a text is. -/
def parseObject (text : List Char) : Option (List (List Char × Scalar)) :=
  (tokenize .between text).bind readObject

/-- The value of a member.  Names are compared without regard to case, and of two
members with one name the last one counts. -/
def member (name : List Char) (members : List (List Char × Scalar)) : Option Scalar :=
  ((members.filter fun entry => entry.1.map Char.toLower == name.map Char.toLower).getLast?).map
    Prod.snd

end Json

end ECam.Library
