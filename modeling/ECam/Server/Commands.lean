import ECam.Server.Manager

/-!
# The text of a command

`CommandConstructor.Goto` fills its template by four replacements over the whole text,
one after another.  What an earlier one has inserted is scanned by the later ones.  Ids
are printed without braces, so only the distance can be hit, by the replacement for the
orientation.
-/

namespace ECam.Server.CommandConstructor

open ECam.Library

/-- The text for an optional id. -/
def idText : Option Int → List Char
  | some value => decimal value
  | none => "null".toList

/-- The text for an optional string. -/
def stringText : Option String → List Char
  | some value => value.toList
  | none => "null".toList

/-- The placeholder for the orientation. -/
def orientPlaceholder : List Char := "\x7bQR_Orient_InFront\x7d".toList

/-- The command with all placeholders filled in at once. -/
def gotoText (waypointId : Int) (qrId qrDistance qrOrient : List Char) : List Char :=
  ['g', 'o', 't', 'o', ' ', '['] ++ decimal waypointId ++ [',', ' '] ++ qrId ++ [',', ' '] ++
    qrDistance ++ [',', ' '] ++ qrOrient ++ [']']

theorem brace_not_mem_idText (qrId : Option Int) : '\x7b' ∉ idText qrId := by
  cases qrId with
  | none => decide
  | some value => exact not_mem_decimal (by decide) (by decide) value

/-- A replacement finds its placeholder behind text without braces, and nothing else if
the rest of the template does not contain it. -/
theorem replaceAll_placeholder {head tail name new : List Char} (plain : '\x7b' ∉ head)
    (once : ¬ '\x7b' :: name <:+: tail) :
    replaceAll (head ++ ('\x7b' :: name ++ tail)) ('\x7b' :: name) new =
      head ++ (new ++ tail) := by
  rw [replaceAll_append plain, replaceAll_match, replaceAll_of_not_infix once]

/-- The text before the id of the marker. -/
def waypointPart (waypointId : Int) : List Char :=
  ['g', 'o', 't', 'o', ' ', '['] ++ decimal waypointId ++ [',', ' ']

/-- The text before the distance. -/
def idPart (waypointId : Int) (qrId : Option Int) : List Char :=
  waypointPart waypointId ++ idText qrId ++ [',', ' ']

theorem brace_not_mem_waypointPart (waypointId : Int) : '\x7b' ∉ waypointPart waypointId := by
  have digits := not_mem_decimal (show '\x7b' ≠ '-' by decide) (by decide) waypointId
  simp [waypointPart, digits]

theorem brace_not_mem_idPart (waypointId : Int) (qrId : Option Int) :
    '\x7b' ∉ idPart waypointId qrId := by
  simp [idPart, brace_not_mem_waypointPart, brace_not_mem_idText]

theorem replace_waypointId (waypointId : Int) :
    replaceAll gotoTemplate "\x7bwaypointId\x7d".toList (decimal waypointId) =
      waypointPart waypointId ++ ("\x7bQR_ID_InFront\x7d".toList ++
        ", \x7bQR_Distance_InFront\x7d, \x7bQR_Orient_InFront\x7d]".toList) := by
  have template : gotoTemplate =
      ['g', 'o', 't', 'o', ' ', '['] ++ ('\x7b' :: "waypointId\x7d".toList ++ ([',', ' '] ++
        ("\x7bQR_ID_InFront\x7d".toList ++
          ", \x7bQR_Distance_InFront\x7d, \x7bQR_Orient_InFront\x7d]".toList))) := by decide
  have placeholder : "\x7bwaypointId\x7d".toList = '\x7b' :: "waypointId\x7d".toList := by decide
  rw [template, placeholder, replaceAll_placeholder (by decide) (by decide), waypointPart]
  simp only [List.append_assoc]

theorem replace_qrId (waypointId : Int) (qrId : Option Int) :
    replaceAll (waypointPart waypointId ++ ("\x7bQR_ID_InFront\x7d".toList ++
        ", \x7bQR_Distance_InFront\x7d, \x7bQR_Orient_InFront\x7d]".toList))
        "\x7bQR_ID_InFront\x7d".toList (idText qrId) =
      idPart waypointId qrId ++ ("\x7bQR_Distance_InFront\x7d".toList ++
        ", \x7bQR_Orient_InFront\x7d]".toList) := by
  have rest : ", \x7bQR_Distance_InFront\x7d, \x7bQR_Orient_InFront\x7d]".toList =
      [',', ' '] ++ ("\x7bQR_Distance_InFront\x7d".toList ++
        ", \x7bQR_Orient_InFront\x7d]".toList) := by decide
  have placeholder : "\x7bQR_ID_InFront\x7d".toList = '\x7b' :: "QR_ID_InFront\x7d".toList := by
    decide
  rw [placeholder, replaceAll_placeholder (brace_not_mem_waypointPart waypointId) (by decide),
    rest, idPart]
  simp only [List.append_assoc]

theorem replace_qrDistance (waypointId : Int) (qrId : Option Int) (qrDistance : List Char) :
    replaceAll (idPart waypointId qrId ++ ("\x7bQR_Distance_InFront\x7d".toList ++
        ", \x7bQR_Orient_InFront\x7d]".toList)) "\x7bQR_Distance_InFront\x7d".toList qrDistance =
      idPart waypointId qrId ++ (qrDistance ++ ", \x7bQR_Orient_InFront\x7d]".toList) := by
  have placeholder : "\x7bQR_Distance_InFront\x7d".toList =
      '\x7b' :: "QR_Distance_InFront\x7d".toList := by decide
  rw [placeholder, replaceAll_placeholder (brace_not_mem_idPart waypointId qrId) (by decide)]

/-- The last replacement also runs over the distance. -/
theorem replace_qrOrient (waypointId : Int) (qrId : Option Int)
    (qrDistance qrOrient : List Char) :
    replaceAll (idPart waypointId qrId ++ (qrDistance ++ ", \x7bQR_Orient_InFront\x7d]".toList))
        orientPlaceholder qrOrient =
      idPart waypointId qrId ++ (replaceAll qrDistance orientPlaceholder qrOrient ++
        [',', ' '] ++ qrOrient ++ [']']) := by
  have placeholder : orientPlaceholder = '\x7b' :: "QR_Orient_InFront\x7d".toList := by decide
  have rest : ", \x7bQR_Orient_InFront\x7d]".toList =
      ',' :: ([' '] ++ ('\x7b' :: "QR_Orient_InFront\x7d".toList ++ [']'])) := by decide
  rw [placeholder, replaceAll_append (brace_not_mem_idPart waypointId qrId), rest,
    replaceAll_append_cons (by decide) (by decide),
    replaceAll_placeholder (by decide) (by decide)]
  simp only [List.append_assoc, List.cons_append, List.nil_append]

/-- The four replacements, one after another. -/
theorem goto_replacements (waypointId : Int) (qrId : Option Int)
    (qrDistance qrOrient : Option String) :
    goto waypointId qrId qrDistance qrOrient =
      String.ofList (replaceAll (replaceAll (replaceAll (replaceAll gotoTemplate
        "\x7bwaypointId\x7d".toList (decimal waypointId)) "\x7bQR_ID_InFront\x7d".toList
        (idText qrId)) "\x7bQR_Distance_InFront\x7d".toList (stringText qrDistance))
        orientPlaceholder (stringText qrOrient)) := by
  unfold goto orientPlaceholder
  cases qrId <;> cases qrDistance <;> cases qrOrient <;> rfl

/-- A command is the filled template in which the orientation has also been filled into
the distance. -/
theorem goto_eq (waypointId : Int) (qrId : Option Int) (qrDistance qrOrient : Option String) :
    goto waypointId qrId qrDistance qrOrient =
      String.ofList (gotoText waypointId (idText qrId)
        (replaceAll (stringText qrDistance) orientPlaceholder (stringText qrOrient))
        (stringText qrOrient)) := by
  rw [goto_replacements, replace_waypointId, replace_qrId, replace_qrDistance, replace_qrOrient]
  simp only [gotoText, idPart, waypointPart, List.append_assoc]

/-- The replacements fill in all values at once exactly if the distance does not contain
the placeholder for the orientation, or the orientation is that placeholder. -/
theorem goto_fills_iff (waypointId : Int) (qrId : Option Int)
    (qrDistance qrOrient : Option String) :
    goto waypointId qrId qrDistance qrOrient =
        String.ofList (gotoText waypointId (idText qrId) (stringText qrDistance)
          (stringText qrOrient)) ↔
      ¬orientPlaceholder <:+: stringText qrDistance ∨
        stringText qrOrient = orientPlaceholder := by
  have placeholder : orientPlaceholder = '\x7b' :: "QR_Orient_InFront\x7d".toList := by decide
  rw [goto_eq, String.ofList_inj, gotoText, gotoText, List.append_cancel_right_eq,
    List.append_cancel_right_eq, List.append_cancel_right_eq, List.append_cancel_left_eq,
    placeholder, replaceAll_eq_self_iff]

/-- A distance that is the placeholder for the orientation is replaced. -/
theorem goto_not_filled :
    goto 1 (some 12) (some "\x7bQR_Orient_InFront\x7d") (some "TOP") = "goto [1, 12, TOP, TOP]" ∧
      goto 1 (some 12) (some "\x7bQR_Orient_InFront\x7d") (some "TOP") ≠
        String.ofList (gotoText 1 (idText (some 12))
          (stringText (some "\x7bQR_Orient_InFront\x7d")) (stringText (some "TOP"))) := by
  constructor <;> decide

end ECam.Server.CommandConstructor
