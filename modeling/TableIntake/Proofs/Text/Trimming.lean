import TableIntake.Text.Blank

/-! # What trimming leaves

Trimming splits a text into white space, a core with none at its ends, and white space again.
No other core does that, so a trimmed text is trimmed for good.
-/

namespace TableIntake.Text

/-- `core` is `text` without the white space around it. -/
structure TrimsTo (text core : String) : Prop where
  around : ∃ before after, text.toList = before ++ core.toList ++ after ∧
    (∀ c ∈ before, isBlank c = true) ∧ ∀ c ∈ after, isBlank c = true
  first : ∀ c ∈ core.toList.head?, isBlank c = false
  last : ∀ c ∈ core.toList.getLast?, isBlank c = false

/-! ## One end -/

section

variable {text blanks : List Char}

theorem trimLeft_append (blank : ∀ c ∈ blanks, isBlank c = true) :
    trimLeft (blanks ++ text) = trimLeft text :=
  List.dropWhile_append_of_pos blank

theorem trimLeft_of_head? (first : ∀ c ∈ text.head?, isBlank c = false) : trimLeft text = text := by
  cases text with
  | nil => rfl
  | cons c rest =>
      apply List.dropWhile_cons_of_neg
      simp [first c rfl]

theorem exists_append_trimLeft (text : List Char) :
    ∃ blanks, text = blanks ++ trimLeft text ∧ ∀ c ∈ blanks, isBlank c = true :=
  ⟨text.takeWhile isBlank, List.takeWhile_append_dropWhile.symm,
    List.all_eq_true.mp List.all_takeWhile⟩

theorem head?_trimLeft (text : List Char) : ∀ c ∈ (trimLeft text).head?, isBlank c = false := by
  intro c first
  have stopped := text.head?_dropWhile_not isBlank
  rw [Option.mem_def, trimLeft] at first
  rwa [first] at stopped

theorem trimRight_eq : trimRight text = (trimLeft text.reverse).reverse :=
  rfl

theorem trimRight_append (blank : ∀ c ∈ blanks, isBlank c = true) :
    trimRight (text ++ blanks) = trimRight text := by
  rw [trimRight_eq, List.reverse_append, trimLeft_append, trimRight_eq]
  intro c member
  exact blank c (List.mem_reverse.mp member)

theorem trimRight_of_getLast? (last : ∀ c ∈ text.getLast?, isBlank c = false) :
    trimRight text = text := by
  rw [trimRight_eq, trimLeft_of_head?, List.reverse_reverse]
  rwa [List.head?_reverse]

theorem exists_trimRight_append (text : List Char) :
    ∃ blanks, text = trimRight text ++ blanks ∧ ∀ c ∈ blanks, isBlank c = true := by
  rcases exists_append_trimLeft text.reverse with ⟨blanks, split, blank⟩
  refine ⟨blanks.reverse, ?_, ?_⟩
  · rw [trimRight_eq, ← List.reverse_append, ← split, List.reverse_reverse]
  · intro c member
    exact blank c (List.mem_reverse.mp member)

theorem getLast?_trimRight (text : List Char) :
    ∀ c ∈ (trimRight text).getLast?, isBlank c = false := by
  rw [trimRight_eq, List.getLast?_reverse]
  exact head?_trimLeft text.reverse

theorem trimRight_append_right {front : List Char} (last : ∀ c ∈ front.getLast?, isBlank c = false)
    (back : List Char) : trimRight (front ++ back) = front ++ trimRight back := by
  rcases exists_trimRight_append back with ⟨blanks, split, blank⟩
  calc trimRight (front ++ back)
      = trimRight (front ++ trimRight back ++ blanks) := by rw [List.append_assoc, ← split]
    _ = trimRight (front ++ trimRight back) := trimRight_append blank
    _ = front ++ trimRight back := by
        apply trimRight_of_getLast?
        intro c there
        rw [List.getLast?_append, Option.mem_def, Option.or_eq_some_iff] at there
        rcases there with there | ⟨_, there⟩
        · exact getLast?_trimRight back c there
        · exact last c there

theorem head?_trimRight (first : ∀ c ∈ text.head?, isBlank c = false) :
    ∀ c ∈ (trimRight text).head?, isBlank c = false := by
  rcases exists_trimRight_append text with ⟨blanks, split, _⟩
  intro c head
  have same := congrArg List.head? split
  rw [List.head?_append, Option.mem_def.mp head] at same
  exact first c same

end

/-! ## Both ends -/

section

variable {text core : String}

theorem toList_trim : (trim text).toList = trimRight (trimLeft text.toList) :=
  String.toList_ofList

theorem trimsTo_trim (text : String) : TrimsTo text (trim text) := by
  rcases exists_append_trimLeft text.toList with ⟨before, splitLeft, blankLeft⟩
  rcases exists_trimRight_append (trimLeft text.toList) with ⟨after, splitRight, blankRight⟩
  refine ⟨⟨before, after, ?_, blankLeft, blankRight⟩, ?_, ?_⟩
  · rw [toList_trim, List.append_assoc, ← splitRight, ← splitLeft]
  · rw [toList_trim]
    exact head?_trimRight (head?_trimLeft text.toList)
  · rw [toList_trim]
    exact getLast?_trimRight _

theorem TrimsTo.trim_eq (trims : TrimsTo text core) : trim text = core := by
  rcases trims.around with ⟨before, after, split, blankLeft, blankRight⟩
  apply String.toList_inj.mp
  rw [toList_trim, split, List.append_assoc, trimLeft_append blankLeft]
  cases chars : core.toList with
  | nil =>
      -- Without a core the white space behind it goes from the left as well.
      rw [List.nil_append, ← after.append_nil, trimLeft_append blankRight]
      rfl
  | cons c rest =>
      have first := trims.first
      have last := trims.last
      rw [chars] at first last
      have front : trimLeft (c :: rest ++ after) = c :: rest ++ after := trimLeft_of_head? first
      rw [front, trimRight_append blankRight, trimRight_of_getLast? last]

theorem trim_eq_iff : trim text = core ↔ TrimsTo text core := by
  constructor
  · rintro rfl
    exact trimsTo_trim text
  · exact TrimsTo.trim_eq

@[simp]
theorem trim_trim (text : String) : trim (trim text) = trim text := by
  have trims := trimsTo_trim text
  apply trim_eq_iff.mpr
  exact ⟨⟨[], [], by simp⟩, trims.first, trims.last⟩

/-! ## Texts without white space -/

theorem isDigit_of_isBlank {c : Char} (blank : isBlank c = true) : c.isDigit = false := by
  apply Bool.eq_false_iff.mpr
  intro digit
  simp only [Char.isDigit, ge_iff_le, Bool.and_eq_true, decide_eq_true_eq] at digit
  have low : 48 ≤ c.toNat := UInt32.le_iff_toNat_le.mp digit.1
  have high : c.toNat ≤ 57 := UInt32.le_iff_toNat_le.mp digit.2
  simp only [isBlank, Bool.or_eq_true, Bool.and_eq_true, decide_eq_true_eq, beq_iff_eq] at blank
  omega

theorem trim_of_not_blank (solid : ∀ c ∈ text.toList, isBlank c = false) : trim text = text := by
  apply TrimsTo.trim_eq
  refine ⟨⟨[], [], by simp⟩, ?_, ?_⟩
  · intro c first
    exact solid c (List.mem_of_head? first)
  · intro c last
    exact solid c (List.mem_of_getLast? last)

/-! ## Annotations that may be absent -/

theorem presentTrimmed_some (text : String) :
    presentTrimmed (some text) = if trim text = "" then none else some (trim text) := by
  by_cases empty : trim text = "" <;> simp [presentTrimmed, empty]

@[simp]
theorem presentTrimmed_presentTrimmed (text : Option String) :
    presentTrimmed (presentTrimmed text) = presentTrimmed text := by
  cases text with
  | none => rfl
  | some text =>
      rw [presentTrimmed_some]
      split
      · rfl
      · rename_i present
        rw [presentTrimmed_some, trim_trim, if_neg present]

end

end TableIntake.Text
