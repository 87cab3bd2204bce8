import Mathlib
import TableIntake.Proofs.Text.Trimming
import TableIntake.Text.Letters

/-! # Other letter case and more white space

Texts that are written alike but for the case of the letters A to Z and the white space around
them. Folding undoes the one, trimming the other, and the two commute.
-/

namespace TableIntake.Text

def SameLetter (c d : Char) : Prop :=
  d = c ∨ d = c.toLower ∨ d = c.toUpper

def Recased (text changed : String) : Prop :=
  List.Forall₂ SameLetter text.toList changed.toList

def Padded (text changed : String) : Prop :=
  ∃ before after, changed.toList = before ++ text.toList ++ after ∧
    (∀ c ∈ before, isBlank c = true) ∧ ∀ c ∈ after, isBlank c = true

/-- Both at once. White space has no case, so the order does not matter. -/
def Restyled (text changed : String) : Prop :=
  ∃ recased, Recased text recased ∧ Padded recased changed

/-! ## Folding -/

section

variable {text changed : String} {c d : Char}

theorem SameLetter.toLower_eq (same : SameLetter c d) : d.toLower = c.toLower := by
  rcases same with rfl | rfl | rfl
  · rfl
  · exact c.toLower_toLower_eq_toLower
  · exact c.toLower_toUpper_eq_toLower

theorem toList_fold : (fold text).toList = text.toList.map Char.toLower :=
  String.toList_ofList

theorem fold_append (left right : String) : fold (left ++ right) = fold left ++ fold right := by
  apply String.toList_inj.mp
  simp only [toList_fold, String.toList_append, List.map_append]

theorem sameLetter_iff : SameLetter c d ↔ c.toLower = d.toLower := by
  constructor
  · exact fun same => same.toLower_eq.symm
  · intro same
    by_cases small : d.isLower = true
    · have own : d.toLower = d := Char.toLower_eq_of_not_isUpper (Char.not_isUpper_of_isLower small)
      exact .inr (.inl (own.symm.trans same.symm))
    · have own : d.toUpper = d := Char.toUpper_eq_of_not_isLower small
      have upper : c.toUpper = d.toUpper := by
        rw [← c.toUpper_toLower_eq_toUpper, same, d.toUpper_toLower_eq_toUpper]
      exact .inr (.inr (own.symm.trans upper.symm))

theorem recased_iff_fold_eq : Recased text changed ↔ fold text = fold changed := by
  rw [← String.toList_inj, toList_fold, toList_fold, ← List.forall₂_eq_eq_eq,
    List.forall₂_map_left_iff, List.forall₂_map_right_iff, Recased]
  constructor
  · exact List.Forall₂.imp fun _ _ => sameLetter_iff.mp
  · exact List.Forall₂.imp fun _ _ => sameLetter_iff.mpr

theorem Recased.fold_eq (recased : Recased text changed) : fold changed = fold text :=
  (recased_iff_fold_eq.mp recased).symm

theorem fold_eq_empty : fold text = "" ↔ text = "" := by
  rw [← String.toList_inj, ← String.toList_inj, toList_fold]
  exact List.map_eq_nil_iff

/-! ## Trimming -/

theorem isBlank_of_letter_range (low : 65 ≤ c.toNat) (high : c.toNat ≤ 122) :
    isBlank c = false := by
  apply Bool.eq_false_iff.mpr
  intro blank
  simp only [isBlank, Bool.or_eq_true, Bool.and_eq_true, decide_eq_true_eq, beq_iff_eq] at blank
  omega

theorem isBlank_toLower (c : Char) : isBlank c.toLower = isBlank c := by
  by_cases upper : c.isUpper = true
  · have range : 65 ≤ c.toNat ∧ c.toNat ≤ 90 := by
      simpa [Char.isUpper, UInt32.le_iff_toNat_le] using upper
    have lower : c.toLower.toNat = c.toNat + 32 := by
      rw [Char.toLower_eq_of_isUpper upper, Char.toNat_ofNat, if_pos]
      exact .inl (by omega)
    rw [isBlank_of_letter_range range.1 (by omega),
      isBlank_of_letter_range (by omega) (by omega)]
  · rw [Char.toLower_eq_of_not_isUpper upper]

theorem trimLeft_map_toLower (text : List Char) :
    trimLeft (text.map Char.toLower) = (trimLeft text).map Char.toLower := by
  have kept : isBlank ∘ Char.toLower = isBlank := funext isBlank_toLower
  rw [trimLeft, List.dropWhile_map, kept, trimLeft]

theorem trimRight_map_toLower (text : List Char) :
    trimRight (text.map Char.toLower) = (trimRight text).map Char.toLower := by
  rw [trimRight_eq, ← List.map_reverse, trimLeft_map_toLower, ← List.map_reverse, trimRight_eq]

theorem fold_trim (text : String) : fold (trim text) = trim (fold text) := by
  apply String.toList_inj.mp
  rw [toList_fold, toList_trim, toList_trim, toList_fold, trimLeft_map_toLower,
    trimRight_map_toLower]

theorem Padded.trim_eq (padded : Padded text changed) : trim changed = trim text := by
  rcases padded with ⟨before, after, written, blankLeft, blankRight⟩
  have trims := trimsTo_trim text
  rcases trims.around with ⟨inner, outer, split, blankInner, blankOuter⟩
  apply TrimsTo.trim_eq
  refine ⟨⟨before ++ inner, outer ++ after, ?_, ?_, ?_⟩, trims.first, trims.last⟩
  · rw [written, split]
    simp only [List.append_assoc]
  · intro c member
    exact (List.mem_append.mp member).elim (blankLeft c) (blankInner c)
  · intro c member
    exact (List.mem_append.mp member).elim (blankOuter c) (blankRight c)

theorem Restyled.fold_trim_eq (restyled : Restyled text changed) :
    fold (trim changed) = fold (trim text) := by
  rcases restyled with ⟨recased, letters, padded⟩
  rw [padded.trim_eq, fold_trim, letters.fold_eq, fold_trim]

end

/-! ## Annotations that may be absent -/

section

variable {text changed : Option String}

theorem presentTrimmed_of_padded (padded : Option.Rel Padded text changed) :
    presentTrimmed changed = presentTrimmed text := by
  cases padded with
  | none => rfl
  | some padded => rw [presentTrimmed_some, presentTrimmed_some, padded.trim_eq]

theorem map_fold_presentTrimmed_of_restyled (restyled : Option.Rel Restyled text changed) :
    (presentTrimmed changed).map fold = (presentTrimmed text).map fold := by
  cases restyled with
  | none => rfl
  | @some text changed restyled =>
      have same := restyled.fold_trim_eq
      have empty : trim changed = "" ↔ trim text = "" := by
        rw [← fold_eq_empty, same, fold_eq_empty]
      rw [presentTrimmed_some, presentTrimmed_some]
      by_cases blank : trim text = ""
      · rw [if_pos blank, if_pos (empty.mpr blank)]
      · rw [if_neg blank, if_neg (mt empty.mp blank), Option.map_some, Option.map_some, same]

end

end TableIntake.Text
