import TableIntake.Column.Declared
import TableIntake.Proofs.Numeral.Unsigned
import TableIntake.Proofs.Text.Trimming

/-! # Which texts declare an array size

The accepted language is a grammar over trimmed texts. Of the others, those with an `x` in them
are refused as multidimensional, whatever else they hold.
-/

namespace TableIntake.Extent

open Text Numeral

/-- The trimmed text of an array size. A number is below `2 ^ 32` as its extent holds no other. -/
inductive Spelled : List Char → Extent → Prop
  | blank : Spelled [] .scalar
  | star : Spelled ['*'] (.varying none)
  | number {text : List Char} {size : UInt32} (spells : Spells text size.toNat) :
      Spelled text (.fixed size)
  | bounded {text : List Char} {bound : UInt32} (spells : Spells text bound.toNat) :
      Spelled (text ++ ['*']) (.varying (some bound))

section

variable {text : List Char} {extent : Extent}

theorem Spelled.not_mem_x (spelled : Spelled text extent) : 'x' ∉ text := by
  cases spelled with
  | blank => exact List.not_mem_nil
  | star => decide
  | number spells => exact spells.not_mem (by decide) rfl
  | bounded spells => simp [spells.not_mem (show 'x' ≠ '+' by decide) rfl]

theorem Spelled.eq_scalar (spelled : Spelled text extent) (blank : text = []) :
    extent = .scalar := by
  cases spelled with
  | blank => rfl
  | star => cases blank
  | number spells => exact absurd blank spells.ne_nil
  | bounded => simp at blank

/-! ## Trimmed texts -/

theorem spelled_of_ofTrimmed? (read : ofTrimmed? text = some extent) : Spelled text extent := by
  rw [ofTrimmed?] at read
  split at read
  · rename_i star
    cases star
    cases read
    exact .star
  split at read
  · rename_i last
    rcases List.getLast?_eq_some_iff.mp last with ⟨number, rfl⟩
    rcases Option.map_eq_some_iff.mp read with ⟨bound, spells, rfl⟩
    rw [List.dropLast_concat] at spells
    exact .bounded (unsigned32?_eq_some_iff.mp spells)
  · rcases Option.map_eq_some_iff.mp read with ⟨size, spells, rfl⟩
    exact .number (unsigned32?_eq_some_iff.mp spells)

theorem Spelled.ofTrimmed? (spelled : Spelled text extent) (present : text ≠ []) :
    ofTrimmed? text = some extent := by
  cases spelled with
  | blank => exact absurd rfl present
  | star => rfl
  | number spells =>
      have unstarred := spells.not_mem (show '*' ≠ '+' by decide) rfl
      have single : text ≠ ['*'] := by
        rintro rfl
        exact unstarred List.mem_cons_self
      have last : text.getLast? ≠ some '*' := fun last => unstarred (List.mem_of_getLast? last)
      rw [Extent.ofTrimmed?, if_neg single, if_neg last, unsigned32?_eq_some_iff.mpr spells]
      rfl
  | bounded spells =>
      have longer := spells.ne_nil
      rw [Extent.ofTrimmed?, if_neg (by simpa using longer), if_pos List.getLast?_concat,
        List.dropLast_concat, unsigned32?_eq_some_iff.mpr spells]
      rfl

end

/-! ## Declared texts -/

section

variable {text : String} {extent : Extent}

theorem ofText_of_present (present : trim text ≠ "") : ofText (some text) =
    if (trim text).toList.contains 'x' then
      .error (.multiDimensional (trim text))
    else
      (ofTrimmed? (trim text).toList).elim (.error (.badExtent (trim text))) .ok := by
  rw [ofText, presentTrimmed_some, if_neg present]
  dsimp only
  cases ofTrimmed? (trim text).toList <;> rfl

theorem Spelled.ofText (spelled : Spelled (trim text).toList extent) :
    ofText (some text) = .ok extent := by
  by_cases present : trim text = ""
  · rw [spelled.eq_scalar (by simp [present]), Extent.ofText, presentTrimmed_some, if_pos present]
  · have single : ¬(trim text).toList.contains 'x' = true := by simpa using spelled.not_mem_x
    rw [ofText_of_present present, if_neg single, spelled.ofTrimmed? (by simpa using present),
      Option.elim_some]

theorem ofText_of_mem_x (dimensions : 'x' ∈ (trim text).toList) :
    ofText (some text) = .error (.multiDimensional (trim text)) := by
  have present : trim text ≠ "" := by
    intro empty
    simp [empty] at dimensions
  rw [ofText_of_present present, if_pos (by simpa using dimensions)]

theorem ofText_of_not_spelled (single : 'x' ∉ (trim text).toList)
    (unspelled : ∀ extent, ¬Spelled (trim text).toList extent) :
    ofText (some text) = .error (.badExtent (trim text)) := by
  have present : trim text ≠ "" := by
    intro empty
    apply unspelled .scalar
    rw [empty]
    exact .blank
  rw [ofText_of_present present, if_neg (by simpa using single)]
  cases read : ofTrimmed? (trim text).toList with
  | none => rfl
  | some extent => exact absurd (spelled_of_ofTrimmed? read) (unspelled extent)

theorem ofText_verdict (text : String) :
    let core := trim text
    (∃ extent, Spelled core.toList extent ∧ ofText (some text) = .ok extent) ∨
      'x' ∈ core.toList ∧ ofText (some text) = .error (.multiDimensional core) ∨
      'x' ∉ core.toList ∧ (∀ extent, ¬Spelled core.toList extent) ∧
        ofText (some text) = .error (.badExtent core) := by
  intro core
  by_cases dimensions : 'x' ∈ core.toList
  · exact .inr (.inl ⟨dimensions, ofText_of_mem_x dimensions⟩)
  by_cases unspelled : ∀ extent, ¬Spelled core.toList extent
  · exact .inr (.inr ⟨dimensions, unspelled, ofText_of_not_spelled dimensions unspelled⟩)
  · rcases Classical.not_forall_not.mp unspelled with ⟨extent, spelled⟩
    exact .inl ⟨extent, spelled, spelled.ofText⟩

theorem ofText_eq_ok_iff :
    ofText (some text) = .ok extent ↔ Spelled (trim text).toList extent := by
  constructor
  · intro read
    rcases ofText_verdict text with ⟨other, spelled, taken⟩ | ⟨_, refused⟩ | ⟨_, _, refused⟩
    · cases taken.symm.trans read
      exact spelled
    · cases refused.symm.trans read
    · cases refused.symm.trans read
  · exact Spelled.ofText

theorem ofText_eq_error_iff {fault : SchemaFault} : ofText (some text) = .error fault ↔
    'x' ∈ (trim text).toList ∧ fault = .multiDimensional (trim text) ∨
      'x' ∉ (trim text).toList ∧ (∀ extent, ¬Spelled (trim text).toList extent) ∧
        fault = .badExtent (trim text) := by
  constructor
  · intro read
    rcases ofText_verdict text with
      ⟨extent, _, taken⟩ | ⟨dimensions, refused⟩ | ⟨single, unspelled, refused⟩
    · cases taken.symm.trans read
    · cases refused.symm.trans read
      exact .inl ⟨dimensions, rfl⟩
    · cases refused.symm.trans read
      exact .inr ⟨single, unspelled, rfl⟩
  · rintro (⟨dimensions, rfl⟩ | ⟨single, unspelled, rfl⟩)
    · exact ofText_of_mem_x dimensions
    · exact ofText_of_not_spelled single unspelled

/-- An array size is taken exactly if the grammar has its trimmed text, and then for what the
grammar says. Every other text is refused with the trimmed text, for its `x` if it has one. -/
theorem ofText_exact (text : String) :
    let core := trim text
    TrimsTo text core ∧
      (∀ extent, ofText (some text) = .ok extent ↔ Spelled core.toList extent) ∧
      ∀ fault, ofText (some text) = .error fault ↔
        'x' ∈ core.toList ∧ fault = .multiDimensional core ∨
          'x' ∉ core.toList ∧ (∀ extent, ¬Spelled core.toList extent) ∧
            fault = .badExtent core :=
  ⟨trimsTo_trim text, fun _ => ofText_eq_ok_iff, fun _ => ofText_eq_error_iff⟩

example : ofText (some " +007* ") = .ok (.varying (some 7)) := rfl

example : ofText (some "12 *") = .error (.badExtent "12 *") := rfl

example : ofText (some "4294967296") = .error (.badExtent "4294967296") := rfl

end

end TableIntake.Extent
