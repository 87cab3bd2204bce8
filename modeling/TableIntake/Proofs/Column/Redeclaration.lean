import TableIntake.Proofs.Column.Extents

/-! # Types declared again

A declared type shows its datatype by name and its array size as a text. Declared again by the
texts that it shows, it is the same type.
-/

namespace TableIntake

open Text Numeral

/-! ## Datatypes by name -/

namespace Datatype

theorem fold_name_injective {left right : Datatype} (same : fold left.name = fold right.name) :
    left = right := by
  have unique : ∀ left ∈ all, ∀ right ∈ all, fold left.name = fold right.name → left = right := by
    decide +kernel
  exact unique left (mem_all left) right (mem_all right) same

theorem ofText_eq_ok_iff {text : String} {datatype : Datatype} :
    ofText text = .ok datatype ↔ fold datatype.name = fold (trim text) := by
  constructor
  · intro read
    rw [ofText] at read
    split at read
    · rename_i found
      cases read
      simpa using List.find?_some found
    · cases read
  · intro named
    have found : (all.find? fun other => fold other.name == fold (trim text)) = some datatype := by
      cases search : all.find? fun other => fold other.name == fold (trim text) with
      | none => exact absurd (by simp [named]) (List.find?_eq_none.mp search datatype (mem_all _))
      | some other =>
          have same : fold other.name = fold (trim text) := by simpa using List.find?_some search
          rw [fold_name_injective (same.trans named.symm)]
    rw [ofText, found]

theorem trim_name (datatype : Datatype) : trim datatype.name = datatype.name := by
  cases datatype <;> decide +kernel

theorem name_ne_empty (datatype : Datatype) : datatype.name ≠ "" := by
  cases datatype <;> decide

theorem ofText_name (datatype : Datatype) : ofText datatype.name = .ok datatype := by
  rw [ofText_eq_ok_iff, trim_name]

end Datatype

/-! ## Array sizes as shown -/

namespace Extent

variable {text : List Char} {extent : Extent} {c : Char}

theorem Spelled.not_blank (spelled : Spelled text extent) (blank : isBlank c = true) :
    c ∉ text := by
  have unsigned : c ≠ '+' := by
    rintro rfl
    cases blank
  have unstarred : c ≠ '*' := by
    rintro rfl
    cases blank
  have other := isDigit_of_isBlank blank
  cases spelled with
  | blank => exact List.not_mem_nil
  | star => simpa using unstarred
  | number spells => exact spells.not_mem unsigned other
  | bounded spells => simp [spells.not_mem unsigned other, unstarred]

theorem spelled_text (extent : Extent) : Spelled extent.text.toList extent := by
  cases extent with
  | scalar => exact .blank
  | fixed size => exact .number (spells_toString size.toNat)
  | varying bound =>
      cases bound with
      | none => exact .star
      | some bound =>
          have shown : (toString bound ++ "*").toList = (toString bound.toNat).toList ++ ['*'] :=
            String.toList_append
          rw [text, shown]
          exact .bounded (spells_toString bound.toNat)

theorem trim_text (extent : Extent) : trim extent.text = extent.text := by
  apply trim_of_not_blank
  intro c member
  apply Bool.eq_false_iff.mpr
  intro blank
  exact extent.spelled_text.not_blank blank member

theorem ofText_text (extent : Extent) : ofText (some extent.text) = .ok extent := by
  rw [ofText_eq_ok_iff, trim_text]
  exact extent.spelled_text

end Extent

/-! ## Whole types -/

namespace DeclaredType

def redeclared (declared : DeclaredType) : Except SchemaFault DeclaredType :=
  resolve (some declared.datatype.name) (some declared.extent.text) declared.xtype

theorem redeclared_of (datatype : Datatype) (extent : Extent) (xtype : Option String) :
    (of datatype extent xtype).redeclared = .ok (of datatype extent xtype) := by
  have present : presentTrimmed (some datatype.name) = some datatype.name := by
    rw [presentTrimmed_some, datatype.trim_name, if_neg datatype.name_ne_empty]
  have same : of datatype extent (presentTrimmed xtype) = of datatype extent xtype := by
    rw [of, of, presentTrimmed_presentTrimmed]
  calc
    (of datatype extent xtype).redeclared =
        resolve (some datatype.name) (some extent.text) (presentTrimmed xtype) := rfl
    _ = .ok (of datatype extent (presentTrimmed xtype)) := by
        simp only [resolve, present, datatype.ofText_name, extent.ofText_text]
        rfl
    _ = .ok (of datatype extent xtype) := by rw [same]

theorem exists_of_resolve {datatype arraysize xtype : Option String} {declared : DeclaredType}
    (resolves : resolve datatype arraysize xtype = .ok declared) :
    ∃ datatype extent xtype, declared = of datatype extent xtype := by
  rw [resolve] at resolves
  split at resolves
  · cases resolves
    exact ⟨_, _, _, rfl⟩
  · rename_i name _
    cases named : Datatype.ofText name with
    | error =>
        rw [named] at resolves
        cases resolves
    | ok datatype =>
        cases sized : Extent.ofText arraysize with
        | error =>
            rw [named, sized] at resolves
            cases resolves
        | ok extent =>
            rw [named, sized] at resolves
            cases resolves
            exact ⟨_, _, _, rfl⟩

/-- A type comes back when it is declared again by the texts it shows, whatever declared it, and so
does the type it is stored as. -/
theorem resolve_of_own_parts :
    (∀ datatype extent xtype,
      (of datatype extent xtype).redeclared = .ok (of datatype extent xtype)) ∧
    ∀ datatype arraysize xtype declared, resolve datatype arraysize xtype = .ok declared →
      declared.redeclared = .ok declared ∧
        declared.redeclared.map stored = (resolve datatype arraysize xtype).map stored := by
  refine ⟨redeclared_of, ?_⟩
  intro datatype arraysize xtype declared resolves
  rcases exists_of_resolve resolves with ⟨known, extent, annotation, rfl⟩
  rw [redeclared_of, resolves]
  exact ⟨rfl, rfl⟩

theorem redeclared_of_padded :
    let declared := of .unsignedByte (.varying (some 7)) (some "adql:Blob")
    resolve (some " UNSIGNEDBYTE") (some "+007*\t") (some " adql:Blob ") = .ok declared ∧
      declared.redeclared = .ok declared := by
  intro declared
  have resolves : resolve (some " UNSIGNEDBYTE") (some "+007*\t") (some " adql:Blob ") =
      .ok declared := rfl
  exact ⟨resolves, (resolve_of_own_parts.2 _ _ _ _ resolves).1⟩

end DeclaredType

end TableIntake
