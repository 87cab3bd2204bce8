import TableIntake.Proofs.Column.Redeclaration
import TableIntake.Proofs.Text.Recasing

/-! # Types declared in other letter case

The datatype and the extended type count in any letter case and all three parts with any white
space around them. Only the prefix `adql:` of the extended type has to be in lower case.
-/

namespace TableIntake

open Text

def Datatype.xtypes : Datatype → List String
  | .bit | .unsignedByte => ["blob"]
  | .char | .unicodeChar => ["timestamp", "point", "region", "circle", "polygon", "box", "clob"]
  | _ => []

def Kind.isAnnotated : Kind → Bool
  | .timestamp | .point | .region | .clob | .blob => true
  | _ => false

namespace DeclaredType

def Prefixed (xtype : String) : Prop :=
  "adql:".toList <+: xtype.toList

instance : DecidablePred Prefixed :=
  fun xtype => inferInstanceAs (Decidable ("adql:".toList <+: xtype.toList))

/-- The two write one extended type with the prefix `adql:`, and only one of them in lower case. -/
def PrefixRecased (names : List String) (xtype changed : Option String) : Prop :=
  ∃ before after, xtype = some before ∧ changed = some after ∧
    (∃ name ∈ names, fold before = "adql:" ++ name) ∧ (Prefixed before ↔ ¬Prefixed after)

def untyped (declared : DeclaredType) : DeclaredType :=
  { declared with xtype := none }

/-! ## Extended types that count -/

section

variable {declared : DeclaredType} {names : List String} {xtype : String}

theorem localXtype_of_not_prefixed (bare : ¬Prefixed xtype) : localXtype xtype = xtype := by
  rw [localXtype]
  split
  · rename_i rest written
    exact absurd ⟨rest, written.symm⟩ bare
  · rfl

theorem append_localXtype_of_prefixed (prefixed : Prefixed xtype) :
    "adql:" ++ localXtype xtype = xtype := by
  rcases prefixed with ⟨rest, written⟩
  have dropped : localXtype xtype = String.ofList rest := by
    rw [localXtype, ← written]
    rfl
  have kept : (String.ofList rest).toList = rest := String.toList_ofList
  apply String.toList_inj.mp
  rw [String.toList_append, dropped, kept, written]

theorem fold_of_prefixed (prefixed : Prefixed xtype) :
    fold xtype = "adql:" ++ fold (localXtype xtype) := by
  have written := congrArg fold (append_localXtype_of_prefixed prefixed)
  rw [fold_append] at written
  exact written.symm

theorem hasXtype_iff (typed : declared.xtype = some xtype) :
    declared.hasXtype names = true ↔ ∃ name ∈ names, fold (localXtype xtype) = fold name := by
  simp only [hasXtype, typed, List.any_eq_true, sameLetters, beq_iff_eq]

theorem hasXtype_append (declared : DeclaredType) (left right : List String) :
    declared.hasXtype (left ++ right) = (declared.hasXtype left || declared.hasXtype right) := by
  rw [hasXtype, hasXtype, hasXtype]
  split
  · exact List.any_append
  · rfl

theorem fold_of_mem_xtypes {datatype : Datatype} {name : String}
    (member : name ∈ datatype.xtypes) : fold name = name ∧ ¬Prefixed name := by
  have lower : ∀ name ∈ datatype.xtypes, fold name = name ∧ ¬Prefixed name := by
    cases datatype <;> decide +kernel
  exact lower name member

/-! ## What the extended type changes -/

theorem hasXtype_text (declared : DeclaredType) : declared.hasXtype Datatype.char.xtypes =
    (declared.hasXtype ["timestamp"] || (declared.hasXtype ["point"] ||
      (declared.hasXtype ["region", "circle", "polygon", "box"] ||
        declared.hasXtype ["clob"]))) := by
  simp only [← hasXtype_append]
  rfl

theorem storedText_of_bare (bare : declared.hasXtype Datatype.char.xtypes = false) :
    declared.storedText = declared.untyped.storedText := by
  simp only [hasXtype_text, Bool.or_eq_false_iff] at bare
  rw [storedText, bare.1, bare.2.1, bare.2.2.1, bare.2.2.2]
  rfl

theorem storedBytes_of_bare (bare : declared.hasXtype Datatype.bit.xtypes = false) :
    declared.storedBytes = declared.untyped.storedBytes := by
  rw [Datatype.xtypes] at bare
  rw [storedBytes, bare]
  rfl

theorem stored_of_bare (bare : declared.hasXtype declared.datatype.xtypes = false) :
    declared.stored = declared.untyped.stored := by
  rcases declared with ⟨datatype, extent, xtype⟩
  cases datatype with
  | bit | unsignedByte => exact storedBytes_of_bare bare
  | char | unicodeChar => exact storedText_of_bare bare
  | _ => rfl

theorem isAnnotated_storedBytes (typed : declared.hasXtype Datatype.bit.xtypes = true) :
    declared.storedBytes.kind.isAnnotated = true := by
  rw [Datatype.xtypes] at typed
  rw [storedBytes, if_pos typed]
  rfl

theorem isAnnotated_storedText (typed : declared.hasXtype Datatype.char.xtypes = true) :
    declared.storedText.kind.isAnnotated = true := by
  simp only [hasXtype_text, Bool.or_eq_true] at typed
  rw [storedText]
  split
  · rfl
  split
  · rfl
  split
  · rfl
  split
  · rfl
  · rename_i timestamp point region clob
    simp only [timestamp, point, region, clob, Bool.false_eq_true, or_self] at typed

theorem isAnnotated_stored (typed : declared.hasXtype declared.datatype.xtypes = true) :
    declared.stored.kind.isAnnotated = true := by
  rcases declared with ⟨datatype, extent, xtype⟩
  have unnamed : (DeclaredType.mk datatype extent xtype).hasXtype [] = false := by
    cases xtype <;> rfl
  cases datatype with
  | bit | unsignedByte => exact isAnnotated_storedBytes typed
  | char | unicodeChar => exact isAnnotated_storedText typed
  | _ => exact absurd (unnamed.symm.trans typed) Bool.false_ne_true

theorem isAnnotated_storedNumber {kind : Kind} (number : kind.isAnnotated = false) :
    (declared.storedNumber kind).kind.isAnnotated = false := by
  rw [storedNumber]
  split
  · exact number
  · rfl

theorem isAnnotated_stored_untyped (declared : DeclaredType) :
    declared.untyped.stored.kind.isAnnotated = false := by
  rcases declared with ⟨datatype, extent, xtype⟩
  cases datatype with
  | boolean | short | int | long | float | double => exact isAnnotated_storedNumber rfl
  | floatComplex | doubleComplex => rfl
  | bit | unsignedByte | char | unicodeChar =>
      cases extent with
      | scalar | fixed => rfl
      | varying bound => cases bound <;> rfl

theorem stored_eq_untyped_iff : declared.stored = declared.untyped.stored ↔
    declared.hasXtype declared.datatype.xtypes = false := by
  constructor
  · intro same
    apply Bool.eq_false_iff.mpr
    intro typed
    have annotated := isAnnotated_stored typed
    rw [same, isAnnotated_stored_untyped] at annotated
    cases annotated
  · exact stored_of_bare

end

/-! ## Types that differ in the case of the extended type -/

section

variable {left right : DeclaredType} {before after : String}

structure Alike (left right : DeclaredType) : Prop where
  datatype : right.datatype = left.datatype
  extent : right.extent = left.extent
  xtype : right.xtype.map fold = left.xtype.map fold

theorem Alike.untyped (alike : Alike left right) : right.untyped = left.untyped := by
  rw [DeclaredType.untyped, DeclaredType.untyped, alike.datatype, alike.extent]

theorem stored_congr (datatype : right.datatype = left.datatype)
    (extent : right.extent = left.extent)
    (named : ∀ names, right.hasXtype names = left.hasXtype names) : right.stored = left.stored := by
  simp only [stored, storedNumber, storedBytes, storedText, datatype, extent, named]

theorem hasXtype_of_prefixed (typed : left.xtype = some before) (prefixed : Prefixed before) :
    left.hasXtype left.datatype.xtypes = true ↔
      ∃ name ∈ left.datatype.xtypes, fold before = "adql:" ++ name := by
  rw [hasXtype_iff typed, fold_of_prefixed prefixed]
  constructor
  · rintro ⟨name, member, same⟩
    exact ⟨name, member, by rw [same, (fold_of_mem_xtypes member).1]⟩
  · rintro ⟨name, member, same⟩
    refine ⟨name, member, ?_⟩
    rw [(fold_of_mem_xtypes member).1]
    exact (String.append_right_inj _).mp same

theorem hasXtype_of_not_prefixed {rest : String} (typed : left.xtype = some before)
    (bare : ¬Prefixed before) (written : fold before = "adql:" ++ rest) :
    left.hasXtype left.datatype.xtypes = false := by
  apply Bool.eq_false_iff.mpr
  intro counts
  rcases (hasXtype_iff typed).mp counts with ⟨name, member, same⟩
  rw [localXtype_of_not_prefixed bare, written, (fold_of_mem_xtypes member).1] at same
  apply (fold_of_mem_xtypes member).2
  rw [← same, Prefixed, String.toList_append]
  exact List.prefix_append _ _

theorem Alike.symm (alike : Alike left right) : Alike right left :=
  ⟨alike.datatype.symm, alike.extent.symm, alike.xtype.symm⟩

/-- Only one of two alike types has the prefix in lower case. It alone may count. -/
theorem Alike.stored_ne_iff_of_prefixed (alike : Alike left right)
    (typed : left.xtype = some before) (retyped : right.xtype = some after)
    (prefixed : Prefixed before) (bare : ¬Prefixed after) :
    right.stored ≠ left.stored ↔ ∃ name ∈ left.datatype.xtypes, fold before = "adql:" ++ name := by
  have same : fold after = fold before := by simpa [typed, retyped] using alike.xtype
  have plain : right.stored = left.untyped.stored := by
    rw [stored_of_bare, alike.untyped]
    exact hasXtype_of_not_prefixed retyped bare (same.trans (fold_of_prefixed prefixed))
  rw [plain, ← hasXtype_of_prefixed typed prefixed, ne_comm, ne_eq, stored_eq_untyped_iff,
    Bool.not_eq_false]

theorem Alike.stored_eq_of_prefixed_iff (alike : Alike left right)
    (typed : left.xtype = some before) (retyped : right.xtype = some after)
    (prefixes : Prefixed before ↔ Prefixed after) :
    right.stored = left.stored := by
  have same : fold after = fold before := by simpa [typed, retyped] using alike.xtype
  have locals : fold (localXtype after) = fold (localXtype before) := by
    by_cases prefixed : Prefixed before
    · rw [fold_of_prefixed prefixed, fold_of_prefixed (prefixes.mp prefixed)] at same
      exact (String.append_right_inj _).mp same
    · rw [localXtype_of_not_prefixed prefixed,
        localXtype_of_not_prefixed (mt prefixes.mpr prefixed), same]
  apply stored_congr alike.datatype alike.extent
  intro names
  rw [Bool.eq_iff_iff, hasXtype_iff typed, hasXtype_iff retyped, locals]

theorem prefixRecased_some_iff {names : List String} :
    PrefixRecased names (some before) (some after) ↔
      (∃ name ∈ names, fold before = "adql:" ++ name) ∧ (Prefixed before ↔ ¬Prefixed after) := by
  simp [PrefixRecased]

theorem Alike.stored_ne_iff (alike : Alike left right) : right.stored ≠ left.stored ↔
    PrefixRecased left.datatype.xtypes left.xtype right.xtype := by
  have folded := alike.xtype
  cases typed : left.xtype with
  | none =>
      have retyped : right.xtype = none := by simpa [typed] using folded
      have same : right = left := by
        rcases left with ⟨_, _, _⟩
        rcases right with ⟨_, _, _⟩
        cases alike.datatype
        cases alike.extent
        cases typed
        cases retyped
        rfl
      simp [same, PrefixRecased]
  | some before =>
      rw [typed, Option.map_some, Option.map_eq_some_iff] at folded
      rcases folded with ⟨after, retyped, same⟩
      rw [retyped, prefixRecased_some_iff]
      by_cases prefixed : Prefixed before <;> by_cases reprefixed : Prefixed after
      · simp [alike.stored_eq_of_prefixed_iff typed retyped (by simp [prefixed, reprefixed]),
          prefixed, reprefixed]
      · rw [alike.stored_ne_iff_of_prefixed typed retyped prefixed reprefixed]
        simp [prefixed, reprefixed]
      · rw [ne_comm, alike.symm.stored_ne_iff_of_prefixed retyped typed reprefixed prefixed,
          alike.datatype, same]
        simp [prefixed, reprefixed]
      · simp [alike.stored_eq_of_prefixed_iff typed retyped (by simp [prefixed, reprefixed]),
          prefixed, reprefixed]

end

/-! ## Declared texts -/

section

variable {datatype arraysize xtype datatype' arraysize' xtype' : Option String}
  {declared : DeclaredType}

theorem resolve_of_present {name : String} (present : presentTrimmed datatype = some name) :
    resolve datatype arraysize xtype = .ok declared ↔
      ∃ known extent, Datatype.ofText name = .ok known ∧ Extent.ofText arraysize = .ok extent ∧
        declared = of known extent xtype := by
  rw [resolve, present]
  dsimp only
  cases Datatype.ofText name with
  | error => simp [bind, Except.bind]
  | ok known =>
      cases Extent.ofText arraysize with
      | error => simp [bind, Except.bind]
      | ok extent => simp [bind, Except.bind, pure, Except.pure, eq_comm]

theorem resolve_alike
    (typed : (presentTrimmed datatype').map fold = (presentTrimmed datatype).map fold)
    (sized : presentTrimmed arraysize' = presentTrimmed arraysize)
    (annotated : (presentTrimmed xtype').map fold = (presentTrimmed xtype).map fold)
    (resolves : resolve datatype arraysize xtype = .ok declared) :
    ∃ changed, resolve datatype' arraysize' xtype' = .ok changed ∧ Alike declared changed := by
  cases present : presentTrimmed datatype with
  | none =>
      have absent : presentTrimmed datatype' = none := by simpa [present] using typed
      rw [resolve, present] at resolves
      rw [resolve, absent]
      exact ⟨undeclared, rfl, by cases resolves; exact ⟨rfl, rfl, rfl⟩⟩
  | some name =>
      rw [present, Option.map_some, Option.map_eq_some_iff] at typed
      rcases typed with ⟨name', present', same⟩
      rcases (resolve_of_present present).mp resolves with ⟨known, extent, named, taken, rfl⟩
      have named' : Datatype.ofText name' = .ok known := by
        rw [Datatype.ofText_eq_ok_iff] at named ⊢
        rw [named, fold_trim, fold_trim, same]
      have taken' : Extent.ofText arraysize' = .ok extent := by
        rw [← taken]
        simp only [Extent.ofText, sized]
      refine ⟨of known extent xtype', ?_, ⟨rfl, rfl, annotated⟩⟩
      exact (resolve_of_present present').mpr ⟨known, extent, named', taken', rfl⟩

/-- Letter case and white space never decide whether a declared type is understood. They decide how
its values are stored only where the prefix of an extended type that counts goes from lower case
to another, or back. -/
theorem stored_changes_iff_prefixRecased (typed : Option.Rel Restyled datatype datatype')
    (sized : Option.Rel Padded arraysize arraysize')
    (annotated : Option.Rel Restyled xtype xtype') :
    ((∃ declared, resolve datatype arraysize xtype = .ok declared) ↔
      ∃ changed, resolve datatype' arraysize' xtype' = .ok changed) ∧
    ∀ declared changed, resolve datatype arraysize xtype = .ok declared →
      resolve datatype' arraysize' xtype' = .ok changed →
        Alike declared changed ∧
          (changed.stored ≠ declared.stored ↔
            PrefixRecased declared.datatype.xtypes declared.xtype changed.xtype) := by
  have named := map_fold_presentTrimmed_of_restyled typed
  have measured := presentTrimmed_of_padded sized
  have noted := map_fold_presentTrimmed_of_restyled annotated
  refine ⟨⟨?_, ?_⟩, ?_⟩
  · rintro ⟨declared, resolves⟩
    rcases resolve_alike named measured noted resolves with ⟨changed, resolved, _⟩
    exact ⟨changed, resolved⟩
  · rintro ⟨changed, resolves⟩
    rcases resolve_alike named.symm measured.symm noted.symm resolves with ⟨declared, resolved, _⟩
    exact ⟨declared, resolved⟩
  · intro declared changed resolves resolved
    rcases resolve_alike named measured noted resolves with ⟨other, found, alike⟩
    cases found.symm.trans resolved
    exact ⟨alike, alike.stored_ne_iff⟩

theorem restyled_point_column : Option.Rel Restyled (some "char") (some " Char") ∧
    Option.Rel Padded (some "*") (some "*\n") ∧
      Option.Rel Restyled (some "adql:point") (some "ADQL:Point\t") := by
  refine ⟨.some ⟨"Char", ?_, [' '], [], ?_⟩, .some ⟨[], ['\n'], ?_⟩,
    .some ⟨"ADQL:Point", ?_, [], ['\t'], ?_⟩⟩
  · simp [Recased, SameLetter]
  · exact ⟨rfl, List.forall_mem_singleton.mpr rfl, List.forall_mem_nil _⟩
  · exact ⟨rfl, List.forall_mem_nil _, List.forall_mem_singleton.mpr rfl⟩
  · simp [Recased, SameLetter]
  · exact ⟨rfl, List.forall_mem_nil _, List.forall_mem_singleton.mpr rfl⟩

theorem stored_changes_of_restyled_point_column :
    let declared := of .char (.varying none) (some "adql:point")
    let changed := of .char (.varying none) (some "ADQL:Point\t")
    resolve (some "char") (some "*") (some "adql:point") = .ok declared ∧
      resolve (some " Char") (some "*\n") (some "ADQL:Point\t") = .ok changed ∧
      PrefixRecased declared.datatype.xtypes declared.xtype changed.xtype ∧
      changed.stored ≠ declared.stored := by
  intro declared changed
  have resolves : resolve (some "char") (some "*") (some "adql:point") = .ok declared := rfl
  have resolved : resolve (some " Char") (some "*\n") (some "ADQL:Point\t") = .ok changed := rfl
  have recased : PrefixRecased declared.datatype.xtypes declared.xtype changed.xtype := by
    refine ⟨"adql:point", "ADQL:Point", rfl, rfl, ⟨"point", ?_, ?_⟩, ?_⟩ <;> decide +kernel
  have column := restyled_point_column
  have changes := stored_changes_iff_prefixRecased column.1 column.2.1 column.2.2
  have alike := changes.2 declared changed resolves resolved
  exact ⟨resolves, resolved, recased, alike.2.mpr recased⟩

theorem not_stored_alike : ¬∀ datatype datatype' arraysize arraysize' xtype xtype',
    Option.Rel Restyled datatype datatype' → Option.Rel Padded arraysize arraysize' →
      Option.Rel Restyled xtype xtype' →
        (resolve datatype' arraysize' xtype').toOption.map stored =
          (resolve datatype arraysize xtype).toOption.map stored := by
  intro alike
  have column := restyled_point_column
  have same := alike _ _ _ _ _ _ column.1 column.2.1 column.2.2
  revert same
  decide +kernel

end

end DeclaredType

end TableIntake
