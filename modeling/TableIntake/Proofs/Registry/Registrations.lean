import TableIntake.Proofs.Text.Bytes
import TableIntake.Proofs.Text.Recasing
import TableIntake.Registry

/-! # Registrations

What a registry answers is told by its history. A format finds the parser that was registered last
under its name, in whatever letter case, and the formats are the names of all registrations in lower
case, in the order of their bytes.
-/

namespace TableIntake

namespace Registry

open Text

def registered (parsers : List TableParser) : Registry :=
  parsers.foldl (fun registry parser => registry.register parser) {}

/-- Of the parsers with the name `format`, in any letter case, `parser` comes last. -/
def Latest (parsers : List TableParser) (format : String) (parser : TableParser) : Prop :=
  ∃ before after, parsers = before ++ parser :: after ∧ Recased parser.name format ∧
    ∀ later ∈ after, ¬Recased later.name format

variable {entries : List (String × TableParser)} {registry : Registry}
  {parsers : List TableParser} {format name : String} {parser last : TableParser}

/-! ## Entries -/

theorem lookup_entry (name : String) (entry : String × TableParser)
    (rest : List (String × TableParser)) :
    (entry :: rest).lookup name = if name = entry.1 then some entry.2 else rest.lookup name := by
  rw [List.lookup_cons]
  by_cases same : name = entry.1
  · rw [if_pos same, beq_iff_eq.mpr same]
  · rw [if_neg same, beq_false_of_ne same]

/-- The entries need not be in order: an entry with the same name is replaced or comes behind. -/
theorem lookup_insert (format name : String) (parser : TableParser)
    (entries : List (String × TableParser)) :
    (insert format parser entries).lookup name =
      if name = format then some parser else entries.lookup name := by
  induction entries with
  | nil => exact lookup_entry name (format, parser) []
  | cons entry rest induction =>
      rcases entry with ⟨other, known⟩
      simp only [insert]
      split
      · exact lookup_entry name (format, parser) _
      · split
        next same =>
          rw [lookup_entry, lookup_entry, ← same]
          split <;> rfl
        next different =>
          rw [lookup_entry, lookup_entry, induction]
          by_cases same : name = format
          · rw [if_pos same, if_pos same, if_neg (same ▸ different)]
          · rw [if_neg same, if_neg same]

theorem mem_insert :
    name ∈ (insert format parser entries).map Prod.fst ↔
      name = format ∨ name ∈ entries.map Prod.fst := by
  induction entries with
  | nil => simp [insert]
  | cons entry rest induction =>
      rcases entry with ⟨other, known⟩
      simp only [insert]
      split
      · simp
      · split
        next same => simp [same]
        · simp [induction, or_left_comm]

theorem insert_increasing (increasing : (entries.map Prod.fst).Pairwise (· < ·)) :
    ((insert format parser entries).map Prod.fst).Pairwise (· < ·) := by
  induction entries with
  | nil => exact List.pairwise_singleton _ _
  | cons entry rest induction =>
      rcases entry with ⟨other, known⟩
      rcases List.pairwise_cons.mp increasing with ⟨first, later⟩
      simp only [insert]
      split
      next less =>
        refine List.pairwise_cons.mpr ⟨?_, increasing⟩
        intro name member
        rcases List.mem_cons.mp member with rfl | behind
        · exact less
        · exact less.trans (first name behind)
      next notLess =>
        split
        next same =>
          subst same
          exact increasing
        next different =>
          refine List.pairwise_cons.mpr ⟨?_, induction later⟩
          intro name member
          rcases mem_insert.mp member with rfl | behind
          · exact lt_of_le_of_ne (not_lt.mp notLess) (Ne.symm different)
          · exact first name behind

/-! ## One registration -/

theorem get_register_of_recased (recased : Recased parser.name format) :
    (registry.register parser).get format = .ok parser := by
  have same : fold format = fold parser.name := recased.fold_eq
  simp only [get, register, lookup_insert, if_pos same]

theorem get_register_of_not_recased (different : ¬Recased parser.name format) :
    (registry.register parser).get format = registry.get format := by
  have different : fold format ≠ fold parser.name := fun same =>
    different (recased_iff_fold_eq.mpr same.symm)
  simp only [get, register, lookup_insert, if_neg different]

theorem mem_formats_register :
    name ∈ (registry.register parser).formats ↔
      name = fold parser.name ∨ name ∈ registry.formats :=
  mem_insert

theorem formats_register_increasing (increasing : registry.formats.Pairwise (· < ·)) :
    (registry.register parser).formats.Pairwise (· < ·) :=
  insert_increasing increasing

theorem latest_snoc_iff :
    Latest (parsers ++ [last]) format parser ↔
      Recased last.name format ∧ parser = last ∨
        ¬Recased last.name format ∧ Latest parsers format parser := by
  -- A registration is the latest of its name and leaves the others as they are.
  constructor
  · rintro ⟨before, after, split, named, others⟩
    rcases after.eq_nil_or_concat with rfl | ⟨middle, final, rfl⟩
    · rcases List.append_inj' split rfl with ⟨_, same⟩
      cases same
      exact .inl ⟨named, rfl⟩
    · rw [List.concat_eq_append] at split others
      rw [← List.cons_append, ← List.append_assoc] at split
      rcases List.append_inj' split rfl with ⟨earlier, same⟩
      cases same
      rcases List.forall_mem_append.mp others with ⟨others, different⟩
      exact .inr ⟨different last List.mem_cons_self, before, middle, earlier, named, others⟩
  · rintro (⟨named, rfl⟩ | ⟨different, before, after, rfl, named, others⟩)
    · exact ⟨parsers, [], rfl, named, nofun⟩
    · refine ⟨before, after ++ [last], by simp, named, ?_⟩
      exact List.forall_mem_append.mpr ⟨others, List.forall_mem_singleton.mpr different⟩

/-! ## All registrations -/

theorem registered_snoc (parsers : List TableParser) (last : TableParser) :
    registered (parsers ++ [last]) = (registered parsers).register last := by
  simp [registered]

theorem get_registered_eq_ok_iff :
    (registered parsers).get format = .ok parser ↔ Latest parsers format parser := by
  induction parsers using List.reverseRecOn with
  | nil => simp [registered, get, Latest]
  | append_singleton parsers last induction =>
      rw [registered_snoc, latest_snoc_iff]
      by_cases recased : Recased last.name format
      · simp [get_register_of_recased recased, recased, eq_comm]
      · simp [get_register_of_not_recased recased, recased, induction]

theorem get_registered_eq_error_iff {fault : ReadFault} :
    (registered parsers).get format = .error fault ↔
      fault = .setup ("no table builder for format \"" ++ format ++ "\"") ∧
        ∀ parser ∈ parsers, ¬Recased parser.name format := by
  induction parsers using List.reverseRecOn with
  | nil => simp [registered, get, eq_comm]
  | append_singleton parsers last induction =>
      rw [registered_snoc, List.forall_mem_append, List.forall_mem_singleton]
      by_cases recased : Recased last.name format
      · simp [get_register_of_recased recased, recased]
      · simp [get_register_of_not_recased recased, recased, induction]

theorem mem_formats_registered_iff :
    name ∈ (registered parsers).formats ↔ ∃ parser ∈ parsers, name = fold parser.name := by
  induction parsers using List.reverseRecOn with
  | nil => simp [registered, formats]
  | append_singleton parsers last induction =>
      rw [registered_snoc, mem_formats_register, induction]
      simp [or_and_right, exists_or, or_comm]

theorem formats_registered_increasing (parsers : List TableParser) :
    (registered parsers).formats.Pairwise (· < ·) := by
  induction parsers using List.reverseRecOn with
  | nil => exact .nil
  | append_singleton parsers last induction =>
      rw [registered_snoc]
      exact formats_register_increasing induction

/-- After any registrations a format, in whatever letter case, finds the latest parser of that name,
or is told to be unknown just if no parser has the name. The formats are all names that were
registered, in lower case, each once and in the order of their bytes. -/
theorem finds_latest_and_lists_all (parsers : List TableParser) :
    (∀ format,
      (∀ parser,
        (registered parsers).get format = .ok parser ↔ Latest parsers format parser) ∧
      ∀ fault,
        (registered parsers).get format = .error fault ↔
          fault = .setup ("no table builder for format \"" ++ format ++ "\"") ∧
            ∀ parser ∈ parsers, ¬Recased parser.name format) ∧
      (registered parsers).formats.Pairwise BytesBefore ∧
      (registered parsers).formats.Nodup ∧
      ∀ name,
        name ∈ (registered parsers).formats ↔ ∃ parser ∈ parsers, name = fold parser.name := by
  have increasing := formats_registered_increasing parsers
  refine ⟨fun format => ⟨fun parser => get_registered_eq_ok_iff,
    fun fault => get_registered_eq_error_iff⟩, ?_, ?_, fun name => mem_formats_registered_iff⟩
  · exact increasing.imp bytesBefore_of_lt
  · exact increasing.imp ne_of_lt

example (parsers : List TableParser) :
    parsers.foldl (fun registry parser => registry.register parser) standard =
      registered (.documents :: parsers) :=
  rfl

end Registry

end TableIntake
