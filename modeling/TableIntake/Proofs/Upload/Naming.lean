import Mathlib
import TableIntake.Proofs.Numeral.Unsigned
import TableIntake.Proofs.Store.Refusing
import TableIntake.Proofs.Upload.Registration

/-! # Names of uploaded tables

The database name of a table tells its label and its moment, whatever the label ends in. A name is
therefore taken only by an earlier upload of the same label at the same moment.
-/

namespace TableIntake

/-! ## Names -/

theorem eq_nil_of_cons_eq_append {α : Type} {separator : α} {after between behind : List α}
    (absent : separator ∉ after) (split : separator :: after = between ++ separator :: behind) :
    between = [] := by
  cases between with
  | nil => rfl
  | cons first rest =>
      -- Otherwise the separator in front of `behind` would be among `after`.
      rw [List.cons_append, List.cons.injEq] at split
      rw [split.2] at absent
      exact absurd (List.mem_append_right _ List.mem_cons_self) absent

/-- The last separator tells what stands in front of it from what stands behind. -/
theorem append_cons_inj {α : Type} {separator : α} {left right after behind : List α}
    (absent : separator ∉ after) (missing : separator ∉ behind) :
    left ++ separator :: after = right ++ separator :: behind ↔ left = right ∧ after = behind := by
  constructor
  · intro same
    rcases List.append_eq_append_iff.mp same with ⟨between, rfl, split⟩ | ⟨between, rfl, split⟩
    · obtain rfl := eq_nil_of_cons_eq_append absent split
      cases split
      exact ⟨(List.append_nil _).symm, rfl⟩
    · obtain rfl := eq_nil_of_cons_eq_append missing split
      cases split
      exact ⟨List.append_nil _, rfl⟩
  · rintro ⟨rfl, rfl⟩
    rfl

theorem underscore_not_mem_toString (moment : Int) : '_' ∉ (toString moment).toList := by
  have digits (value : Nat) : '_' ∉ value.repr.toList :=
    (Numeral.spells_toString value).not_mem (by decide) rfl
  rw [Int.toString_eq_repr, Int.repr_eq_if]
  split
  · exact digits _
  · rw [String.toList_append]
    intro member
    rcases List.mem_append.mp member with sign | digit
    · exact absurd sign (by decide)
    · exact digits _ digit

theorem toList_databaseName (label : String) (moment : Int) :
    (databaseName label moment).toList = label.toList ++ '_' :: (toString moment).toList := by
  simp [databaseName]

theorem databaseName_inj {label other : String} {moment later : Int} :
    databaseName label moment = databaseName other later ↔ label = other ∧ moment = later := by
  have absent := underscore_not_mem_toString moment
  have missing := underscore_not_mem_toString later
  rw [← String.toList_inj, toList_databaseName, toList_databaseName,
    append_cons_inj absent missing, String.toList_inj, String.toList_inj, Int.toString_eq_repr,
    Int.toString_eq_repr, Int.repr_inj]

/-! ## Names that are taken -/

theorem UploadFault.reading_ne_unstorable (label other message : String) (fault : ReadFault) :
    reading label fault ≠ .unstorable other message := by
  cases fault <;> exact nofun

namespace Store

variable {ρ : Type} [TableReader ρ] {store after : Store} {label name : String}

theorem mem_names_of_isSome (there : (store.table? name).isSome = true) : name ∈ store.names := by
  rcases List.lookup_isSome_iff.mp there with ⟨entry, member, same⟩
  rw [beq_iff_eq.mp same]
  exact List.mem_map_of_mem member

theorem refusedCell_ne_nameTaken (label other name : String) (column : Column) (cell : Cell) :
    refusedCell label column cell ≠ nameTaken other name := by
  intro same
  have messages := (UploadFault.unstorable.inj same).2
  have first := congrArg (fun message : String => message.toList.head?) messages
  simp at first

theorem add_nameTaken {table : UploadedTable} {reader last : ρ}
    (adds : store.add table reader = (.error (nameTaken label name), last, after)) :
    table.dbName ∈ store.names := by
  rcases add_error_reasons adds with ⟨there, _⟩ | ⟨refusal, same⟩ | ⟨_, refused⟩
  · exact mem_names_of_isSome there
  · exact absurd same.symm (UploadFault.reading_ne_unstorable _ _ _ refusal)
  · generalize same : nameTaken label name = fault at refused
    cases refused with
    | cell => exact absurd same.symm (refusedCell_ne_nameTaken _ _ _ _ _)

def NamedAfter (store : Store) (arrivals : List Arrival) : Prop :=
  ∀ name ∈ store.names, ∃ arrival ∈ arrivals,
    name = databaseName arrival.upload.label arrival.moment

/-- A store that was empty before calls with these uploads, by one loader or by several. -/
inductive FilledBy : Store → List Arrival → Prop
  | empty : FilledBy {} []
  | upload {done : List Arrival} (loader : Loader) (arrivals : List Arrival) :
      FilledBy loader.store done → FilledBy (loader.upload arrivals).2.store (done ++ arrivals)

theorem NamedAfter.mono {done more : List Arrival} (named : store.NamedAfter done)
    (among : done ⊆ more) : store.NamedAfter more := by
  intro name member
  rcases named name member with ⟨arrival, there, same⟩
  exact ⟨arrival, among there, same⟩

end Store

namespace Loader

variable {loader after : Loader} {table : UploadedTable} {arrival : Arrival}
  {done arrivals : List Arrival} {label name : String}

theorem start_ne_unstorable (loader : Loader) (arrival : Arrival) (label message : String) :
    loader.start arrival ≠ .error (.unstorable label message) := by
  intro starts
  simp only [start] at starts
  split at starts
  · cases starts
  · split at starts
    · exact UploadFault.reading_ne_unstorable _ _ _ _ (Except.error.inj starts)
    · cases starts

theorem load_nameTaken {reader : LimitedReader StreamReader}
    (loads : loader.load table reader = (.error (Store.nameTaken label name), after)) :
    table.dbName ∈ loader.store.names := by
  have read := load_read table reader loader
  rw [loads] at read
  generalize taken : Store.nameTaken label name = fault at read
  cases read with
  | refused adds => exact Store.add_nameTaken (taken ▸ adds)
  | interrupted => cases taken

theorem uploadOne_nameTaken
    (uploads : loader.uploadOne arrival = (.error (Store.nameTaken label name), after)) :
    databaseName arrival.upload.label arrival.moment ∈ loader.store.names := by
  have tried := uploadOne_tried arrival loader
  rw [uploads] at tried
  generalize result : (Except.error (Store.nameTaken label name), after) = came at tried
  cases tried with
  | unopened starts =>
      cases result
      exact absurd starts (start_ne_unstorable _ _ _ _)
  | unread =>
      have same := Except.error.inj (Prod.mk.inj result).1
      exact absurd same.symm (UploadFault.reading_ne_unstorable _ _ _ _)
  | read => exact load_nameTaken result.symm

theorem Stores.namedAfter (stores : loader.Stores table after)
    (given : table.dbName = databaseName arrival.upload.label arrival.moment)
    (named : loader.store.NamedAfter done) : after.store.NamedAfter (done ++ [arrival]) := by
  rcases stores.batch with ⟨stored, _, inserted⟩
  rw [inserted]
  intro name member
  rcases List.mem_cons.mp ((Store.names_insert_perm stores.absent stored).mem_iff.mp member) with
    rfl | earlier
  · exact ⟨arrival, List.mem_append_right _ List.mem_cons_self, given⟩
  · exact named.mono (List.subset_append_left _ _) name earlier

theorem upload_namedAfter (named : loader.store.NamedAfter done) :
    (loader.upload arrivals).2.store.NamedAfter (done ++ arrivals) := by
  induction arrivals generalizing loader done with
  | nil => exact named.mono (List.subset_append_left _ _)
  | cons arrival rest induction =>
      simp only [upload]
      split
      next fails =>
        rw [(uploadOne_error fails).store]
        exact named.mono (List.subset_append_left _ _)
      next succeeds =>
        rw [← List.singleton_append, ← List.append_assoc]
        exact induction ((uploadOne_ok succeeds).namedAfter (uploadOne_ok_named succeeds).2 named)

end Loader

theorem Store.FilledBy.namedAfter {store : Store} {done : List Arrival}
    (filled : store.FilledBy done) : store.NamedAfter done := by
  induction filled with
  | empty => exact nofun
  | upload _ _ _ named => exact Loader.upload_namedAfter named

namespace Loader

variable {loader after : Loader} {done arrivals : List Arrival} {label name : String}

theorem upload_nameTaken (named : loader.store.NamedAfter done)
    (uploads : loader.upload arrivals = (some (Store.nameTaken label name), after)) :
    ∃ before failing rest,
      arrivals = before ++ failing :: rest ∧
        ∃ earlier ∈ done ++ before,
          earlier.upload.label = failing.upload.label ∧ earlier.moment = failing.moment := by
  rcases upload_error uploads with ⟨before, failing, rest, middle, split, succeed, fails⟩
  have filled : (loader.upload before).2.store.NamedAfter (done ++ before) :=
    upload_namedAfter named
  rw [succeed] at filled
  rcases filled _ (uploadOne_nameTaken fails) with ⟨earlier, among, same⟩
  rcases databaseName_inj.mp same with ⟨label, moment⟩
  exact ⟨before, failing, rest, split, earlier, among, label.symm, moment.symm⟩

/-- Names are alike only if the labels and the moments are. So uploads with different labels into a
store that was empty never find a name taken, whatever the moments are and the labels end in. -/
theorem name_free_of_distinct_labels :
    (∀ label other moment later,
      databaseName label moment = databaseName other later ↔ label = other ∧ moment = later) ∧
      ∀ (loader : Loader) (done arrivals : List Arrival), loader.store.FilledBy done →
        ((done ++ arrivals).map (·.upload.label)).Nodup →
        ∀ label name, (loader.upload arrivals).1 ≠ some (Store.nameTaken label name) := by
  refine ⟨fun label other moment later => databaseName_inj, ?_⟩
  intro loader done arrivals filled distinct label name taken
  rcases upload_nameTaken filled.namedAfter (Prod.ext taken rfl) with
    ⟨before, failing, rest, rfl, earlier, among, same, _⟩
  rw [← List.append_assoc, List.map_append, List.map_cons] at distinct
  have apart := (List.nodup_append.mp distinct).2.2
  exact apart _ (List.mem_map_of_mem among) _ List.mem_cons_self same

theorem name_free_of_labels_like_names :
    let header : Header := [{ name := "id", datatype := some "int" }]
    let arrival (label : String) (moment : Int) : Arrival :=
      { upload := { label := label, origin := .given (.script [.metadata header, .row [.int 1]]) }
        moment := moment }
    let done := [arrival "t" 1]
    let arrivals := [arrival "t_1" 1, arrival "t_1_" (-1)]
    let loader : Loader :=
      { settings := { format := "script" }, registry := Registry.register (.scripts "script") {} }
    let next := (loader.upload done).2
    next.store.FilledBy done ∧ ((done ++ arrivals).map (·.upload.label)).Nodup ∧
      (∀ label name, (next.upload arrivals).1 ≠ some (Store.nameTaken label name)) ∧
      (next.upload arrivals).2.store.names = ["t_1", "t_1_1", "t_1__-1"] := by
  intro header arrival done arrivals loader next
  have filled : next.store.FilledBy done := .upload loader done .empty
  have distinct : ((done ++ arrivals).map (·.upload.label)).Nodup := by decide
  refine ⟨filled, distinct, ?_, ?_⟩
  · exact name_free_of_distinct_labels.2 next done arrivals filled distinct
  · decide

end Loader

end TableIntake
