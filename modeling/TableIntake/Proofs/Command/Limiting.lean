import Mathlib.Data.List.Forall2
import TableIntake.Proofs.Command.Showing
import TableIntake.Proofs.Upload.Recording

/-! # Limits of loads

A limit beside the settings is kept by every table of a load, if rows or bytes are counted. If they
are counted neither by the settings nor beside them, the load goes on as if there were no limit.
-/

namespace TableIntake

/-! ## Counted rows -/

def LimitUnit.counted (unit : LimitUnit) (items : List Row) : Nat :=
  match unit with
  | .none => 0
  | .rows => items.length
  | .bytes => items.foldr (fun row total => row.byteSize + total) 0

theorem Quota.total_eq_counted (quota : Quota) (rows : List Row) :
    quota.total (rows.map Row.byteSize) = quota.unit.counted rows := by
  rcases quota with ⟨unit, limit⟩
  induction rows with
  | nil => cases unit <;> rfl
  | cons row rows induction =>
      rw [List.map_cons, total, induction]
      cases unit with
      | none => rfl
      | rows => exact Nat.add_comm 1 _
      | bytes => rfl

theorem Registry.eq_documents_of_standard {format : String} {parser : TableParser}
    (known : standard.get format = .ok parser) : parser = .documents := by
  have alone : standard.parsers = [(TableParser.documentFormat, .documents)] := rfl
  unfold get at known
  rw [alone, List.lookup_cons, List.lookup_nil] at known
  split at known
  next found =>
    cases known
    split at found <;> cases found
    rfl
  next => cases known

/-! ## Alike loaders -/

namespace Loader

variable {left right : Loader}

theorem noteEnd_adds (reader : LimitedReader StreamReader) :
    ∃ notices, ∀ loader : Loader,
      loader.noteEnd reader = { loader with notices := loader.notices ++ notices } := by
  refine ⟨(reader.inner.stream.failure?.map Notice.parserFailed).toList ++
    if reader.exceeded then [.exceeded reader.quota] else [], fun loader => ?_⟩
  unfold noteEnd
  cases reader.inner.stream.failure? <;> cases reader.exceeded <;> simp [note]

theorem load_adds (table : UploadedTable) (reader : LimitedReader StreamReader) (store : Store) :
    ∃ result store' notices, ∀ loader : Loader, loader.store = store →
      loader.load table reader =
        (result, { loader with store := store', notices := loader.notices ++ notices }) := by
  let begun := Notice.uploading table.label table.dbName table.columns.length
  rcases adds : store.add table reader with ⟨loaded, last, added⟩
  rcases noteEnd_adds (TableReader.close last) with ⟨ended, noted⟩
  cases loaded with
  | error fault =>
      refine ⟨.error fault, added, begun :: ended, fun loader same => ?_⟩
      simp [load, same, adds, noted, note, begun]
  | ok rows =>
      cases cancelled : last.inner.wasCancelled with
      | true =>
          refine ⟨.error (.interrupted table.label rows), added.discard table.dbName,
            begun :: ended ++ [.interrupted table.label rows], fun loader same => ?_⟩
          simp [load, same, adds, noted, cancelled, note, begun]
      | false =>
          refine ⟨.ok { table with rows := rows }, added,
            begun :: ended ++ [.uploaded table.label rows], fun loader same => ?_⟩
          simp [load, same, adds, noted, cancelled, note, begun]

/-- What an upload comes to, and what it adds to its loader, depends on how it starts there and on
the store only. -/
theorem uploadOne_adds (arrival : Arrival) (loader : Loader) :
    ∃ result store notices, ∀ other : Loader, other.store = loader.store →
      other.start arrival = loader.start arrival →
      other.uploadOne arrival =
        (result, { other with store := store, notices := other.notices ++ notices }) := by
  cases starts : loader.start arrival with
  | error fault =>
      refine ⟨.error fault, loader.store, [], fun other store start => ?_⟩
      simp [uploadOne, start, ← store]
  | ok reader =>
      rcases told : TableReader.metadata reader with ⟨answer, next⟩
      cases answer with
      | error fault =>
          rcases noteEnd_adds next with ⟨notices, noted⟩
          refine ⟨.error (.reading arrival.upload.label fault), loader.store, notices,
            fun other store start => ?_⟩
          simp only [uploadOne, start, told, noted, ← store]
      | ok columns =>
          rcases load_adds
            { label := arrival.upload.label
              dbName := databaseName arrival.upload.label arrival.moment
              columns := columns } next loader.store with ⟨result, store, notices, loads⟩
          refine ⟨result, store, notices, fun other same start => ?_⟩
          simp only [uploadOne, start, told, loads other same]

structure Alike (left right : Loader) : Prop where
  store : left.store = right.store
  catalogue : left.catalogue = right.catalogue
  notices : left.notices = right.notices
  start : ∀ arrival, left.start arrival = right.start arrival

theorem Alike.upload (alike : left.Alike right) (arrivals : List Arrival) :
    (left.upload arrivals).1 = (right.upload arrivals).1 ∧
      (left.upload arrivals).2.Alike (right.upload arrivals).2 := by
  induction arrivals generalizing left right with
  | nil => exact ⟨rfl, alike⟩
  | cons arrival rest induction =>
      rcases right.uploadOne_adds arrival with ⟨result, store, notices, adds⟩
      have ofLeft := adds left alike.store (alike.start arrival)
      have ofRight := adds right rfl rfl
      have noted : left.notices ++ notices = right.notices ++ notices := by rw [alike.notices]
      simp only [Loader.upload, ofLeft, ofRight]
      cases result with
      | error fault => exact ⟨rfl, rfl, alike.catalogue, noted, alike.start⟩
      | ok table =>
          have registered := congrArg (Catalogue.register table) alike.catalogue
          exact induction ⟨rfl, registered, noted, alike.start⟩

end Loader

/-! ## Tables within the limit -/

/-- The table of an upload has the first rows of its document, and no more than the limit of what is
counted in them. The greatest limit is one that no count exceeds. -/
structure Load.Within (files : Files) (unit : LimitUnit) (limit : UInt64) (arrival : Arrival)
    (entry : UploadedTable × StoredTable) : Prop where
  label : entry.1.label = arrival.upload.label
  recorded : ∃ source rows, arrival.upload.source files = .ok source ∧ rows <+: source.rows ∧
    entry.1.rows = rows.length ∧ entry.2.Records entry.1.columns rows ∧
    (limit.toNat < UInt64.size - 1 → unit.counted rows ≤ limit.toNat)

namespace Loader

variable {loader after last : Loader} {arrival : Arrival} {arrivals : List Arrival}
  {table : UploadedTable} {stored : StoredTable} {entries : List (UploadedTable × StoredTable)}
  {unit : LimitUnit} {limit : UInt64}

theorem uploadOne_within (standard : loader.registry = .standard)
    (quota : loader.settings.quota = ⟨unit, limit⟩) (counts : unit ≠ .none)
    (uploads : loader.uploadOne arrival = (.ok table, after))
    (there : after.store.table? table.dbName = some stored) :
    Load.Within loader.files unit limit arrival (table, stored) := by
  refine ⟨(uploadOne_ok_named uploads).1, ?_⟩
  rcases uploadOne_recorded uploads with
    ⟨source, parser, stored', rows, opens, format, recorded, there'⟩
  obtain rfl : stored' = stored := Option.some.inj (there'.symm.trans there)
  rw [standard] at format
  obtain rfl := Registry.eq_documents_of_standard format
  have first := recorded.first.trans (TableParser.handed_documents source)
  refine ⟨source, rows, opens, first, recorded.count, recorded.records, ?_⟩
  intro finite
  have within := recorded.within
  rw [Quota.total_eq_counted, quota] at within
  exact Nat.le_of_not_lt fun more => within ⟨counts, finite, more⟩

theorem Loads.within (loads : loader.Loads arrivals entries last)
    (standard : loader.registry = .standard) (quota : loader.settings.quota = ⟨unit, limit⟩)
    (counts : unit ≠ .none) :
    List.Forall₂ (Load.Within loader.files unit limit) arrivals entries := by
  induction loads with
  | nil => exact .nil
  | @cons loader next last arrival arrivals table stored entries uploads there _ induction =>
      rcases loader.uploadOne_adds arrival with ⟨_, store, notices, adds⟩
      have added := adds loader rfl rfl
      rw [uploads] at added
      cases added
      exact .cons (uploadOne_within standard quota counts uploads there)
        (induction standard quota)

theorem Loads.consistent {earlier : List UploadedTable} (loads : loader.Loads arrivals entries last)
    (consistent : loader.Consistent earlier) : last.Consistent earlier := by
  induction loads with
  | nil => exact consistent
  | cons uploads _ _ induction => exact induction (consistent.register (uploadOne_ok uploads))

end Loader

/-! ## Effective limits -/

namespace Load

variable {files : Files} {settings : Settings} {overrides : LimitOverrides}
  {arrivals : List Arrival} {limit : UInt64}

/-- A load that heeds the limit fails and shows nothing, or it counts rows or bytes, and what it
leaves is one table for each upload, within the limit. -/
inductive Heeds (files : Files) (effective : Settings) (arrivals : List Arrival) (limit : UInt64) :
    Outcome → Prop
  | failed {trouble : Trouble} {notices : List Notice} :
      Heeds files effective arrivals limit ⟨[], some trouble, notices⟩
  | kept {entries : List (UploadedTable × StoredTable)} {last : Loader} {notices : List Notice} :
      effective.limit.unit ≠ .none →
      effective.quota = ⟨effective.limit.unit, limit⟩ →
      Loader.Loads { settings := effective, files := files } arrivals entries last →
      last.store.Registers (entries.map Prod.fst) →
      List.Forall₂ (Within files effective.limit.unit limit) arrivals entries →
      Heeds files effective arrivals limit ⟨entries.map shown, none, notices⟩

theorem unit_apply_eq_none_iff (settings : Settings) (counts : overrides.unit ≠ some .none) :
    (overrides.apply settings).limit.unit = .none ↔
      overrides.unit = none ∧ settings.limit.unit = .none := by
  simp only [LimitOverrides.apply]
  cases given : overrides.unit with
  | none => simp
  | some unit => simpa [given] using counts

theorem quota_apply (settings : Settings) (given : overrides.limit = some limit)
    (positive : limit ≠ 0) :
    (overrides.apply settings).quota =
      if (overrides.apply settings).limit.unit = .none then .unlimited
      else ⟨(overrides.apply settings).limit.unit, limit⟩ := by
  simp only [LimitOverrides.apply, given, Option.some_or, Settings.quota]
  cases overrides.unit.getD settings.limit.unit <;> simp [positive]

def ending : Option UploadFault × Loader → Outcome
  | (some fault, loader) => ⟨[], some (.upload fault), loader.notices⟩
  | (none, loader) =>
      let (outputs, trouble) := texts loader.catalogue loader.store loader.catalogue.tables
      ⟨outputs, trouble, loader.notices⟩

theorem ending_congr {left right : Option UploadFault × Loader} (same : left.1 = right.1)
    (alike : left.2.Alike right.2) : ending left = ending right := by
  rcases left with ⟨fault, left⟩
  rcases right with ⟨_, right⟩
  dsimp only at same alike
  subst same
  cases fault <;> simp only [ending, alike.notices, alike.catalogue, alike.store]

theorem run_of_uncounted (uncounted : (overrides.apply settings).limit.unit = .none) :
    run files settings overrides arrivals =
      if settings.enabled then
        ending (Loader.upload arrivals { settings := overrides.apply settings, files := files })
      else ⟨[], some (.upload .disabled), []⟩ := by
  have complete : ¬((overrides.apply settings).limit.unit ≠ .none ∧
      (overrides.apply settings).limit.limit = none) := fun missing => missing.1 uncounted
  have goesOn : run files settings overrides arrivals = _ := if_neg complete
  rw [goesOn, create_standard]
  cases enabled : settings.enabled with
  | false => simp [LimitOverrides.apply, enabled]
  | true =>
      simp only [LimitOverrides.apply, enabled, if_true]
      rfl

theorem run_unlimited (uncounted : (overrides.apply settings).limit.unit = .none) :
    run files settings overrides arrivals =
      run files { settings with limit := {} } {} arrivals := by
  let bare : Settings := LimitOverrides.apply {} { settings with limit := {} }
  have quota : (overrides.apply settings).quota = bare.quota := by
    simp only [Settings.quota, uncounted]
    rfl
  have alike : Loader.Alike { settings := overrides.apply settings, files := files }
      { settings := bare, files := files } := by
    refine ⟨rfl, rfl, rfl, fun arrival => ?_⟩
    simp only [Loader.start, quota]
    rfl
  rcases alike.upload arrivals with ⟨same, held⟩
  have uncounted' : bare.limit.unit = .none := rfl
  rw [run_of_uncounted uncounted, run_of_uncounted uncounted', ending_congr same held]

theorem heeds_of_trouble (fails : (run files settings overrides arrivals).trouble ≠ none) :
    Heeds files (overrides.apply settings) arrivals limit
      (run files settings overrides arrivals) := by
  rcases run_cases files settings overrides arrivals with
    ⟨fine, _⟩ | ⟨nothing, trouble, stopped, _⟩
  · exact absurd fine fails
  · generalize run files settings overrides arrivals = outcome at nothing stopped
    rcases outcome with ⟨_, _, notices⟩
    cases nothing
    cases stopped
    exact .failed

theorem heeds_of_counted (given : overrides.limit = some limit) (positive : limit ≠ 0)
    (counted : (overrides.apply settings).limit.unit ≠ .none) :
    Heeds files (overrides.apply settings) arrivals limit
      (run files settings overrides arrivals) := by
  have quota := quota_apply settings given positive
  rw [if_neg counted] at quota
  rcases run_cases files settings overrides arrivals with
    ⟨fine, entries, last, loads, outputs⟩ | ⟨_, trouble, stopped, _⟩
  · have within := loads.within rfl quota counted
    have start : Loader.Consistent [] { settings := overrides.apply settings, files := files } :=
      ⟨[], rfl, .empty⟩
    rcases loads.consistent start with ⟨uploaded, tables, registers⟩
    obtain rfl : uploaded = entries.map Prod.fst := by
      rw [loads.catalogue] at tables
      exact tables.symm
    generalize run files settings overrides arrivals = outcome at fine outputs
    rcases outcome with ⟨_, _, notices⟩
    cases fine
    cases outputs
    exact .kept counted quota loads registers within
  · exact heeds_of_trouble (by simp [stopped])

theorem heeds_iff_of_uncounted (uncounted : (overrides.apply settings).limit.unit = .none) :
    Heeds files (overrides.apply settings) arrivals limit (run files settings overrides arrivals) ↔
      (run files settings overrides arrivals).trouble ≠ none := by
  constructor
  · intro heeds
    generalize run files settings overrides arrivals = outcome at heeds ⊢
    cases heeds with
    | failed => exact nofun
    | kept counted => exact absurd uncounted counted
  · exact heeds_of_trouble

/-- A load heeds a limit beside its settings if these or the unit beside them say what is counted.
Else it heeds the limit only by failing: it does just what it does without one. -/
theorem heeds_limit_iff (files : Files) (settings : Settings) (overrides : LimitOverrides)
    (arrivals : List Arrival) (limit : UInt64) (given : overrides.limit = some limit)
    (positive : limit ≠ 0) (counts : overrides.unit ≠ some .none) :
    let outcome := run files settings overrides arrivals
    let unlimited := run files { settings with limit := {} } {} arrivals
    (Heeds files (overrides.apply settings) arrivals limit outcome ↔
        overrides.unit ≠ none ∨ settings.limit.unit ≠ .none ∨ unlimited.trouble ≠ none) ∧
      (overrides.unit = none → settings.limit.unit = .none →
        (overrides.apply settings).quota = .unlimited ∧ outcome = unlimited) := by
  intro outcome unlimited
  have uncounted_iff := unit_apply_eq_none_iff settings counts
  by_cases uncounted : (overrides.apply settings).limit.unit = .none
  · have ignored : outcome = unlimited := run_unlimited uncounted
    have quota := quota_apply settings given positive
    rw [if_pos uncounted] at quota
    rcases uncounted_iff.mp uncounted with ⟨none, usual⟩
    refine ⟨(heeds_iff_of_uncounted uncounted).trans ?_, fun _ _ => ⟨quota, ignored⟩⟩
    simp [none, usual, ← ignored, outcome]
  · have counted : overrides.unit ≠ none ∨ settings.limit.unit ≠ .none := by
      rw [← not_and_or, ← uncounted_iff]
      exact uncounted
    refine ⟨iff_of_true (heeds_of_counted given positive uncounted) (counted.imp_right .inl), ?_⟩
    exact fun none usual => absurd (uncounted_iff.mpr ⟨none, usual⟩) uncounted

def twoRows : Arrival :=
  { upload :=
      { label := "t"
        origin := .given (.document
          { fields := [{ name := "id", type := .int32 }]
            batches := [{ columns := [[.whole 1, .whole 2]], rows := 2 }] }) } }

theorem heeds_limit_of_two_rows :
    let settings : Settings := { limit := { unit := .rows, limit := some 9 } }
    let overrides : LimitOverrides := { limit := some 2 }
    overrides.limit = some 2 ∧ (2 : UInt64) ≠ 0 ∧ overrides.unit ≠ some .none ∧
      (run [] settings overrides [twoRows]).trouble = none ∧
      Heeds [] (overrides.apply settings) [twoRows] 2 (run [] settings overrides [twoRows]) := by
  intro settings overrides
  have heeds := heeds_limit_iff [] settings overrides [twoRows] 2 rfl (by decide) nofun
  exact ⟨rfl, by decide, nofun, by decide +kernel, heeds.1.mpr (.inr (.inl nofun))⟩

/-- The usual settings count nothing. A limit of one beside them is ignored without a word, and both
rows are loaded. -/
theorem not_heeds_limit_without_unit :
    let overrides : LimitOverrides := { limit := some 1 }
    let outcome := run [] {} overrides [twoRows]
    Settings.problem? {} = none ∧ (overrides.apply {}).quota.isEnabled = false ∧
      outcome.trouble = none ∧
      outcome.notices = [.uploading "t" "t_0" 1, .uploaded "t" 2] ∧
      ¬Heeds [] (overrides.apply {}) [twoRows] 1 outcome := by
  intro overrides outcome
  have loads : outcome.trouble = none := by decide +kernel
  refine ⟨by decide +kernel, rfl, loads, by decide +kernel, ?_⟩
  intro heeds
  exact (heeds_iff_of_uncounted rfl).mp heeds loads

end Load

end TableIntake
