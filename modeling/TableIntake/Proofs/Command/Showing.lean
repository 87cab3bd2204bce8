import Mathlib.Data.List.Forall2
import TableIntake.Command.Describe
import TableIntake.Command.Load
import TableIntake.Proofs.Command.Drawing
import TableIntake.Proofs.Reader.Ending
import TableIntake.Proofs.Text.Trimming
import TableIntake.Proofs.Upload.Registration

/-! # What commands show

A load shows all its tables or none, since the store still has each table when the last of them is
there. A description shows what comes before the first upload that cannot be read.
-/

namespace TableIntake

/-! ## Uploads that all succeed -/

namespace Loader

/-- Every upload succeeds, with its table and what the store then has under the name of that. -/
inductive Loads : Loader → List Arrival → List (UploadedTable × StoredTable) → Loader → Prop
  | nil (loader : Loader) : Loads loader [] [] loader
  | cons {loader next last : Loader} {arrival : Arrival} {arrivals : List Arrival}
      {table : UploadedTable} {stored : StoredTable}
      {entries : List (UploadedTable × StoredTable)} :
      loader.uploadOne arrival = (.ok table, next) →
      next.store.table? table.dbName = some stored →
      Loads { next with catalogue := next.catalogue.register table } arrivals entries last →
      Loads loader (arrival :: arrivals) ((table, stored) :: entries) last

variable {loader after last : Loader} {arrival : Arrival} {arrivals : List Arrival}
  {table : UploadedTable} {stored : StoredTable}
  {entries : List (UploadedTable × StoredTable)}

theorem Stores.there (stores : loader.Stores table after) :
    ∃ stored, after.store.table? table.dbName = some stored ∧ stored.Holds table := by
  rcases stores.batch with ⟨stored, holds, inserted⟩
  refine ⟨stored, ?_, holds⟩
  rw [inserted, Store.table?_insert stores.absent, if_pos rfl]

theorem Stores.keeps (stores : loader.Stores table after) {name : String}
    (there : loader.store.table? name = some stored) :
    after.store.table? name = some stored := by
  rcases stores.batch with ⟨_, _, inserted⟩
  have different : name ≠ table.dbName := by
    rintro rfl
    rw [stores.absent] at there
    cases there
  rw [inserted, Store.table?_insert stores.absent, if_neg different, there]

theorem loads_of_upload (uploads : loader.upload arrivals = (none, last)) :
    ∃ entries, loader.Loads arrivals entries last := by
  induction arrivals generalizing loader with
  | nil =>
      cases uploads
      exact ⟨[], .nil last⟩
  | cons arrival rest induction =>
      simp only [upload] at uploads
      split at uploads
      · cases uploads
      next succeeds =>
        rcases (uploadOne_ok succeeds).there with ⟨stored, there, _⟩
        rcases induction uploads with ⟨entries, loads⟩
        exact ⟨_, .cons succeeds there loads⟩

namespace Loads

theorem labels (loads : loader.Loads arrivals entries last) :
    entries.map (·.1.label) = arrivals.map (·.upload.label) := by
  induction loads with
  | nil => rfl
  | cons uploads _ _ induction =>
      rw [List.map_cons, List.map_cons, induction, (uploadOne_ok_named uploads).1]

theorem holds (loads : loader.Loads arrivals entries last) :
    ∀ entry ∈ entries, entry.2.Holds entry.1 := by
  induction loads with
  | nil => exact nofun
  | cons uploads there _ induction =>
      rcases (uploadOne_ok uploads).there with ⟨stored, here, holds⟩
      obtain rfl := Option.some.inj (there.symm.trans here)
      exact List.forall_mem_cons.mpr ⟨holds, induction⟩

theorem catalogue (loads : loader.Loads arrivals entries last) :
    last.catalogue =
      { loader.catalogue with tables := loader.catalogue.tables ++ entries.map Prod.fst } := by
  induction loads with
  | nil => simp
  | cons uploads _ _ induction =>
      rw [induction]
      simp [Catalogue.register, (uploadOne_ok uploads).catalogue]

theorem keeps (loads : loader.Loads arrivals entries last) {name : String}
    (there : loader.store.table? name = some stored) :
    last.store.table? name = some stored := by
  induction loads with
  | nil => exact there
  | cons uploads _ _ induction => exact induction ((uploadOne_ok uploads).keeps there)

theorem lasts (loads : loader.Loads arrivals entries last) :
    ∀ entry ∈ entries, last.store.table? entry.1.dbName = some entry.2 := by
  induction loads with
  | nil => exact nofun
  | cons _ there rest induction =>
      exact List.forall_mem_cons.mpr ⟨rest.keeps there, induction⟩

end Loads

end Loader

/-! ## Loading -/

namespace Load

variable {files : Files} {settings : Settings} {arrivals : List Arrival}

/-- The output tells the label of an upload, the name and the number of rows of its table, and shows
what is stored of it. -/
structure Tells (entry : UploadedTable × StoredTable) (output : String) : Prop where
  text : output = entry.1.label ++ " -> TAP_UPLOAD." ++ entry.1.dbName ++ " (" ++
    toString entry.1.rows ++ " rows)\n" ++ entry.2.drawing ++ "\n"
  drawn : entry.2.DrawnIn entry.2.drawing

def shown (entry : UploadedTable × StoredTable) : String :=
  text .standard entry.1 entry.2

theorem tells_shown (entry : UploadedTable × StoredTable) : Tells entry (shown entry) := by
  have schema : " -> TAP_UPLOAD." = " -> " ++ ("TAP_UPLOAD" ++ ".") := by decide
  refine ⟨?_, entry.2.drawnIn_drawing⟩
  rw [shown, Load.text, Catalogue.standard, Catalogue.requiredName, schema]
  simp only [String.append_assoc]

theorem text_eq_shown {catalogue : Catalogue} (name : catalogue.name = Catalogue.requiredName)
    (entry : UploadedTable × StoredTable) : text catalogue entry.1 entry.2 = shown entry := by
  rw [shown, text, text, name]
  rfl

theorem texts_eq_shown {catalogue : Catalogue} (name : catalogue.name = Catalogue.requiredName)
    {store : Store} {entries : List (UploadedTable × StoredTable)}
    (there : ∀ entry ∈ entries, store.table? entry.1.dbName = some entry.2) :
    texts catalogue store (entries.map Prod.fst) = (entries.map shown, none) := by
  induction entries with
  | nil => rfl
  | cons entry rest induction =>
      rw [List.forall_mem_cons] at there
      simp only [List.map_cons, texts, there.1, induction there.2, text_eq_shown name]

/-- Why nothing is shown: a limit is missing, or no uploads are allowed, or one of them fails. -/
inductive Refused (files : Files) (settings : Settings) (arrivals : List Arrival) : Trouble → Prop
  | limit :
      settings.limit.unit ≠ .none → settings.limit.limit = none →
      Refused files settings arrivals
        (.other ("--limit is required with --limit-unit " ++ settings.limit.unit.name) [])
  | disabled :
      (settings.limit.unit = .none ∨ settings.limit.limit ≠ none) → settings.enabled = false →
      Refused files settings arrivals (.upload .disabled)
  | upload {done rest : List Arrival} {failing : Arrival} {middle after : Loader}
      {fault : UploadFault} :
      (settings.limit.unit = .none ∨ settings.limit.limit ≠ none) → settings.enabled = true →
      arrivals = done ++ failing :: rest →
      Loader.upload done { settings := settings, files := files } = (none, middle) →
      middle.uploadOne failing = (.error fault, after) →
      Refused files settings arrivals (.upload fault)

theorem Refused.ne_tableMissing {trouble : Trouble}
    (refused : Refused files settings arrivals trouble) (name : String) :
    trouble ≠ .other ("Table " ++ name ++ " missing from the destination") [] := by
  cases refused with
  | disabled | upload => exact nofun
  | limit =>
      intro same
      have first := congrArg (fun message => message.toList.head?) (Trouble.other.inj same).1
      simp at first

theorem create_standard (settings : Settings) :
    Loader.create settings .standard =
      if settings.enabled then .ok { settings := settings } else .error .disabled := by
  have named : Text.sameLetters Catalogue.standard.name Catalogue.requiredName = true := by decide
  unfold Loader.create
  cases settings.enabled <;> simp [named]

theorem run_cases (files : Files) (settings : Settings) (overrides : LimitOverrides)
    (arrivals : List Arrival) :
    let outcome := run files settings overrides arrivals
    let settings := overrides.apply settings
    (outcome.trouble = none ∧ ∃ entries last,
        Loader.Loads { settings := settings, files := files } arrivals entries last ∧
          outcome.outputs = entries.map shown) ∨
      outcome.outputs = [] ∧ ∃ trouble, outcome.trouble = some trouble ∧
        Refused files settings arrivals trouble := by
  intro outcome effective
  by_cases missing : effective.limit.unit ≠ .none ∧ effective.limit.limit = none
  · have same : outcome = ⟨[], some (limitMissing effective.limit.unit), []⟩ := if_pos missing
    rw [same]
    exact .inr ⟨rfl, _, rfl, .limit missing.1 missing.2⟩
  · have limited : effective.limit.unit = .none ∨ effective.limit.limit ≠ none := by
      by_cases unit : effective.limit.unit = .none
      · exact .inl unit
      · exact .inr fun limit => missing ⟨unit, limit⟩
    have goesOn : outcome = _ := if_neg missing
    rw [goesOn, create_standard]
    cases enabled : effective.enabled with
    | false => exact .inr ⟨rfl, _, rfl, .disabled limited enabled⟩
    | true =>
        simp only [if_true]
        rcases uploads : Loader.upload arrivals { settings := effective, files := files } with
          ⟨_ | fault, last⟩
        · rcases Loader.loads_of_upload uploads with ⟨entries, loads⟩
          have tables : last.catalogue.tables = entries.map Prod.fst := by rw [loads.catalogue]; rfl
          have name : last.catalogue.name = Catalogue.requiredName := by rw [loads.catalogue]; rfl
          have shows := texts_eq_shown name loads.lasts
          rw [← tables] at shows
          simp only [shows]
          exact .inl ⟨trivial, entries, last, loads, rfl⟩
        · rcases Loader.upload_error uploads with
            ⟨done, failing, rest, middle, split, before, fails⟩
          exact .inr ⟨rfl, _, rfl, .upload limited enabled split before fails⟩

end Load

/-! ## Describing -/

namespace Describe

variable {files : Files} {settings : Settings} {arrival : Arrival}

inductive Gives (files : Files) (settings : Settings) (arrival : Arrival) : Metadata → Prop
  | read {source : Source} {parser : TableParser} {columns : Metadata} :
      arrival.upload.source files = .ok source →
      Registry.standard.get settings.format = .ok parser →
      (StreamReader.scheduled (parser.steps source) settings.isImpatient
        arrival.schedule).metadata.1 = .ok columns →
      Gives files settings arrival columns

inductive Fails (files : Files) (settings : Settings) (arrival : Arrival) : Trouble → Prop
  | unopened {message : String} :
      arrival.upload.source files = .error message →
      Fails files settings arrival
        (.other ("Failed to open upload " ++ arrival.upload.label) [message])
  | unstarted {source : Source} {fault : ReadFault} :
      arrival.upload.source files = .ok source →
      Registry.standard.get settings.format = .error fault →
      Fails files settings arrival
        (.other ("Failed to start reading upload " ++ arrival.upload.label) fault.messages)
  | unread {source : Source} {parser : TableParser} {fault : ReadFault} :
      arrival.upload.source files = .ok source →
      Registry.standard.get settings.format = .ok parser →
      (StreamReader.scheduled (parser.steps source) settings.isImpatient
        arrival.schedule).metadata.1 = .error fault →
      Fails files settings arrival
        (.other ("Failed to read the columns of upload " ++ arrival.upload.label) fault.messages)

/-- The line shows the name of the column and, behind blanks, its type. Its annotations may follow.
-/
def Lists (column : Column) (line : String) : Prop :=
  ∃ blanks notes, (∀ c ∈ blanks, c = ' ') ∧
    line.toList = "  ".toList ++ column.name.toList ++ blanks ++ "  ".toList ++
      column.type.text.toList ++ notes ++ ['\n']

/-- The output tells the label of an upload and its number of columns, and shows these line by
line. -/
def Tells (label : String) (columns : Metadata) (output : String) : Prop :=
  ∃ lines, List.Forall₂ Lists columns lines ∧
    output = label ++ " (" ++ toString columns.length ++ " columns)\n" ++ String.join lines

theorem exists_text_snoc (type : StoredType) :
    ∃ letters last, type.text.toList = letters ++ [last] ∧ Text.isBlank last = false := by
  rcases type with ⟨kind, _ | length⟩
  · cases kind <;> exact ⟨_, _, (List.dropLast_append_getLast (by decide)).symm, by decide⟩
  · exact ⟨_, ')', String.toList_append, rfl⟩

theorem lists_columnLine (width : Nat) (column : Column) :
    Lists column (columnLine width column) := by
  let blanks := List.replicate (width - column.name.length) ' '
  let notes := column.unit.elim "" (fun unit => "  [" ++ unit ++ "]") ++
    column.ucd.elim "" (fun ucd => "  " ++ ucd) ++
    column.description.elim "" fun description => "  " ++ description
  refine ⟨blanks, Text.trimRight notes.toList, fun c => List.eq_of_mem_replicate, ?_⟩
  let front := "  ".toList ++ column.name.toList ++ blanks ++ "  ".toList ++
    column.type.text.toList
  have solid : ∀ c ∈ front.getLast?, Text.isBlank c = false := by
    rcases exists_text_snoc column.type with ⟨letters, last, split, solid⟩
    simp only [front, split, ← List.append_assoc, List.getLast?_concat]
    rintro _ ⟨⟩
    exact solid
  -- The type ends with a letter that stays, so that only the annotations are trimmed.
  calc (columnLine width column).toList
      = Text.trimRight (front ++ notes.toList) ++ ['\n'] := by
        simp [columnLine, front, blanks, notes, String.append_assoc]
    _ = front ++ Text.trimRight notes.toList ++ ['\n'] := by
        rw [Text.trimRight_append_right solid]

theorem tells_text (label : String) (columns : Metadata) :
    Tells label columns (text label columns) := by
  refine ⟨_, ?_, rfl⟩
  rw [List.forall₂_map_right_iff, List.forall₂_same]
  exact fun column _ => lists_columnLine _ column

/-- The uploads all give their columns, and each output tells those of one of them. -/
inductive Shows (files : Files) (settings : Settings) : List Arrival → List String → Prop
  | nil : Shows files settings [] []
  | cons {arrival : Arrival} {arrivals : List Arrival} {columns : Metadata} {output : String}
      {outputs : List String} :
      Gives files settings arrival columns →
      Tells arrival.upload.label columns output →
      Shows files settings arrivals outputs →
      Shows files settings (arrival :: arrivals) (output :: outputs)

theorem Gives.not_fails {columns : Metadata} (gives : Gives files settings arrival columns)
    (trouble : Trouble) : ¬Fails files settings arrival trouble := by
  rcases gives with ⟨opens, starts, reads⟩
  intro fails
  cases fails with
  | unopened refused =>
      rw [opens] at refused
      cases refused
  | unstarted _ refused =>
      rw [starts] at refused
      cases refused
  | unread opens' starts' refused =>
      cases opens.symm.trans opens'
      cases starts.symm.trans starts'
      rw [reads] at refused
      cases refused

theorem Shows.not_fails {arrivals : List Arrival} {outputs : List String}
    (shows : Shows files settings arrivals outputs) :
    ∀ arrival ∈ arrivals, ∀ trouble, ¬Fails files settings arrival trouble := by
  induction shows with
  | nil => exact nofun
  | cons gives _ _ induction => exact List.forall_mem_cons.mpr ⟨gives.not_fails, induction⟩

theorem readColumns_cases (files : Files) (settings : Settings) (arrival : Arrival) :
    (∃ columns, (readColumns files settings arrival).1 = .ok columns ∧
        Gives files settings arrival columns) ∨
      ∃ trouble, (readColumns files settings arrival).1 = .error trouble ∧
        Fails files settings arrival trouble := by
  unfold readColumns
  cases opens : arrival.upload.source files with
  | error message => exact .inr ⟨_, rfl, .unopened opens⟩
  | ok source =>
      cases starts : Registry.standard.get settings.format with
      | error fault => exact .inr ⟨_, rfl, .unstarted opens starts⟩
      | ok parser =>
          rcases told : (StreamReader.scheduled (parser.steps source) settings.isImpatient
            arrival.schedule).metadata with ⟨answer, last⟩
          have reads := congrArg Prod.fst told
          unfold StreamReader.scheduled at told
          simp only [told]
          cases answer with
          | error fault => exact .inr ⟨_, rfl, .unread opens starts reads⟩
          | ok columns => exact .inl ⟨columns, rfl, .read opens starts reads⟩

theorem run_cases (files : Files) (settings : Settings) (arrivals : List Arrival) :
    let outcome := run files settings arrivals
    ∃ before rest, arrivals = before ++ rest ∧ Shows files settings before outcome.outputs ∧
      match rest with
      | [] => outcome.trouble = none
      | failing :: _ => ∃ trouble, outcome.trouble = some trouble ∧
          Fails files settings failing trouble := by
  induction arrivals with
  | nil => exact ⟨[], [], rfl, .nil, rfl⟩
  | cons arrival arrivals induction =>
      simp only [run]
      rcases told : readColumns files settings arrival with ⟨result, notices⟩
      rcases readColumns_cases files settings arrival with
        ⟨columns, same, gives⟩ | ⟨trouble, same, fails⟩
      · obtain rfl : result = .ok columns := by rw [← same, told]
        rcases induction with ⟨before, rest, split, shows, ends⟩
        exact ⟨arrival :: before, rest, congrArg (arrival :: ·) split,
          .cons gives (tells_text _ columns) shows, ends⟩
      · obtain rfl : result = .error trouble := by rw [← same, told]
        exact ⟨[], arrival :: arrivals, rfl, .nil, trouble, rfl, fails⟩

theorem run_trouble_eq_none_iff (files : Files) (settings : Settings) (arrivals : List Arrival) :
    (run files settings arrivals).trouble = none ↔
      ∀ arrival ∈ arrivals, ∀ trouble, ¬Fails files settings arrival trouble := by
  rcases run_cases files settings arrivals with ⟨before, rest, split, shows, ends⟩
  cases rest with
  | nil =>
      rw [List.append_nil] at split
      subst split
      exact iff_of_true ends shows.not_fails
  | cons failing rest =>
      rcases ends with ⟨trouble, stopped, fails⟩
      constructor
      · intro fine
        rw [stopped] at fine
        cases fine
      · intro fine
        exact absurd fails (fine failing (by simp [split]) trouble)

end Describe

/-! ## Both commands -/

/-- A load shows every upload, with its label, its rows and the batch that is stored of it, or it
shows none, and then a limit is missing, or no uploads are allowed, or the first one that failed
says why. It never lacks a table. A description shows the uploads before the first one that cannot
be read. -/
theorem Program.shows_all_or_up_to_failure :
    (∀ (files : Files) (settings : Settings) (overrides : LimitOverrides) (arrivals : List Arrival),
      let outcome := Load.run files settings overrides arrivals
      let settings := overrides.apply settings
      ((outcome.trouble = none ∧ ∃ entries last,
            Loader.Loads { settings := settings, files := files } arrivals entries last ∧
              List.Forall₂ Load.Tells entries outcome.outputs ∧
              entries.map (·.1.label) = arrivals.map (·.upload.label) ∧
              ∀ entry ∈ entries, entry.2.Holds entry.1 ∧
                last.store.table? entry.1.dbName = some entry.2) ∨
          outcome.outputs = [] ∧ ∃ trouble, outcome.trouble = some trouble ∧
            Load.Refused files settings arrivals trouble) ∧
        ∀ name, outcome.trouble ≠
          some (.other ("Table " ++ name ++ " missing from the destination") [])) ∧
      ∀ (files : Files) (settings : Settings) (arrivals : List Arrival),
        let outcome := Describe.run files settings arrivals
        (∃ before rest, arrivals = before ++ rest ∧
            Describe.Shows files settings before outcome.outputs ∧
            match rest with
            | [] => outcome.trouble = none
            | failing :: _ => ∃ trouble, outcome.trouble = some trouble ∧
                Describe.Fails files settings failing trouble) ∧
          (outcome.trouble = none ↔
            ∀ arrival ∈ arrivals, ∀ trouble, ¬Describe.Fails files settings arrival trouble) := by
  constructor
  · intro files settings overrides arrivals outcome effective
    rcases Load.run_cases files settings overrides arrivals with
      ⟨fine, entries, last, loads, outputs⟩ | ⟨nothing, trouble, stopped, refused⟩
    · have tell : List.Forall₂ Load.Tells entries outcome.outputs := by
        rw [outputs, List.forall₂_map_right_iff, List.forall₂_same]
        exact fun entry _ => Load.tells_shown entry
      refine ⟨.inl ⟨fine, entries, last, loads, tell, loads.labels, ?_⟩, ?_⟩
      · exact fun entry member => ⟨loads.holds entry member, loads.lasts entry member⟩
      · intro name lacks
        rw [fine] at lacks
        cases lacks
    · refine ⟨.inr ⟨nothing, trouble, stopped, refused⟩, ?_⟩
      intro name lacks
      exact refused.ne_tableMissing name (Option.some.inj (stopped.symm.trans lacks))
  · intro files settings arrivals
    exact ⟨Describe.run_cases files settings arrivals,
      Describe.run_trouble_eq_none_iff files settings arrivals⟩

/-- The second of two uploads cannot be opened. The first one is described, and none is loaded. -/
example :
    let document : Document := { fields := [{ name := "id", type := .int32 }], batches := [] }
    let arrivals : List Arrival :=
      [{ upload := { label := "stars", origin := .given (.document document) } },
        { upload := { label := "dust", origin := .file "" } }]
    (Describe.run [] {} arrivals).outputs = ["stars (1 columns)\n  id  INTEGER\n"] ∧
      (Load.run [] {} {} arrivals).outputs = [] := by
  decide

end TableIntake
