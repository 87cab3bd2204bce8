import TableIntake.Proofs.Document.Transposition
import TableIntake.Proofs.Stream.Course

/-! # Calls for documents

What the parser of a document calls while nobody cancels, and how it leaves: its header, its rows
one by one, and their end, if nothing is against the document. Whoever takes the rows has no say in
it, and neither has the way in which the document is cut into batches.
-/

namespace TableIntake

open Handoff

def Session.Call.tells : Session.Call → Bool
  | .acceptMetadata _ | .acceptRow _ | .endRows => true
  | _ => false

/-- In some course that nobody cancels, a parser with these steps makes these calls and then leaves
like this. -/
def Makes (steps : List ParserStep) (calls : List Session.Call) (parting : Parting) : Prop :=
  ∃ made events last met next after,
    Course (.running steps) {} made events last met ∧
      (∀ event ∈ events, event.cancels = false) ∧ last.Departs met next after ∧
      made.filter Session.Call.tells = calls ∧ last.parting = parting

def Breakdown.parting : Breakdown → Parting
  | .fault cause => .fault cause
  | .crash => .panicked

namespace Document

/-- What is left to call behind the rows, and how the parser then leaves. -/
def farewell (document : Document) : Option Breakdown → List Session.Call × Parting
  | some breakdown => ([], breakdown.parting)
  | none => if document.isCut then ([], .fault shortRead) else ([.endRows], .returned)

/-- What the parser of a document calls, and how it leaves. -/
inductive Calls (document : Document) : List Session.Call → Parting → Prop
  | hidden {fault : ParseFault} :
      document.hidden? = some fault →
      Calls document [] (.fault fault)
  | shown {intact : List Batch} {breakdown : Option Breakdown} {rows : List Row} :
      document.hidden? = none →
      Intact document.fields document.readable intact breakdown →
      Transposes document.fields intact rows →
      Calls document
        (.acceptMetadata document.header :: rows.map .acceptRow ++ (document.farewell breakdown).1)
        (document.farewell breakdown).2

variable {document other : Document} {calls more : List Session.Call} {parting another : Parting}

theorem Calls.unique (wellFormed : document.WellFormed) (first : document.Calls calls parting)
    (second : document.Calls more another) : calls = more ∧ parting = another := by
  cases first with
  | hidden hides =>
      cases second with
      | hidden hides' =>
          cases hides.symm.trans hides'
          exact ⟨rfl, rfl⟩
      | shown shows => cases hides.symm.trans shows
  | shown shows before transposes =>
      cases second with
      | hidden hides => cases hides.symm.trans shows
      | shown _ before' transposes' =>
          rcases before.unique wellFormed.readable before' with ⟨rfl, rfl⟩
          cases transposes.unique wellFormed.fields transposes'
          exact ⟨rfl, rfl⟩

theorem Calls.of_rows (wellFormed : document.WellFormed) (hides : document.hidden? = none)
    {rows : List Row} {breakdown : Option Breakdown}
    (read : rowsOfBatches document.fields document.readable = (rows, breakdown)) :
    document.Calls
      (.acceptMetadata document.header :: rows.map .acceptRow ++ (document.farewell breakdown).1)
      (document.farewell breakdown).2 := by
  rcases Intact.rowsOfBatches wellFormed.fields wellFormed.readable with ⟨_, before, transposes⟩
  rw [read] at before transposes
  exact .shown hides before transposes

theorem Calls.width (called : document.Calls calls parting) {row : Row}
    (member : .acceptRow row ∈ calls) : row.length = document.fields.length := by
  cases called with
  | hidden => cases member
  | @shown _ breakdown rows _ _ transposes =>
      rcases List.mem_append.mp member with told | last
      · rcases List.mem_cons.mp told with first | mapped
        · cases first
        · rcases List.mem_map.mp mapped with ⟨_, there, same⟩
          cases same
          exact transposes.width row there
      · unfold farewell at last
        split at last
        · cases last
        · split at last <;> simp at last

theorem Calls.of_columns (wellFormed : document.WellFormed)
    (fields : other.fields = document.fields) (hides : other.hidden? = document.hidden?)
    {left right : List Batch} {breakdown breakdown' : Option Breakdown}
    (before : Intact document.fields document.readable left breakdown)
    (before' : Intact other.fields other.readable right breakdown')
    (columns : ∀ index, columnOf left index = columnOf right index)
    (ends : other.farewell breakdown' = document.farewell breakdown)
    (called : document.Calls calls parting) : other.Calls calls parting := by
  cases called with
  | hidden hidden => exact .hidden (hides.trans hidden)
  | shown shows intact transposes =>
      rcases before.unique wellFormed.readable intact with ⟨rfl, rfl⟩
      have header : other.header = document.header := by rw [header, fields, Document.header]
      have moved := transposes.of_columns columns
      rw [← fields] at moved
      rw [← header, ← ends]
      exact .shown (hides.trans shows) before' moved

end Document

/-! ## Undisturbed parsers -/

structure Handoff.Open (handoff : Handoff) : Prop where
  streaming : handoff.phase = .streaming
  resolved : handoff.metadata ≠ .pending
  free : handoff.slot = none

namespace Producer

variable {rest : List ParserStep} {handoff : Handoff}

theorem advances_metadata (header : Header) (rest : List ParserStep) :
    Advances (.running (.metadata header :: rest)) {} [.acceptMetadata header] (.running rest)
      { metadata := .ofHeader header } := by
  have steps : step? (.running (.metadata header :: rest)) {} =
      some (.running rest, { metadata := .ofHeader header }) := by
    simp only [step?, acceptMetadata_fresh, resume]
  exact .single steps

theorem advances_row (opened : handoff.Open) {row : Row} (cells : row ≠ [])
    (rest : List ParserStep) :
    Advances (.running (.row row :: rest)) handoff [.acceptRow row] (.running rest) handoff := by
  have steps : step? (.running (.row row :: rest)) handoff =
      some (.running rest, { handoff with slot := some row }) := by
    simp [step?, acceptRow?, opened.streaming, opened.free, isPending, opened.resolved, cells,
      resume]
  have taken : ({ handoff with slot := some row } : Handoff).emptied = handoff :=
    emptied_of_free opened.free
  have single := Advances.single steps
  rwa [taken] at single

theorem advances_rows (opened : handoff.Open) {rows : List Row} (cells : ∀ row ∈ rows, row ≠ [])
    (rest : List ParserStep) :
    Advances (.running (rows.map .row ++ rest)) handoff (rows.map .acceptRow) (.running rest)
      handoff := by
  induction rows with
  | nil => exact .nil _ _
  | cons row rows induction =>
      have first := advances_row opened (cells row (.head rows)) (rows.map .row ++ rest)
      exact first.trans (induction fun other member => cells other (.tail row member))

theorem advances_checkpoint (opened : handoff.Open) (rest : List ParserStep) :
    Advances (.running (.checkpoint :: rest)) handoff [.isCancelled] (.running rest) handoff := by
  have steps : step? (.running (.checkpoint :: rest)) handoff = some (.running rest, handoff) := by
    simp [step?, isCancelled, opened.streaming]
  have single := Advances.single steps
  rwa [emptied_of_free opened.free] at single

end Producer

namespace Document

variable {document other : Document} {batches : List Batch} {handoff : Handoff}

/-- What the parser of a document still calls at an undisturbed handoff, and how it leaves. -/
def Finishes (steps : List ParserStep) (handoff : Handoff) (calls : List Session.Call)
    (parting : Parting) : Prop :=
  ∃ made last met next after, (Producer.running steps).Advances handoff made last met ∧
    last.Departs met next after ∧ made.filter Session.Call.tells = calls ∧ last.parting = parting

theorem Finishes.after {steps rest : List ParserStep} {before met : Handoff}
    {made calls : List Session.Call} {parting : Parting}
    (advances : (Producer.running steps).Advances before made (.running rest) met)
    (finishes : Finishes rest met calls parting) :
    Finishes steps before (made.filter Session.Call.tells ++ calls) parting := by
  rcases finishes with ⟨more, last, final, next, after, later, departs, rfl, rfl⟩
  exact ⟨made ++ more, last, final, next, after, advances.trans later, departs,
    List.filter_append .., rfl⟩

theorem finishes_nil (handoff : Handoff) : Finishes [] handoff [] .returned :=
  ⟨[], _, handoff, _, _, .nil _ _, ⟨rfl, rfl, rfl⟩, rfl, rfl⟩

theorem finishes_fail (fault : ParseFault) (rest : List ParserStep) (handoff : Handoff) :
    Finishes (.fail fault :: rest) handoff [] (.fault fault) :=
  ⟨[], _, handoff, _, _, .nil _ _, ⟨rfl, rfl, rfl⟩, rfl, rfl⟩

theorem finishes_breakdown (breakdown : Breakdown) (handoff : Handoff) :
    Finishes [breakdown.step] handoff [] breakdown.parting := by
  cases breakdown with
  | fault cause => exact finishes_fail cause [] handoff
  | crash => exact ⟨[], _, handoff, _, _, .nil _ _, ⟨rfl, rfl, rfl⟩, rfl, rfl⟩

theorem finishes_ending (opened : handoff.Open) :
    Finishes document.ending handoff (document.farewell none).1 (document.farewell none).2 := by
  unfold ending farewell
  cases document.isCut with
  | true =>
      have first := Producer.advances_checkpoint opened [.fail shortRead]
      exact .after first (finishes_fail shortRead [] handoff)
  | false =>
      have ends : (Producer.running [.endRows]).Advances handoff [.endRows] (.running [])
          handoff.endRows.emptied := .single rfl
      exact .after ends (finishes_nil _)

theorem filter_acceptRow (rows : List Row) :
    (rows.map Session.Call.acceptRow).filter Session.Call.tells = rows.map .acceptRow := by
  apply List.filter_eq_self.mpr
  intro call member
  rcases List.mem_map.mp member with ⟨row, _, rfl⟩
  rfl

theorem finishes_batches (opened : handoff.Open) (nonempty : document.fields ≠ [])
    (regular : ∀ batch ∈ batches, batch.columns.length = document.fields.length) :
    Finishes (document.stepsOfBatches batches) handoff
      ((rowsOfBatches document.fields batches).1.map .acceptRow ++
        (document.farewell (rowsOfBatches document.fields batches).2).1)
      (document.farewell (rowsOfBatches document.fields batches).2).2 := by
  induction batches with
  | nil => exact finishes_ending opened
  | cons batch rest induction =>
      unfold stepsOfBatches rowsOfBatches
      cases reads : batch.rowsOf document.fields with
      | error breakdown =>
          have first := Producer.advances_checkpoint opened [breakdown.step]
          exact .after first (finishes_breakdown breakdown handoff)
      | ok rows =>
          have later := induction fun other member => regular other (.tail batch member)
          have cells : ∀ row ∈ rows, row ≠ [] := fun row member =>
            ne_nil_of_mem_batch nonempty (regular batch (.head rest)) reads member
          have told := later.after (Producer.advances_rows opened cells _)
          rw [filter_acceptRow, ← List.append_assoc, ← List.map_append] at told
          exact told.after (Producer.advances_checkpoint opened _)

theorem finishes (wellFormed : document.WellFormed) :
    ∃ calls parting, document.Calls calls parting ∧
      Finishes document.steps {} calls parting := by
  cases hides : document.hidden? with
  | some fault =>
      refine ⟨[], .fault fault, .hidden hides, ?_⟩
      rw [(steps_of_hidden hides).1]
      exact finishes_fail fault [] {}
  | none =>
      refine ⟨_, _, .of_rows wellFormed hides rfl, ?_⟩
      have opened : Handoff.Open { metadata := .ofHeader document.header } :=
        ⟨rfl, MetadataSlot.ofHeader_ne_pending document.header, rfl⟩
      have later := finishes_batches opened wellFormed.fields
        fun batch member => (wellFormed.readable batch member).width
      rw [steps_of_shown hides]
      exact later.after (Producer.advances_metadata document.header _)

theorem makes_of_finishes {calls : List Session.Call} {parting : Parting}
    (finishes : Finishes document.steps {} calls parting) :
    Makes document.steps calls parting := by
  rcases finishes with ⟨made, last, met, next, after, advances, departs, told, left⟩
  rcases Course.ofAdvances advances rfl (by simp) with ⟨events, uncancelled, course⟩
  exact ⟨made, events, last, met, next, after, course, uncancelled, departs, told, left⟩

theorem Finishes.unique_of_makes {steps : List ParserStep} {calls more : List Session.Call}
    {parting another : Parting} (finishes : Finishes steps {} calls parting)
    (makes : Makes steps more another) : calls = more ∧ parting = another := by
  rcases finishes with ⟨made, last, met, next, after, advances, departs, rfl, rfl⟩
  rcases makes with ⟨_, events, _, _, _, _, course, uncancelled, departs', rfl, rfl⟩
  rcases departs'.emptied with ⟨later, departs'⟩
  rcases advances.departs_unique departs (course.advances uncancelled) departs' with
    ⟨rfl, rfl, _⟩
  exact ⟨rfl, rfl⟩

theorem makes_iff (wellFormed : document.WellFormed) (calls : List Session.Call)
    (parting : Parting) : Makes document.steps calls parting ↔ document.Calls calls parting := by
  rcases finishes wellFormed with ⟨told, left, called, finishes⟩
  constructor
  · intro makes
    rcases finishes.unique_of_makes makes with ⟨rfl, rfl⟩
    exact called
  · intro calls
    rcases called.unique wellFormed calls with ⟨rfl, rfl⟩
    exact makes_of_finishes finishes

/-- The parser calls and leaves in one way only: with the header first, then each row, and the end
at last if nothing is against the document. A row is never taken for the end. Two documents that
have the same columns and end alike are told alike, however they are cut into batches. -/
theorem makes_iff_calls (wellFormed : document.WellFormed) :
    (∃ calls parting, Makes document.steps calls parting) ∧
      (∀ calls parting, Makes document.steps calls parting ↔ document.Calls calls parting) ∧
      (∀ calls parting row, Makes document.steps calls parting → .acceptRow row ∈ calls →
        row ≠ [] ∧ row.length = document.header.length) ∧
      ∀ (other : Document) left right breakdown breakdown', other.WellFormed →
        other.fields = document.fields → other.hidden? = document.hidden? →
        Intact document.fields document.readable left breakdown →
        Intact other.fields other.readable right breakdown' →
        (∀ index, columnOf left index = columnOf right index) →
        document.farewell breakdown = other.farewell breakdown' →
        ∀ calls parting, Makes document.steps calls parting ↔ Makes other.steps calls parting := by
  refine ⟨?_, makes_iff wellFormed, ?_, ?_⟩
  · rcases finishes wellFormed with ⟨calls, parting, _, finishes⟩
    exact ⟨calls, parting, makes_of_finishes finishes⟩
  · intro calls parting row makes member
    have width := ((makes_iff wellFormed calls parting).mp makes).width member
    have first : 0 < document.fields.length := List.length_pos_iff.mpr wellFormed.fields
    refine ⟨?_, ?_⟩
    · rintro rfl
      rw [← width] at first
      exact Nat.lt_irrefl 0 first
    · rw [width, header, List.length_map]
  · intro other left right breakdown breakdown' others fields hides before before' columns ends
      calls parting
    rw [makes_iff wellFormed, makes_iff others]
    constructor
    · exact Calls.of_columns wellFormed fields hides before before' columns ends.symm
    · exact Calls.of_columns others fields.symm hides.symm before' before
        (fun index => (columns index).symm) ends

theorem makes_iff_calls_of_three_batches :
    let fields : List Field := [{ name := "x", type := .int32 }]
    let document : Document := { fields, batches := [⟨[[.whole 1, .null]], 2⟩] }
    let other : Document := { fields, batches := [⟨[[.whole 1]], 1⟩, ⟨[[]], 0⟩, ⟨[[.null]], 1⟩] }
    let calls : List Session.Call :=
      [.acceptMetadata document.header, .acceptRow [.int 1], .acceptRow [.null], .endRows]
    document.WellFormed ∧ other.WellFormed ∧ Makes document.steps calls .returned ∧
      Makes other.steps calls .returned := by
  intro fields document other calls
  have nonempty : fields ≠ [] := List.cons_ne_nil _ _
  have holds : ∀ datum ∈ [.whole 1, .null], FieldType.int32.Holds datum :=
    List.forall_mem_cons.mpr
      ⟨.whole rfl (by decide) (by decide), List.forall_mem_singleton.mpr .null⟩
  have fits (data : List Datum) (known : data ⊆ [.whole 1, .null]) :
      Batch.Fits fields ⟨[data], data.length⟩ := by
    refine ⟨rfl, by simp, ?_⟩
    rintro entry member datum inside
    obtain rfl : entry = (⟨"x", .int32, []⟩, data) := List.mem_singleton.mp member
    exact holds datum (known inside)
  have first : document.WellFormed :=
    ⟨nonempty, List.forall_mem_singleton.mpr (fits [.whole 1, .null] (by simp))⟩
  have second : other.WellFormed := by
    refine ⟨nonempty, List.forall_mem_cons.mpr ⟨fits [.whole 1] (by simp), ?_⟩⟩
    refine List.forall_mem_cons.mpr ⟨fits [] (by simp), ?_⟩
    exact List.forall_mem_singleton.mpr (fits [.null] (by simp))
  have before : Intact fields document.readable document.readable none :=
    .of_rows nonempty first.readable rfl
  have before' : Intact fields other.readable other.readable none :=
    .of_rows nonempty second.readable rfl
  have columns (index : Nat) :
      columnOf document.readable index = columnOf other.readable index := by
    cases index <;> rfl
  rcases makes_iff_calls first with ⟨_, called, _, alike⟩
  have makes : Makes document.steps calls .returned :=
    (called calls .returned).mpr (.of_rows first rfl rfl)
  have same := alike other _ _ none none second rfl rfl before before' columns rfl calls .returned
  exact ⟨first, second, makes, same.mp makes⟩

/-- A row is not told if its batch has a zone that is not known, even if no value is there. -/
theorem not_told_of_unknown_zone :
    let document : Document :=
      { fields := [{ name := "x", type := .timestamp .millisecond (some ⟨"UTC"⟩) }]
        batches := [⟨[[.null]], 1⟩] }
    document.WellFormed ∧ document.isCut = false ∧
      ∀ calls parting, Makes document.steps calls parting ↔
        calls = [.acceptMetadata document.header] ∧
          parting = .fault (.arrow (.parser ("Invalid timezone \"UTC\": " ++
            "only offset based timezones supported without chrono-tz feature"))) := by
  intro document
  have wellFormed : document.WellFormed := by
    refine ⟨List.cons_ne_nil _ _, List.forall_mem_singleton.mpr ⟨rfl, by simp, ?_⟩⟩
    exact List.forall_mem_singleton.mpr (List.forall_mem_singleton.mpr .null)
  have read : rowsOfBatches document.fields document.readable =
      ([], some (FieldType.unknownOffset ⟨"UTC"⟩)) := by
    unfold document
    rfl
  have told := Calls.of_rows wellFormed rfl read
  refine ⟨wellFormed, rfl, fun calls parting => ?_⟩
  rw [makes_iff wellFormed]
  constructor
  · intro called
    exact called.unique wellFormed told
  · rintro ⟨rfl, rfl⟩
    exact told

end Document

end TableIntake
