import TableIntake.Proofs.Handoff.Delivery
import TableIntake.Proofs.Reader.Steps
import TableIntake.Proofs.Stream.Steps

/-! # The end of the rows

When a reader is told that the rows are at their end, it has had all of them, but for one
case: a cancellation that comes after the parser has ended the rows and before the last
of them is fetched.
-/

namespace TableIntake

open Handoff

namespace Handoff

theorem Run.spent {before after : Handoff} {events : List Event}
    (run : Run before events after) (spent : before.Spent) : after.Spent := by
  induction run with
  | nil => exact spent
  | @cons before _ _ _ _ move _ induction =>
      have stopped : before.phase ≠ .streaming := by simp [spent.ended]
      exact induction
        ⟨(move.change.phase_eq stopped).trans spent.ended,
          move.change.slot_eq_none stopped spent.free⟩

theorem Leads.spent {before after : Handoff} (leads : Leads before after)
    (spent : before.Spent) : after.Spent := by
  rcases leads with ⟨events, run⟩
  exact run.spent spent

end Handoff

namespace Stream

theorem spent_of_metadata_none {stream : Stream} (sound : stream.handoff.Sound)
    (unknown : stream.metadata.1 = .ok none)
    (uncancelled : stream.metadata.2.handoff.isCancelled = false) :
    stream.metadata.2.handoff.Spent := by
  -- A stream that is over without metadata has had no row.
  rcases await_cases (fun handoff => handoff.metadata?.map fun answer => (answer, handoff))
      expiredMetadata stream with ⟨met, reached, answered | ⟨waits, _, cut⟩⟩
  · have answered : met.metadata?.map (fun answer => (answer, met)) =
        some (stream.metadata.1, stream.metadata.2.handoff) := answered
    rcases Option.map_eq_some_iff.mp answered with ⟨answer, told, equal⟩
    rcases Prod.mk.inj equal with ⟨same, handoff⟩
    rw [same, unknown] at told
    rw [← handoff] at uncancelled ⊢
    unfold metadata? at told
    split at told <;> try simp at told
    next pending =>
      split at told <;> try simp at told
      next ended => exact ⟨ended, (reached.sound sound).slot_eq_none pending⟩
      next cancelled => simp [isCancelled, cancelled] at uncancelled
  · have cut : stream.metadata.2.handoff = met.cancel := cut
    have waits : met.metadata? = none := by simpa using waits
    have streaming := (metadata_eq_none_iff.mp waits).2
    simp [cut, isCancelled, cancel_phase, streaming] at uncancelled

theorem spent_of_fetch_ended {stream : Stream} (ended : stream.fetch.1 = .ok .ended) :
    stream.fetch.2.handoff.Spent := by
  rcases (Leads.stable stream.handoff).fetch_told (.refl _) ended nofun with ⟨met, _, fetches⟩
  rcases fetch_ended_iff.mp fetches with ⟨spent, same⟩
  rwa [same]

end Stream

namespace StreamReader

def scheduled (steps : List ParserStep) (impatient : Bool) (schedule : List Turn) :
    StreamReader :=
  { stream := { Stream.start steps impatient with schedule := schedule } }

/-- The handoff of a reader has a history. When the reader reports the end of the rows,
there are none left. -/
structure Truthful (reader : StreamReader) : Prop where
  reached : Leads {} reader.stream.handoff
  spent : reader.endReason = some .exhausted → reader.stream.handoff.Spent

namespace Truthful

theorem scheduled (steps : List ParserStep) (impatient : Bool) (schedule : List Turn) :
    (StreamReader.scheduled steps impatient schedule).Truthful where
  reached := .refl _
  spent := nofun

variable {reader : StreamReader}

theorem later (truthful : reader.Truthful) {after : StreamReader}
    (leads : Leads reader.stream.handoff after.stream.handoff)
    (same : after.endReason = some .exhausted → reader.endReason = some .exhausted) :
    after.Truthful where
  reached := truthful.reached.trans leads
  spent exhausted := leads.spent (truthful.spent (same exhausted))

theorem close (truthful : reader.Truthful) : reader.close.Truthful := by
  refine truthful.later (Stream.cancel_leads reader.stream) ?_
  intro exhausted
  cases reason : reader.endReason with
  | none => simp [StreamReader.close, reason] at exhausted
  | some known => simpa [StreamReader.close, reason] using exhausted

theorem metadata (truthful : reader.Truthful) : reader.metadata.2.Truthful := by
  have leads := Stream.metadata_leads reader.stream
  have learned := reader.metadata_learned
  generalize reader.metadata = result at learned ⊢
  cases learned with
  | known => exact truthful
  | refused | told => exact truthful.later leads id
  | bare unknown told reason =>
      refine ⟨truthful.reached.trans leads, fun exhausted => ?_⟩
      apply Stream.spent_of_metadata_none (truthful.reached.sound sound_fresh) told
      apply Bool.eq_false_iff.mpr
      intro cancelled
      rw [reason, if_pos cancelled] at exhausted
      cases exhausted

theorem fetchRow (truthful : reader.Truthful) : reader.fetchRow.2.Truthful := by
  have leads := Stream.fetch_leads reader.stream
  have moved : { reader with stream := reader.stream.fetch.2 }.Truthful := truthful.later leads id
  have fetches := reader.fetchRow_fetches
  generalize reader.fetchRow = result at fetches ⊢
  cases fetches with
  | row | failed => exact moved.later (.refl _) id
  | misfit => exact moved.close
  | ended told => exact ⟨moved.reached, fun _ => Stream.spent_of_fetch_ended told⟩
  | cancelled => exact ⟨moved.reached, nofun⟩

theorem nextRow (truthful : reader.Truthful) : reader.nextRow.2.Truthful := by
  have known := truthful.metadata
  have advanced := reader.nextRow_advanced
  generalize reader.nextRow = result at advanced ⊢
  cases advanced with
  | behind => exact truthful
  | further => exact truthful.fetchRow
  | refused => exact known
  | first =>
      have begun : { reader.metadata.2 with cursor := reader.metadata.2.cursor.start }.Truthful :=
        known.later (.refl _) id
      exact begun.fetchRow

theorem call (truthful : reader.Truthful) (call : ReaderCall) :
    (TableReader.call call reader).2.Truthful := by
  cases call with
  | metadata => exact truthful.metadata
  | nextRow => exact truthful.nextRow
  | close => exact truthful.close
  | nextColumn => exact truthful.later (.refl _) id
  | hasNextColumn | columnType | rowByteSize => exact truthful

theorem answers (truthful : reader.Truthful) (calls : List ReaderCall) :
    (TableReader.answers calls reader).2.Truthful :=
  TableReader.answers_keep (fun _ next truthful => truthful.call next) truthful calls

end Truthful

end StreamReader

namespace Handoff

theorem Balance.lost_iff {events : List Event} {handoff : Handoff} {lost : List Row}
    (balance : Balance events handoff lost) :
    deliveredRows events ++ handoff.slot.toList ≠ acceptedRows events ↔ lost ≠ [] := by
  rw [balance.rows]
  simp

/-- Once the rows have ended and none is left, one of them is missing exactly if somebody
cancelled in between. -/
theorem Spent.loss_iff {events : List Event} {handoff : Handoff} (spent : handoff.Spent)
    (run : Run {} events handoff) :
    deliveredRows events ≠ acceptedRows events ↔ CutAfterEnd events := by
  rcases run.balance with ⟨lost, balance⟩
  have missing := balance.lost_iff
  simp only [spent.free, Option.toList_none, List.append_nil] at missing
  rw [missing, ← balance.cut]
  simp [spent.ended]

theorem CutAfterEnd.spent {events : List Event} {handoff : Handoff}
    (cut : CutAfterEnd events) (run : Run {} events handoff) : handoff.Spent := by
  rcases run.balance with ⟨lost, balance⟩
  rcases balance.cut.mpr cut with ⟨loss, ended⟩
  exact ⟨ended, (balance.stopped loss).2⟩

/-- An accepted row is missing when the reader is told of the end exactly if somebody
cancelled after the end of the rows, while the last of them was still in the slot. A row
that is lost otherwise shows as a cancellation or as a fault of the parser. -/
theorem ended_with_loss_iff_cutAfterEnd {events : List Event} {handoff : Handoff}
    (run : Run {} events handoff) :
    (handoff.fetch? = some (.ok .ended, handoff) ∧
        deliveredRows events ≠ acceptedRows events ↔ CutAfterEnd events) ∧
      (deliveredRows events ++ handoff.slot.toList ≠ acceptedRows events →
        ¬CutAfterEnd events →
        handoff.fetch? = some (.ok .cancelled, handoff) ∨
          ∃ fault, handoff.fetch? = some (.error (.parse fault), handoff)) ∧
      ∀ steps impatient schedule calls,
        let reader :=
          (TableReader.answers calls (StreamReader.scheduled steps impatient schedule)).2
        reader.stream.handoff = handoff → reader.endReason = some .exhausted →
          (deliveredRows events ≠ acceptedRows events ↔ CutAfterEnd events) := by
  refine ⟨?_, ?_, ?_⟩
  · constructor
    · rintro ⟨fetches, missing⟩
      have spent := (fetch_ended_iff.mp fetches).1
      exact (spent.loss_iff run).mp missing
    · intro cut
      have spent := cut.spent run
      exact ⟨fetch_ended_iff.mpr ⟨spent, rfl⟩, (spent.loss_iff run).mpr cut⟩
  · intro missing uncut
    rcases run.balance with ⟨lost, balance⟩
    have loss := balance.lost_iff.mp missing
    rcases balance.stopped loss with ⟨stopped, free⟩
    cases phase : handoff.phase with
    | streaming => exact absurd phase stopped
    | ended => exact absurd (balance.cut.mp ⟨loss, phase⟩) uncut
    | cancelled => exact .inl (by simp [fetch?, phase])
    | failed fault => exact .inr ⟨fault, by simp [fetch?, phase, free]⟩
  · intro steps impatient schedule calls reader same exhausted
    have truthful :=
      (StreamReader.Truthful.scheduled steps impatient schedule).answers calls
    have spent := truthful.spent exhausted
    exact Spent.loss_iff (same ▸ spent) run

def cutHistory : List Event :=
  [.passed (.acceptMetadata [{ name := "id", datatype := some "int" }]) .done,
    .passed (.acceptRow [.int 1]) .done, .passed .endRows .done, .passed .cancel .done]

theorem cutHistory_run : ∃ handoff,
    Run {} cutHistory handoff ∧ handoff.fetch? = some (.ok .ended, handoff) :=
  ⟨_, .cons (.passed rfl) (.cons (.passed rfl) (.cons (.passed rfl) (.cons (.passed rfl)
    (.nil _)))), rfl⟩

theorem ended_with_loss_at_cut :
    ∃ handoff, Run {} cutHistory handoff ∧
      handoff.fetch? = some (.ok .ended, handoff) ∧
      deliveredRows cutHistory ≠ acceptedRows cutHistory ∧ CutAfterEnd cutHistory := by
  rcases cutHistory_run with ⟨handoff, run, ended⟩
  have missing : deliveredRows cutHistory ≠ acceptedRows cutHistory := by
    simp [cutHistory, deliveredRows, acceptedRows, Event.delivered, Event.accepted]
  have cut := (ended_with_loss_iff_cutAfterEnd run).1.mp ⟨ended, missing⟩
  exact ⟨handoff, run, ended, missing, cut⟩

/-- The end can be reported to a reader that has not had all the accepted rows. -/
theorem not_delivered_before_end :
    ¬∀ events handoff, Run {} events handoff →
      handoff.fetch? = some (.ok .ended, handoff) →
      ∀ row ∈ acceptedRows events, row ∈ deliveredRows events := by
  intro law
  rcases cutHistory_run with ⟨handoff, run, ended⟩
  have delivered := law cutHistory handoff run ended [.int 1]
    (by simp [cutHistory, acceptedRows, Event.accepted])
  simp [cutHistory, deliveredRows, Event.delivered] at delivered

end Handoff

end TableIntake
