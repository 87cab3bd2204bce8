import TableIntake.Proofs.Handoff.Cancellation
import TableIntake.Proofs.Reader.Columns
import TableIntake.Proofs.Reader.Ending

/-! # Reasons for the end

A reader that has said why the rows stopped says the same ever after, but for one case: it was
closed before it knew the metadata, and the stream had ended by itself without any. If it is then
asked for the metadata, its cancellation becomes a normal end.
-/

namespace TableIntake

open Handoff TableReader

def EndReason.phase : EndReason → Phase
  | .exhausted => .ended
  | .cancelled => .cancelled

/-! ## Streams that are over -/

namespace Handoff

theorem Spent.drained {handoff : Handoff} (spent : handoff.Spent) : handoff.Drained where
  stopped := by simp [spent.ended]
  free := spent.free

theorem Sound.drained {handoff : Handoff} (sound : handoff.Sound)
    (cancelled : handoff.phase = .cancelled) : handoff.Drained where
  stopped := by simp [cancelled]
  free := sound.cancelled cancelled

theorem Leads.drained {before after : Handoff} (leads : Leads before after)
    (drained : before.Drained) : after.Drained := by
  rcases leads with ⟨events, run⟩
  exact (drained.run run).1

theorem fetch_cancelled_iff {handoff after : Handoff} :
    handoff.fetch? = some (.ok .cancelled, after) ↔
      handoff.phase = .cancelled ∧ after = handoff := by
  constructor
  · intro fetches
    unfold fetch? at fetches
    split at fetches
    case h_1 cancelled =>
      cases fetches
      exact ⟨cancelled, rfl⟩
    all_goals simp at fetches
  · rintro ⟨cancelled, rfl⟩
    simp [fetch?, cancelled]

end Handoff

namespace Stream

variable {stream : Stream}

theorem fetch_of_drained (drained : stream.handoff.Drained) :
    stream.fetch.1 = stream.handoff.phase.farewell := by
  rcases await_cases fetch? expiredFetch stream with ⟨met, reached, fetched⟩
  have fetches := (reached.drained drained).fetch
  rw [reached.phase_eq drained.stopped] at fetches
  rcases fetched with fetched | ⟨waits, _⟩
  · have same := fetches.symm.trans fetched
    exact (Prod.mk.inj (Option.some.inj same)).1.symm
  · rw [fetches] at waits
    cases waits

theorem phase_of_fetch_cancelled (cancelled : stream.fetch.1 = .ok .cancelled) :
    stream.fetch.2.handoff.phase = .cancelled := by
  rcases await_cases fetch? expiredFetch stream with ⟨met, _, fetched | ⟨waits, _, cut⟩⟩
  · have fetches : met.fetch? = some (.ok .cancelled, stream.fetch.2.handoff) := by
      rw [← cancelled]
      exact fetched
    rcases fetch_cancelled_iff.mp fetches with ⟨phase, same⟩
    rw [same, phase]
  · have cut : stream.fetch.2.handoff = met.cancel := cut
    rw [cut, cancel_phase, if_pos (fetch_eq_none_iff.mp waits).2]

def reasonWithoutMetadata (stream : Stream) : EndReason :=
  if stream.handoff.isCancelled then .cancelled else .exhausted

theorem phase_of_metadata_none (sound : stream.handoff.Sound)
    (unknown : stream.metadata.1 = .ok none) :
    stream.metadata.2.handoff.Drained ∧
      stream.metadata.2.handoff.phase = stream.metadata.2.reasonWithoutMetadata.phase := by
  unfold reasonWithoutMetadata
  cases cancelled : stream.metadata.2.handoff.isCancelled with
  | true =>
      have phase : stream.metadata.2.handoff.phase = .cancelled := by
        simpa [isCancelled] using cancelled
      exact ⟨(stream.metadata_leads.sound sound).drained phase, phase⟩
  | false =>
      have spent := spent_of_metadata_none sound unknown cancelled
      exact ⟨spent.drained, spent.ended⟩

end Stream

/-! ## What never goes back -/

namespace StreamReader

/-- Something is asked of the reader, the stream is cancelled by a handle, or another thread does
something in between. -/
inductive Deed where
  | call (call : ReaderCall)
  | cancel
  | meanwhile (interference : Interference)

def after (reader : StreamReader) : Deed → StreamReader
  | .call call => (TableReader.call call reader).2
  | .cancel => reader.cancel
  | .meanwhile interference => { reader with stream := reader.stream.interfere interference }

def run (reader : StreamReader) (deeds : List Deed) : StreamReader :=
  deeds.foldl after reader

theorem run_append (reader : StreamReader) (earlier later : List Deed) :
    reader.run (earlier ++ later) = (reader.run earlier).run later :=
  List.foldl_append

theorem metadata_leads (reader : StreamReader) :
    Leads reader.stream.handoff reader.metadata.2.stream.handoff := by
  have here : reader.Meets fun _ handoff => Leads reader.stream.handoff handoff := .refl _
  exact here.metadata (Leads.stable _)

structure Onward (reader next : StreamReader) : Prop where
  leads : Leads reader.stream.handoff next.stream.handoff
  known : reader.known ≠ none → next.known ≠ none
  ended : reader.cursor.ended = true → next.cursor.ended = true

namespace Onward

variable {reader middle next : StreamReader}

theorem refl (reader : StreamReader) : reader.Onward reader :=
  ⟨.refl _, id, id⟩

theorem trans (first : reader.Onward middle) (second : middle.Onward next) :
    reader.Onward next where
  leads := first.leads.trans second.leads
  known known := second.known (first.known known)
  ended ended := second.ended (first.ended ended)

theorem metadata (reader : StreamReader) : reader.Onward reader.metadata.2 where
  leads := reader.metadata_leads
  known known := by
    rcases Option.ne_none_iff_exists'.mp known with ⟨columns, same⟩
    simp [StreamReader.metadata, same]
  ended ended := by rw [metadata_cursor, ended]

theorem close (reader : StreamReader) : reader.Onward reader.close where
  leads := reader.stream.cancel_leads
  known := id
  ended _ := reader.close_ended

theorem start (reader : StreamReader) :
    reader.Onward { reader with cursor := reader.cursor.start } :=
  ⟨.refl _, id, id⟩

theorem fetchRow (reader : StreamReader) : reader.Onward reader.fetchRow.2 := by
  have fetched : reader.Onward { reader with stream := reader.stream.fetch.2 } :=
    ⟨reader.stream.fetch_leads, id, id⟩
  apply fetched.trans
  have fetches := reader.fetchRow_fetches
  generalize reader.fetchRow = result at fetches ⊢
  cases fetches with
  | row => exact ⟨.refl _, id, id⟩
  | misfit => exact close _
  | ended | cancelled | failed => exact ⟨.refl _, id, fun _ => rfl⟩

theorem nextRow (reader : StreamReader) : reader.Onward reader.nextRow.2 := by
  have advanced := reader.nextRow_advanced
  generalize reader.nextRow = result at advanced ⊢
  cases advanced with
  | behind => exact .refl reader
  | further => exact fetchRow reader
  | refused => exact metadata reader
  | first => exact ((metadata reader).trans (start _)).trans (fetchRow _)

theorem after (reader : StreamReader) (deed : Deed) : reader.Onward (reader.after deed) := by
  cases deed with
  | cancel => exact ⟨reader.stream.cancel_leads, id, id⟩
  | meanwhile interference => exact ⟨(Leads.stable _).interfere (.refl _) interference, id, id⟩
  | call call =>
      cases call with
      | metadata => exact metadata reader
      | nextRow => exact nextRow reader
      | close => exact close reader
      | nextColumn =>
          refine ⟨.refl _, id, ?_⟩
          intro ended
          exact (reader.cursor.next_place _).2.trans ended
      | hasNextColumn | columnType | rowByteSize => exact .refl reader

theorem run (reader : StreamReader) (deeds : List Deed) : reader.Onward (reader.run deeds) := by
  induction deeds generalizing reader with
  | nil => exact .refl reader
  | cons deed rest induction => exact (after reader deed).trans (induction _)

end Onward

/-! ## What becomes of the reason -/

structure FindsNone (reader : StreamReader) : Prop where
  unknown : reader.known = none
  told : reader.stream.metadata.1 = .ok none

section

variable {reader : StreamReader}

theorem FindsNone.endReason (finds : reader.FindsNone) :
    reader.metadata.2.endReason = some reader.stream.metadata.2.reasonWithoutMetadata := by
  have learned := reader.metadata_learned
  generalize reader.metadata = result at learned ⊢
  cases learned with
  | known knows => cases finds.unknown.symm.trans knows
  | refused _ told | told _ told => cases finds.told.symm.trans told
  | bare _ _ reason =>
      rw [reason]
      rfl

theorem FindsNone.known (finds : reader.FindsNone) : reader.metadata.2.known = some [] := by
  rw [metadata_known, (metadata_unknown finds.unknown).1, finds.told]
  rfl

theorem metadata_endReason (other : ¬reader.FindsNone) :
    reader.metadata.2.endReason = reader.endReason := by
  have learned := reader.metadata_learned
  generalize reader.metadata = result at learned ⊢
  cases learned with
  | known | refused | told => rfl
  | bare unknown told => exact absurd ⟨unknown, told⟩ other

theorem close_endReason_of_none (unknown : reader.endReason = none) :
    reader.close.endReason = some .cancelled := by
  simp [StreamReader.close, unknown]

theorem close_endReason_of_some {reason : EndReason} (known : reader.endReason = some reason) :
    reader.close.endReason = some reason := by
  simp [StreamReader.close, known]

end

/-! ## What a reason rests on -/

/-- The stream is over as the reason says, or somebody has closed the reader. -/
inductive Concluded : EndReason → StreamReader → Prop
  | told {reason : EndReason} {reader : StreamReader} :
      reader.stream.handoff.Drained → reader.stream.handoff.phase = reason.phase →
      reader.known ≠ none → Concluded reason reader
  | closed {reader : StreamReader} :
      reader.stream.handoff.Drained → reader.cursor.ended = true → Concluded .cancelled reader

theorem Concluded.drained {reason : EndReason} {reader : StreamReader}
    (concluded : Concluded reason reader) : reader.stream.handoff.Drained := by
  cases concluded with
  | told drained | closed drained => exact drained

theorem Concluded.onward {reason : EndReason} {reader next : StreamReader}
    (concluded : Concluded reason reader) (onward : reader.Onward next) :
    Concluded reason next := by
  cases concluded with
  | told drained phase known =>
      have same := onward.leads.phase_eq drained.stopped
      exact .told (onward.leads.drained drained) (same.trans phase) (onward.known known)
  | closed drained ended =>
      exact .closed (onward.leads.drained drained) (onward.ended ended)

structure Consistent (reader : StreamReader) : Prop where
  reached : Leads {} reader.stream.handoff
  knows : reader.cursor.started = true → reader.known ≠ none
  concluded : ∀ reason, reader.endReason = some reason → Concluded reason reader

namespace Consistent

variable {reader next : StreamReader}

theorem scheduled (steps : List ParserStep) (impatient : Bool) (schedule : List Turn) :
    (StreamReader.scheduled steps impatient schedule).Consistent where
  reached := .refl _
  knows := nofun
  concluded := nofun

theorem onward (consistent : reader.Consistent) (onward : reader.Onward next)
    (knows : next.cursor.started = true → next.known ≠ none)
    (same : next.endReason = reader.endReason) : next.Consistent where
  reached := consistent.reached.trans onward.leads
  knows := knows
  concluded reason known := (consistent.concluded reason (same ▸ known)).onward onward

theorem concludes {reason : EndReason} (consistent : reader.Consistent)
    (onward : reader.Onward next) (knows : next.cursor.started = true → next.known ≠ none)
    (told : next.endReason = some reason) (concluded : Concluded reason next) :
    next.Consistent where
  reached := consistent.reached.trans onward.leads
  knows := knows
  concluded other known := by
    obtain rfl : reason = other := Option.some.inj (told.symm.trans known)
    exact concluded

theorem metadata (consistent : reader.Consistent) : reader.metadata.2.Consistent := by
  have onward := Onward.metadata reader
  have knows (started : reader.metadata.2.cursor.started = true) :
      reader.metadata.2.known ≠ none := by
    rw [metadata_cursor] at started
    exact onward.known (consistent.knows started)
  by_cases finds : reader.FindsNone
  · rcases reader.stream.phase_of_metadata_none (consistent.reached.sound sound_fresh)
      finds.told with ⟨drained, phase⟩
    have same := (metadata_unknown finds.unknown).2.1
    apply consistent.concludes onward knows finds.endReason
    apply Concluded.told
    · rw [same]
      exact drained
    · rw [same, phase]
    · rw [finds.known]
      nofun
  · exact consistent.onward onward knows (metadata_endReason finds)

theorem close (consistent : reader.Consistent) : reader.close.Consistent := by
  have onward := Onward.close reader
  have knows (started : reader.close.cursor.started = true) : reader.close.known ≠ none := by
    apply consistent.knows
    rw [← started]
    unfold StreamReader.close
    split <;> rfl
  cases known : reader.endReason with
  | none =>
      apply consistent.concludes onward knows (close_endReason_of_none known)
      exact .closed (cancel_drained _) reader.close_ended
  | some reason =>
      apply consistent.onward onward knows
      rw [close_endReason_of_some known, known]

theorem start (consistent : reader.Consistent) (known : reader.known ≠ none) :
    { reader with cursor := reader.cursor.start }.Consistent :=
  consistent.onward (Onward.start reader) (fun _ => known) rfl

theorem fetchRow (consistent : reader.Consistent) (known : reader.known ≠ none) :
    reader.fetchRow.2.Consistent := by
  have onward := Onward.fetchRow reader
  have fetched : { reader with stream := reader.stream.fetch.2 }.Consistent :=
    consistent.onward ⟨reader.stream.fetch_leads, id, id⟩ consistent.knows rfl
  have fetches := reader.fetchRow_fetches
  generalize reader.fetchRow = result at onward fetches ⊢
  cases fetches with
  | row | failed => exact consistent.onward onward (fun _ => known) rfl
  | misfit => exact fetched.close
  | ended told =>
      have spent := Stream.spent_of_fetch_ended told
      apply consistent.concludes onward (fun _ => known) rfl
      exact .told spent.drained spent.ended known
  | cancelled told =>
      have phase := Stream.phase_of_fetch_cancelled told
      have sound := fetched.reached.sound sound_fresh
      apply consistent.concludes onward (fun _ => known) rfl
      exact .told (sound.drained phase) phase known

theorem nextRow (consistent : reader.Consistent) : reader.nextRow.2.Consistent := by
  have knows := reader.metadata_known
  have advanced := reader.nextRow_advanced
  generalize reader.nextRow = result at advanced ⊢
  cases advanced with
  | behind => exact consistent
  | further _ started => exact consistent.fetchRow (consistent.knows started)
  | refused => exact consistent.metadata
  | first _ _ told =>
      have known : reader.metadata.2.known ≠ none := by
        rw [knows, told]
        nofun
      exact (consistent.metadata.start known).fetchRow known

theorem after (consistent : reader.Consistent) (deed : Deed) :
    (reader.after deed).Consistent := by
  have onward := Onward.after reader deed
  cases deed with
  | cancel | meanwhile => exact consistent.onward onward consistent.knows rfl
  | call call =>
      cases call with
      | metadata => exact consistent.metadata
      | nextRow => exact consistent.nextRow
      | close => exact consistent.close
      | nextColumn =>
          refine consistent.onward onward ?_ rfl
          intro started
          exact consistent.knows ((reader.cursor.next_place _).1.symm.trans started)
      | hasNextColumn | columnType | rowByteSize => exact consistent

theorem run (consistent : reader.Consistent) (deeds : List Deed) :
    (reader.run deeds).Consistent := by
  induction deeds generalizing reader with
  | nil => exact consistent
  | cons deed rest induction => exact induction (consistent.after deed)

end Consistent

/-! ## When a reason changes -/

/-- The stream has ended by itself, and the reader learns only now that there is no metadata. -/
structure Belated (reader : StreamReader) : Prop extends FindsNone reader where
  ended : reader.stream.handoff.phase = .ended

section

variable {reader : StreamReader} {reason : EndReason}

theorem Belated.endReason (belated : reader.Belated) :
    reader.metadata.2.endReason = some .exhausted := by
  have stopped : reader.stream.handoff.phase ≠ .streaming := by simp [belated.ended]
  have ended := (reader.stream.metadata_leads.phase_eq stopped).trans belated.ended
  rw [belated.toFindsNone.endReason]
  simp [Stream.reasonWithoutMetadata, Handoff.isCancelled, ended]

theorem Consistent.reason_of_unknown (consistent : reader.Consistent)
    (known : reader.endReason = some reason) (unknown : reader.known = none) :
    reason = .cancelled := by
  -- Only a reader that was closed has a reason without knowing the metadata.
  cases consistent.concluded reason known with
  | told _ _ knows => exact absurd unknown knows
  | closed => rfl

theorem metadata_endReason_of_not_belated (consistent : reader.Consistent)
    (known : reader.endReason = some reason) (inTime : ¬reader.Belated) :
    reader.metadata.2.endReason = some reason := by
  by_cases finds : reader.FindsNone
  · obtain rfl := consistent.reason_of_unknown known finds.unknown
    rcases reader.stream.phase_of_metadata_none (consistent.reached.sound sound_fresh)
      finds.told with ⟨_, phase⟩
    have drained := (consistent.concluded _ known).drained
    rw [finds.endReason]
    cases without : reader.stream.metadata.2.reasonWithoutMetadata with
    | cancelled => rfl
    | exhausted =>
        rw [without, reader.stream.metadata_leads.phase_eq drained.stopped] at phase
        exact absurd ⟨finds, phase⟩ inTime
  · rw [metadata_endReason finds, known]

theorem fetchRow_endReason (known : reader.endReason = some reason)
    (drained : reader.stream.handoff.Drained)
    (phase : reader.stream.handoff.phase = reason.phase) :
    reader.fetchRow.2.endReason = some reason := by
  have told := Stream.fetch_of_drained drained
  rw [phase] at told
  cases reason with
  | exhausted =>
      rw [fetchRow_ended told]
      rfl
  | cancelled =>
      rw [fetchRow_cancelled told]
      rfl

theorem nextRow_endReason (known : reader.endReason = some reason)
    (concluded : Concluded reason reader) : reader.nextRow.2.endReason = some reason := by
  have advanced := reader.nextRow_advanced
  generalize reader.nextRow = result at advanced ⊢
  cases concluded with
  | closed _ ended =>
      cases advanced with
      | behind => exact known
      | further goesOn | refused goesOn | first goesOn => simp [ended] at goesOn
  | told drained phase knows =>
      have same : reader.metadata.2 = reader := by
        rcases Option.ne_none_iff_exists'.mp knows with ⟨columns, knows⟩
        simp [StreamReader.metadata, knows]
      cases advanced with
      | behind => exact known
      | further => exact fetchRow_endReason known drained phase
      | refused =>
          rw [same]
          exact known
      | first =>
          rw [same]
          exact fetchRow_endReason known drained phase

theorem after_endReason (consistent : reader.Consistent)
    (known : reader.endReason = some reason) {deed : Deed}
    (inTime : ¬(deed = .call .metadata ∧ reader.Belated)) :
    (reader.after deed).endReason = some reason := by
  cases deed with
  | cancel | meanwhile => exact known
  | call call =>
      cases call with
      | metadata =>
          apply metadata_endReason_of_not_belated consistent known
          exact fun belated => inTime ⟨rfl, belated⟩
      | nextRow => exact nextRow_endReason known (consistent.concluded reason known)
      | close => exact close_endReason_of_some known
      | nextColumn | hasNextColumn | columnType | rowByteSize => exact known

theorem after_exhausted (consistent : reader.Consistent)
    (known : reader.endReason = some .exhausted) (deed : Deed) :
    (reader.after deed).endReason = some .exhausted := by
  apply after_endReason consistent known
  rintro ⟨_, belated⟩
  cases consistent.reason_of_unknown known belated.unknown

theorem run_exhausted (consistent : reader.Consistent)
    (exhausted : reader.endReason = some .exhausted) (deeds : List Deed) :
    (reader.run deeds).endReason = some .exhausted := by
  induction deeds generalizing reader with
  | nil => exact exhausted
  | cons deed rest induction =>
      exact induction (consistent.after deed) (after_exhausted consistent exhausted deed)

/-- A reader of a stream that has ended by itself is asked for the metadata, does not know it, and
learns that there is none. -/
def LearnsOfNone (reader : StreamReader) (deeds : List Deed) : Prop :=
  reader.stream.handoff.phase = .ended ∧
    ∃ earlier later, deeds = earlier ++ .call .metadata :: later ∧
      (reader.run earlier).FindsNone

theorem run_endReason (consistent : reader.Consistent)
    (known : reader.endReason = some reason) (deeds : List Deed) :
    (reader.run deeds).endReason = some reason ∨ reader.LearnsOfNone deeds := by
  induction deeds generalizing reader with
  | nil => exact .inl known
  | cons deed rest induction =>
      by_cases now : deed = .call .metadata ∧ reader.Belated
      · rcases now with ⟨rfl, belated⟩
        exact .inr ⟨belated.ended, [], rest, rfl, belated.toFindsNone⟩
      · have later := after_endReason consistent known now
        rcases induction (consistent.after deed) later with
          same | ⟨ended, earlier, later, rfl, finds⟩
        · exact .inl same
        · have drained := (consistent.concluded reason known).drained
          have stays := (Onward.after reader deed).leads.phase_eq drained.stopped
          exact .inr ⟨stays.symm.trans ended, deed :: earlier, later, rfl, finds⟩

theorem LearnsOfNone.unknown {deeds : List Deed} (learns : reader.LearnsOfNone deeds) :
    reader.known = none := by
  rcases learns with ⟨_, earlier, _, _, finds⟩
  apply Classical.not_not.mp
  intro knows
  exact (Onward.run reader earlier).known knows finds.unknown

theorem LearnsOfNone.run_endReason {deeds : List Deed} (learns : reader.LearnsOfNone deeds)
    (consistent : reader.Consistent) : (reader.run deeds).endReason = some .exhausted := by
  rcases learns with ⟨ended, earlier, later, rfl, finds⟩
  have stays := (Onward.run reader earlier).leads.phase_eq (by simp [ended])
  have belated : (reader.run earlier).Belated := ⟨finds, stays.trans ended⟩
  rw [run_append]
  exact run_exhausted ((consistent.run earlier).after (.call .metadata)) belated.endReason later

/-! ## Readers that were closed -/

theorem metadata_endReason_of_unknown (unknown : reader.metadata.2.known = none) :
    reader.metadata.2.endReason = reader.endReason := by
  apply metadata_endReason
  intro finds
  cases finds.known.symm.trans unknown

theorem nextRow_endReason_of_unknown (consistent : reader.Consistent)
    (unknown : reader.nextRow.2.known = none) :
    reader.nextRow.2.endReason = reader.endReason := by
  have knows := reader.metadata_known
  have advanced := reader.nextRow_advanced
  generalize reader.nextRow = result at advanced unknown ⊢
  cases advanced with
  | behind => rfl
  | further _ started =>
      exact absurd unknown ((Onward.fetchRow reader).known (consistent.knows started))
  | refused => exact metadata_endReason_of_unknown unknown
  | first _ _ told =>
      have known : reader.metadata.2.known ≠ none := by
        rw [knows, told]
        nofun
      exact absurd unknown ((Onward.fetchRow _).known known)

theorem after_endReason_of_unknown (consistent : reader.Consistent) {deed : Deed}
    (unknown : (reader.after deed).known = none) (stays : deed ≠ .call .close) :
    (reader.after deed).endReason = reader.endReason := by
  cases deed with
  | cancel | meanwhile => rfl
  | call call =>
      cases call with
      | metadata => exact metadata_endReason_of_unknown unknown
      | nextRow => exact nextRow_endReason_of_unknown consistent unknown
      | close => exact absurd rfl stays
      | nextColumn | hasNextColumn | columnType | rowByteSize => rfl

theorem close_mem_of_unknown (consistent : reader.Consistent) (running : reader.endReason = none)
    (deeds : List Deed) (known : (reader.run deeds).endReason = some reason)
    (unknown : (reader.run deeds).known = none) : .call .close ∈ deeds := by
  induction deeds generalizing reader with
  | nil => cases running.symm.trans known
  | cons deed rest induction =>
      by_cases closes : deed = .call .close
      · simp [closes]
      · have before : (reader.after deed).known = none := by
          apply Classical.not_not.mp
          intro knows
          exact (Onward.run _ rest).known knows unknown
        have same := after_endReason_of_unknown consistent before closes
        apply List.mem_cons_of_mem
        exact induction (consistent.after deed) (same.trans running) known unknown

/-- Why the rows stopped stays as it was said, whatever is asked of the reader, whoever cancels and
whatever the parser does, unless the reader then learns that a stream that ended by itself had no
metadata. It was closed before it knew that, and its cancellation becomes a normal end for good. -/
theorem endReason_changes_iff (steps : List ParserStep) (impatient : Bool)
    (schedule : List Turn) (past rest : List Deed) (reason : EndReason)
    (known : ((scheduled steps impatient schedule).run past).endReason = some reason) :
    let reader := (scheduled steps impatient schedule).run past
    ((reader.run rest).endReason ≠ some reason ↔ reader.LearnsOfNone rest) ∧
      (reader.LearnsOfNone rest →
        reason = .cancelled ∧ .call .close ∈ past ∧
          ∀ more, (reader.run (rest ++ more)).endReason = some .exhausted) := by
  intro reader
  have fresh := Consistent.scheduled steps impatient schedule
  have consistent : reader.Consistent := fresh.run past
  have closed (learns : reader.LearnsOfNone rest) : reason = .cancelled :=
    consistent.reason_of_unknown known learns.unknown
  refine ⟨⟨?_, ?_⟩, ?_⟩
  · intro changes
    rcases run_endReason consistent known rest with same | learns
    · exact absurd same changes
    · exact learns
  · intro learns
    rw [learns.run_endReason consistent, closed learns]
    nofun
  · intro learns
    refine ⟨closed learns, close_mem_of_unknown fresh rfl past known learns.unknown, ?_⟩
    intro more
    rw [run_append]
    exact run_exhausted (consistent.run rest) (learns.run_endReason consistent) more

end

theorem endReason_changes_of_close :
    let reader := (scheduled [.endRows] false []).run [.call .close]
    reader.endReason = some .cancelled ∧ reader.LearnsOfNone [.call .metadata] ∧
      (reader.run [.call .metadata]).endReason = some .exhausted := by
  intro reader
  have known : reader.endReason = some .cancelled := rfl
  have changes : (reader.run [.call .metadata]).endReason ≠ some .cancelled := by decide
  have settled := endReason_changes_iff [.endRows] false [] [.call .close] [.call .metadata]
    .cancelled known
  have learns := settled.1.mp changes
  exact ⟨known, learns, (settled.2 learns).2.2 []⟩

/-- A reader that has told of a cancellation can tell of a normal end later on. -/
theorem not_endReason_for_good :
    ¬∀ (steps : List ParserStep) (impatient : Bool) (schedule : List Turn)
        (past rest : List Deed) (reason : EndReason),
      ((scheduled steps impatient schedule).run past).endReason = some reason →
      (((scheduled steps impatient schedule).run past).run rest).endReason = some reason := by
  intro stays
  have same := stays [.endRows] false [] [.call .close] [.call .metadata] .cancelled rfl
  have changes : (((scheduled [.endRows] false []).run [.call .close]).run
      [.call .metadata]).endReason = some .exhausted := by decide
  cases same.symm.trans changes

end StreamReader

end TableIntake
