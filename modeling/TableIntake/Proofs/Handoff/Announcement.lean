import TableIntake.Proofs.Handoff.Cancellation

/-! # Announcements

The metadata of a stream comes from the first header that its parser announces. What is told to
somebody who asks for it is told again to everybody who asks later, but for one case: the stream was
over without a header, nobody had cancelled it, and the parser announces one all the same.
-/

namespace TableIntake

open Handoff Session

def MetadataSlot.ofHeader (header : Header) : MetadataSlot :=
  match header.metadata with
  | .ok columns => .ready columns
  | .error fault => .refused fault

theorem MetadataSlot.ofHeader_ne_pending (header : Header) : ofHeader header ≠ .pending := by
  unfold ofHeader
  split <;> simp

def Header.told (header : Header) : Except ReadFault (Option Metadata) :=
  match header.metadata with
  | .ok columns => .ok (some columns)
  | .error fault => .error (.schema fault)

namespace Handoff

def Event.metadata? : Event → Option Answer
  | .passed .metadata answer | .expired .metadata answer => some answer
  | _ => none

def Event.header? : Event → Option Header
  | .passed (.acceptMetadata header) _ => some header
  | _ => none

def announced (events : List Event) : List Header :=
  events.filterMap Event.header?

/-- The stream is over without metadata, and nobody has cancelled it. -/
structure Bare (handoff : Handoff) : Prop where
  pending : handoff.metadata = .pending
  stopped : handoff.phase ≠ .streaming
  uncancelled : handoff.phase ≠ .cancelled

/-! ## What an event does to the metadata -/

section

variable {call : Call} {answer : Answer} {event : Event} {before after : Handoff}

theorem metadata_of_step (passes : step? call before = some (answer, after)) :
    after.metadata = before.metadata ∨
      ∃ header, call = .acceptMetadata header ∧ after = (before.acceptMetadata header).2 := by
  cases call with
  | acceptMetadata header =>
      cases passes
      exact .inr ⟨header, rfl, rfl⟩
  | acceptRow row =>
      rcases Option.map_eq_some_iff.mp passes with ⟨⟨reply, next⟩, accepts, equal⟩
      cases equal
      unfold acceptRow? at accepts
      split at accepts
      · split at accepts
        · cases accepts
        · split at accepts
          · cases accepts
            exact .inl rfl
          · split at accepts <;> cases accepts <;> exact .inl rfl
      all_goals
        cases accepts
        exact .inl rfl
  | fetch =>
      rcases Option.map_eq_some_iff.mp passes with ⟨⟨reply, next⟩, fetches, equal⟩
      cases equal
      unfold fetch? at fetches
      split at fetches <;> cases fetches <;> exact .inl rfl
  | metadata =>
      rcases Option.map_eq_some_iff.mp passes with ⟨_, _, equal⟩
      cases equal
      exact .inl rfl
  | endRows =>
      cases passes
      unfold endRows
      split <;> exact .inl rfl
  | finish =>
      cases passes
      unfold finish
      split <;> exact .inl rfl
  | fail fault =>
      cases passes
      unfold fail
      split <;> exact .inl rfl
  | cancel =>
      cases passes
      unfold cancel
      split <;> exact .inl rfl
  | isCancelled | isTerminal =>
      cases passes
      exact .inl rfl

theorem acceptMetadata_metadata (header : Header) (before : Handoff) :
    (before.acceptMetadata header).2.metadata =
      if before.metadata = .pending ∧ before.phase ≠ .cancelled then .ofHeader header
      else before.metadata := by
  unfold acceptMetadata isCancelled isPending MetadataSlot.ofHeader
  by_cases cancelled : before.phase = .cancelled
  · simp [cancelled]
  · by_cases pending : before.metadata = .pending
    · simp only [cancelled, pending]
      cases header.metadata <;> simp [cancelled]
    · simp [cancelled, pending]

theorem Move.metadata_eq (move : Move before event after) :
    after.metadata =
      match event.header? with
      | some header =>
          if before.metadata = .pending ∧ before.phase ≠ .cancelled then .ofHeader header
          else before.metadata
      | none => before.metadata := by
  cases move with
  | expired =>
      have same : before.cancel.metadata = before.metadata := by
        unfold cancel
        split <;> rfl
      exact same
  | @passed _ call answer passes =>
      rcases metadata_of_step passes with same | ⟨header, rfl, rfl⟩
      · cases call with
        | acceptMetadata header =>
            cases passes
            exact acceptMetadata_metadata header before
        | _ => exact same
      · exact acceptMetadata_metadata header before

theorem Move.metadata_again (move : Move before event after)
    (asks : event.metadata? = some answer) : step? .metadata after = some (answer, after) := by
  cases event with
  | passed call told =>
      cases call <;> cases asks
      cases move with
      | passed passes =>
          rcases Option.map_eq_some_iff.mp passes with ⟨_, _, equal⟩
          cases equal
          exact passes
  | expired call told =>
      cases call <;> cases asks
      cases move.cancel_of_expired.2 with
      | passed passes => exact passes

end

/-! ## What becomes of the metadata -/

namespace Run

variable {before after : Handoff} {events past rest : List Event}

theorem split (run : Run before (past ++ rest) after) :
    ∃ middle, Run before past middle ∧ Run middle rest after := by
  induction past generalizing before with
  | nil => exact ⟨before, .nil before, run⟩
  | cons event past induction =>
      cases run with
      | cons move run =>
          rcases induction run with ⟨middle, first, second⟩
          exact ⟨middle, .cons move first, second⟩

theorem metadata_of_known (run : Run before events after)
    (known : before.metadata ≠ .pending) : after.metadata = before.metadata := by
  induction run with
  | nil => rfl
  | @cons before middle _ _ _ move _ induction =>
      have same : middle.metadata = before.metadata := by
        rw [move.metadata_eq]
        split <;> simp [known]
      rw [← same]
      apply induction
      rwa [same]

theorem metadata_of_cancelled (run : Run before events after)
    (cancelled : before.phase = .cancelled) : after.metadata = before.metadata := by
  induction run with
  | nil => rfl
  | @cons before middle _ _ _ move _ induction =>
      have same : middle.metadata = before.metadata := by
        rw [move.metadata_eq]
        split <;> simp [cancelled]
      have stays := move.change.phase_eq (by simp [cancelled])
      rw [← same]
      apply induction
      rw [stays, cancelled]

theorem metadata_of_bare (run : Run before events after) (bare : before.Bare) :
    after.metadata =
      match announced events with
      | [] => .pending
      | header :: _ => .ofHeader header := by
  induction run with
  | nil => exact bare.pending
  | @cons before middle _ event events move rest induction =>
      have stays := move.change.phase_eq bare.stopped
      have first := move.metadata_eq
      cases header : event.header? with
      | none =>
          simp only [header] at first
          have bare : middle.Bare := by
            constructor
            · rw [first, bare.pending]
            · rw [stays]
              exact bare.stopped
            · rw [stays]
              exact bare.uncancelled
          have skipped : announced (event :: events) = announced events := by
            simp [announced, header]
          rw [skipped]
          exact induction bare
      | some header' =>
          rw [header] at first
          replace first := first.trans (if_pos ⟨bare.pending, bare.uncancelled⟩)
          have taken : announced (event :: events) = header' :: announced events := by
            simp [announced, header]
          rw [taken, rest.metadata_of_known]
          · exact first
          · rw [first]
            exact MetadataSlot.ofHeader_ne_pending header'

end Run

/-! ## What becomes of an answer -/

/-- The parser announces a header after the stream was over without one, and not cancelled. -/
def AnnouncedLate (past between : List Event) : Prop :=
  announced between ≠ [] ∧ ∃ handoff, Run {} past handoff ∧ handoff.Bare

section

variable {handoff after : Handoff} {answer other : Answer} {between : List Event}

theorem metadata?_congr (same : after.metadata = handoff.metadata)
    (ends : handoff.metadata = .pending → after.phase = handoff.phase) :
    after.metadata? = handoff.metadata? := by
  -- What is told depends on the metadata, and without metadata on how the stream came to its end.
  unfold metadata?
  rw [same]
  cases known : handoff.metadata with
  | pending => simp only [ends known]
  | ready | refused => rfl

theorem metadata?_of_header {header : Header} (known : handoff.metadata = .ofHeader header) :
    handoff.metadata? = some header.told := by
  unfold metadata? Header.told
  rw [known, MetadataSlot.ofHeader]
  cases header.metadata <;> rfl

theorem Bare.answer_cases (bare : handoff.Bare)
    (asks : step? .metadata handoff = some (answer, handoff)) :
    answer = .metadata none ∨ ∃ fault, answer = .fault (.parse fault) := by
  rcases handoff with ⟨metadata, slot, phase⟩
  obtain rfl : metadata = .pending := bare.pending
  cases phase with
  | streaming => exact absurd rfl bare.stopped
  | cancelled => exact absurd rfl bare.uncancelled
  | ended =>
      cases asks
      exact .inl rfl
  | failed fault =>
      cases asks
      exact .inr ⟨fault, rfl⟩

theorem told_ne_of_bare (header : Header) (bare : handoff.Bare)
    (asks : step? .metadata handoff = some (answer, handoff)) :
    ofMetadata header.told ≠ answer := by
  unfold Header.told
  rcases bare.answer_cases asks with rfl | ⟨fault, rfl⟩ <;>
    cases header.metadata <;> simp [ofMetadata]

/-- An answer stands while there is metadata, or a cancellation, or no header. -/
theorem Run.metadata?_eq (run : Run handoff between after)
    (asks : step? .metadata handoff = some (answer, handoff))
    (settled : ¬(announced between ≠ [] ∧ handoff.Bare)) :
    after.metadata? = handoff.metadata? := by
  by_cases pending : handoff.metadata = .pending
  · have stopped : handoff.phase ≠ .streaming := by
      intro streaming
      have waits : handoff.metadata? = none := metadata_eq_none_iff.mpr ⟨pending, streaming⟩
      simp [step?, waits] at asks
    apply metadata?_congr
    · by_cases cancelled : handoff.phase = .cancelled
      · exact run.metadata_of_cancelled cancelled
      · have bare : handoff.Bare := ⟨pending, stopped, cancelled⟩
        have quiet : announced between = [] :=
          Classical.not_not.mp fun announces => settled ⟨announces, bare⟩
        rw [run.metadata_of_bare bare, quiet, pending]
    · intro _
      exact run.phase_eq stopped
  · apply metadata?_congr
    · exact run.metadata_of_known pending
    · intro known
      exact absurd known pending

theorem ofMetadata_of_step (asks : step? .metadata handoff = some (answer, after)) :
    handoff.metadata?.map ofMetadata = some answer := by
  rcases Option.map_eq_some_iff.mp asks with ⟨told, known, equal⟩
  cases equal
  rw [known]
  rfl

theorem Run.answer_of_bare (run : Run handoff between after) (bare : handoff.Bare)
    (asksAgain : step? .metadata after = some (other, after)) (announces : announced between ≠ []) :
    ∃ header rest, announced between = header :: rest ∧ other = ofMetadata header.told := by
  rcases List.exists_cons_of_ne_nil announces with ⟨header, rest, split⟩
  have known := run.metadata_of_bare bare
  rw [split] at known
  have now := ofMetadata_of_step asksAgain
  rw [metadata?_of_header known] at now
  exact ⟨header, rest, split, (Option.some.inj now).symm⟩

theorem Run.answer_ne_iff (run : Run handoff between after)
    (asks : step? .metadata handoff = some (answer, handoff))
    (asksAgain : step? .metadata after = some (other, after)) :
    other ≠ answer ↔ announced between ≠ [] ∧ handoff.Bare := by
  constructor
  · intro changes
    apply Classical.not_not.mp
    intro settled
    have now := ofMetadata_of_step asksAgain
    rw [run.metadata?_eq asks settled, ofMetadata_of_step asks] at now
    exact changes (Option.some.inj now).symm
  · rintro ⟨announces, bare⟩
    rcases run.answer_of_bare bare asksAgain announces with ⟨header, _, _, rfl⟩
    exact told_ne_of_bare header bare asks

theorem Run.metadata_again {event : Event} (run : Run handoff [event] after)
    (asks : event.metadata? = some answer) : step? .metadata after = some (answer, after) := by
  cases run with
  | cons move rest =>
      cases rest
      exact move.metadata_again asks

theorem announced_append_asks {event : Event} (asks : event.metadata? = some answer) :
    announced (between ++ [event]) = announced between := by
  have quiet : event.header? = none := by
    cases event with
    | passed call told =>
        cases call <;> cases asks
        rfl
    | expired call told => rfl
  simp [announced, quiet]

end

/-- Whoever asks again for the metadata is told the same, unless the stream was over without any,
not cancelled, and a header was announced since. Then no metadata, or a fault of the parser, has
become what that header says. -/
theorem metadata_changes_iff_announcedLate {past between : List Event} {first second : Event}
    {answer other : Answer} {handoff : Handoff}
    (run : Run {} (past ++ first :: between ++ [second]) handoff)
    (asks : first.metadata? = some answer) (asksAgain : second.metadata? = some other) :
    (other ≠ answer ↔ AnnouncedLate (past ++ [first]) between) ∧
      (AnnouncedLate (past ++ [first]) between →
        (answer = .metadata none ∨ ∃ fault, answer = .fault (.parse fault)) ∧
          ∃ header rest, announced between = header :: rest ∧ other = ofMetadata header.told) := by
  replace run : Run {} (past ++ [first] ++ (between ++ [second])) handoff := by simpa using run
  rcases run.split with ⟨middle, earlier, later⟩
  rcases earlier.split with ⟨_, _, single⟩
  rcases later.split with ⟨_, _, single'⟩
  have told := single.metadata_again asks
  have toldAgain := single'.metadata_again asksAgain
  have changes := later.answer_ne_iff told toldAgain
  have becomes (bare : middle.Bare) := later.answer_of_bare bare toldAgain
  rw [announced_append_asks asksAgain] at changes becomes
  have late : AnnouncedLate (past ++ [first]) between ↔ announced between ≠ [] ∧ middle.Bare := by
    constructor
    · rintro ⟨announces, same, earlier', bare⟩
      cases earlier.unique earlier'
      exact ⟨announces, bare⟩
    · rintro ⟨announces, bare⟩
      exact ⟨announces, middle, earlier, bare⟩
  rw [late]
  exact ⟨changes, fun ⟨announces, bare⟩ => ⟨bare.answer_cases told, becomes bare announces⟩⟩

def lateHeader : Header :=
  [{ name := "id", datatype := some "int" }]

def lateColumns : Metadata :=
  [{ name := "id", type := .plain .integer, description := none, unit := none, ucd := none,
     utype := none }]

def lateHistory : List Event :=
  [.passed .endRows .done] ++ .passed .metadata (.metadata none) ::
    [.passed (.acceptMetadata lateHeader) .done] ++
    [.passed .metadata (.metadata (some lateColumns))]

theorem run_lateHistory :
    Run {} lateHistory { metadata := .ready lateColumns, phase := .ended } :=
  .cons (.passed rfl) (.cons (.passed rfl) (.cons (.passed rfl) (.cons (.passed rfl) (.nil _))))

theorem metadata_changes_of_lateHistory :
    ∃ handoff, Run {} lateHistory handoff ∧
      AnnouncedLate [.passed .endRows .done, .passed .metadata (.metadata none)]
        [.passed (.acceptMetadata lateHeader) .done] ∧
      Answer.metadata (some lateColumns) ≠ .metadata none ∧
      Answer.metadata (some lateColumns) = ofMetadata lateHeader.told := by
  have changes : Answer.metadata (some lateColumns) ≠ .metadata none := nofun
  have becomes := metadata_changes_iff_announcedLate run_lateHistory rfl rfl
  have late := becomes.1.mp changes
  rcases (becomes.2 late).2 with ⟨header, rest, announces, told⟩
  cases announces
  exact ⟨_, run_lateHistory, late, changes, told⟩

theorem not_answered_alike :
    ¬∀ (past between : List Event) (first second : Event) (answer other : Answer)
        (handoff : Handoff),
      Run {} (past ++ first :: between ++ [second]) handoff →
      first.metadata? = some answer → second.metadata? = some other → other = answer := by
  intro alike
  cases alike _ _ _ _ _ _ _ run_lateHistory rfl rfl

end Handoff

end TableIntake
