import TableIntake.Proofs.Handoff.Cancellation
import TableIntake.Proofs.Reader.Ending
import TableIntake.Proofs.Reader.Keeping
import TableIntake.Proofs.Stream.Account
import TableIntake.Proofs.Stream.Meeting
import TableIntake.Proofs.Stream.Remaining

/-! # Waits that nothing ends

A reader whose waits have no limit waits for good only for a parser that waits for a cancellation
itself. The answers that a stream gives in place of that wait are those of a run in which somebody
cancels.
-/

namespace TableIntake

open Handoff TableReader

namespace Handoff

theorem fetch?_cancel {handoff : Handoff} (waits : handoff.fetch? = none) :
    handoff.cancel.fetch? = some (expiredFetch, handoff.cancel) := by
  have streaming := (fetch_eq_none_iff.mp waits).2
  have cancelled : handoff.cancel.phase = .cancelled := by rw [cancel_phase, if_pos streaming]
  simp [fetch?, cancelled, expiredFetch]

theorem metadata?_cancel {handoff : Handoff} (waits : handoff.metadata? = none) :
    handoff.cancel.metadata? = some expiredMetadata := by
  rcases metadata_eq_none_iff.mp waits with ⟨pending, streaming⟩
  have cancelled : handoff.cancel.phase = .cancelled := by rw [cancel_phase, if_pos streaming]
  have unknown : handoff.cancel.metadata = .pending := by
    unfold cancel
    split <;> exact pending
  simp [metadata?, unknown, cancelled, expiredMetadata]

end Handoff

/-! ## Producers that cannot go on -/

namespace Producer

variable {producer next : Producer} {before after handoff : Handoff} {ready : Handoff → Bool}

structure Attends (producer : Producer) (handoff : Handoff) : Prop where
  sound : handoff.Sound
  present : handoff.isStreaming = true → producer.isGone = false

theorem Attends.stable : Stable Attends where
  step attends steps := by
    refine ⟨(step_leads steps).sound attends.sound, fun streaming => ?_⟩
    apply Bool.eq_false_iff.mpr
    intro gone
    rw [(took steps).isStreaming_eq_false gone] at streaming
    cases streaming
  stop {_ handoff} attends := by
    refine ⟨(Leads.cancel handoff).sound attends.sound, fun streaming => ?_⟩
    rw [cancel_isStreaming] at streaming
    cases streaming
  take {_ before after _} attends fetches := by
    have leads : Leads before after := .ofStep (Session.step?_fetch fetches)
    refine ⟨leads.sound attends.sound, fun streaming => attends.present ?_⟩
    have same := phase_eq_of_emptied (fetch_emptied fetches)
    simpa only [isStreaming, same] using streaming

theorem weight_of_left (left : producer.isRunning = false) : producer.weight ≤ 1 := by
  cases producer with
  | running => contradiction
  | settled | gone => simp [weight]

theorem fetch?_of_count {number : Nat} {rest : List ParserStep}
    (below : number < ParserStep.countEnd)
    (steps : (running (.count number :: rest)).step? before = some (next, after))
    (goesOn : next.isRunning = true) : after.fetch? ≠ none := by
  simp only [step?, if_pos below] at steps
  rcases Option.map_eq_some_iff.mp steps with ⟨⟨reply, handoff⟩, accepts, equal⟩
  cases reply with
  | aborted =>
      cases equal
      cases goesOn
  | accepted =>
      cases equal
      intro waits
      have free := (fetch_eq_none_iff.mp waits).1
      unfold acceptRow? at accepts
      split at accepts
      · split at accepts
        · cases accepts
        · split at accepts
          · cases accepts
          · cases accepts
            cases free
      all_goals cases accepts

/-- The producer comes closer to its end as long as a reader waits for its rows. Only counting goes
on where it was, and each of its steps is a row. -/
theorem weight_lt_of_waits (steps : producer.step? before = some (next, after))
    (waits : after.fetch? = none) : next.weight < producer.weight := by
  cases producer with
  | gone => cases steps
  | settled =>
      cases steps
      exact Nat.zero_lt_one
  | running remaining =>
      cases remaining with
      | nil =>
          cases steps
          simp [weight]
      | cons step rest =>
          rcases next_cases steps with left | rfl | ⟨number, below, rfl, rfl⟩
          · have light := weight_of_left left
            have heavy : 2 ≤ (running (step :: rest)).weight := Nat.le_add_left 2 _
            omega
          · simp [weight]
          · exact absurd waits (fetch?_of_count below steps rfl)

theorem runUntil_stops {Holds : Producer → Handoff → Prop} (lasting : Lasting Holds)
    (holds : Holds producer before)
    (waits : ∀ {producer handoff}, Holds producer handoff → ready handoff = false →
      handoff.fetch? = none) {fuel : Nat} (enough : producer.weight ≤ fuel) :
    let ran := producer.runUntil ready fuel before
    ready ran.2 = true ∨ ran.1.step? ran.2 = none := by
  induction fuel generalizing producer before with
  | zero =>
      cases producer with
      | gone => exact .inr rfl
      | settled | running => simp [weight] at enough
  | succ fuel induction =>
      unfold runUntil
      split
      next done => exact .inl done
      next =>
        split
        next stuck => exact .inr stuck
        next next after moves =>
          have later := lasting.step holds moves
          cases done : ready after with
          | true =>
              have stays : next.runUntil ready fuel after = (next, after) := by
                cases fuel <;> simp [runUntil, done]
              rw [stays]
              exact .inl done
          | false =>
              have lighter := weight_lt_of_waits moves (waits later done)
              exact induction later (by omega)

/-- No step that is left to the producer waits for a cancellation. -/
structure Hurries (producer : Producer) (handoff : Handoff) : Prop
    extends Attends producer handoff where
  steps : ∀ steps, producer = .running steps → .awaitCancel ∉ steps

theorem Attends.start (steps : List ParserStep) : Attends (.running steps) {} where
  sound := sound_fresh
  present _ := rfl

theorem Hurries.start {steps : List ParserStep} (hurries : .awaitCancel ∉ steps) :
    Hurries (.running steps) {} where
  toAttends := .start steps
  steps := by
    rintro _ ⟨⟩
    exact hurries

theorem Hurries.rest (hurries : producer.Hurries before)
    (steps : producer.step? before = some (next, after)) :
    ∀ rest, next = .running rest → .awaitCancel ∉ rest := by
  rintro rest rfl
  cases producer with
  | gone | settled => cases steps
  | running remaining =>
      have left := hurries.steps remaining rfl
      cases remaining with
      | nil => cases steps
      | cons step later =>
          rw [List.mem_cons, not_or] at left
          rcases next_cases steps with stopped | same | ⟨number, _, rfl, same⟩
          · cases stopped
          · cases same
            exact left.2
          · cases same
            simpa using left.2

theorem Hurries.stable : Stable Hurries where
  step hurries steps := ⟨Attends.stable.step hurries.toAttends steps, hurries.rest steps⟩
  stop hurries := ⟨Attends.stable.stop hurries.toAttends, hurries.steps⟩
  take hurries fetches := ⟨Attends.stable.take hurries.toAttends fetches, hurries.steps⟩

theorem awaits_of_stuck (attends : producer.Attends handoff) (stuck : producer.step? handoff = none)
    (waits : handoff.fetch? = none) : ∃ rest, producer = .running (.awaitCancel :: rest) := by
  rcases fetch_eq_none_iff.mp waits with ⟨free, streaming⟩
  have accepts (row : Row) : handoff.acceptRow? row ≠ none := by
    rw [Ne, acceptRow_eq_none_iff, free]
    simp
  cases producer with
  | gone =>
      have present := attends.present (by simpa [isStreaming] using streaming)
      cases present
  | settled => cases stuck
  | running remaining =>
      cases remaining with
      | nil => cases stuck
      | cons step rest =>
          cases step with
          | awaitCancel => exact ⟨rest, rfl⟩
          | row row | tryRow row => exact absurd (Option.map_eq_none_iff.mp stuck) (accepts row)
          | count number =>
              simp only [step?] at stuck
              split at stuck
              · exact absurd (Option.map_eq_none_iff.mp stuck) (accepts _)
              · cases stuck
          | _ => cases stuck

end Producer

/-! ## Runs as interference -/

namespace Producer

variable {producer : Producer} {handoff : Handoff}

theorem run_of_stuck (stuck : producer.step? handoff = none) (fuel : Nat) :
    producer.run fuel handoff = (producer, handoff) := by
  cases fuel <;> simp [run, stuck]

theorem exists_run_eq_runUntil (ready : Handoff → Bool) (fuel : Nat) :
    ∃ count, producer.runUntil ready fuel handoff = producer.run count handoff := by
  induction fuel generalizing producer handoff with
  | zero => exact ⟨0, rfl⟩
  | succ fuel induction =>
      unfold runUntil
      split
      · exact ⟨0, rfl⟩
      · split
        · exact ⟨0, rfl⟩
        next moves =>
          rcases induction with ⟨count, same⟩
          refine ⟨count + 1, ?_⟩
          rw [same, run, moves]

end Producer

namespace Stream

variable {stream : Stream}

theorem interfere_impatient (stream : Stream) (interference : Interference) :
    (stream.interfere interference).impatient = stream.impatient := by
  cases interference with
  | cancel => rfl
  | parse =>
      simp only [interfere]
      split <;> rfl

theorem foldl_interfere_impatient (before : List Interference) (stream : Stream) :
    (before.foldl interfere stream).impatient = stream.impatient := by
  induction before generalizing stream with
  | nil => rfl
  | cons interference rest induction =>
      rw [List.foldl_cons, induction, interfere_impatient]

theorem next_impatient (stream : Stream) : stream.next.2.impatient = stream.impatient := by
  unfold next
  split
  · rfl
  · exact foldl_interfere_impatient _ _

theorem reach_impatient (ready : Handoff → Bool) (stream : Stream) :
    (stream.reach ready).impatient = stream.impatient := by
  have same := stream.next_impatient
  unfold reach
  split
  next moves => rw [← same, moves]
  next moves => rw [← same, moves, runUntil]

theorem runUntil_of_ready {ready : Handoff → Bool} (done : ready stream.handoff = true) :
    stream.runUntil ready = stream := by
  rw [runUntil]
  cases fuel : stream.producer.patience <;> simp [Producer.runUntil, done]

theorem foldl_parse (count : Nat) (stream : Stream) :
    (List.replicate count Interference.parse).foldl interfere stream =
      { stream with
        producer := (stream.producer.run count stream.handoff).1
        handoff := (stream.producer.run count stream.handoff).2 } := by
  induction count generalizing stream with
  | zero => rfl
  | succ count induction =>
      rw [List.replicate_succ, List.foldl_cons, induction]
      cases steps : stream.producer.step? stream.handoff with
      | none =>
          simp only [interfere, steps, Producer.run_of_stuck steps]
      | some moved => simp only [interfere, steps, Producer.run]

theorem runUntil_eq_foldl (ready : Handoff → Bool) (stream : Stream) :
    ∃ before : List Interference, stream.runUntil ready = before.foldl interfere stream := by
  rcases Producer.exists_run_eq_runUntil ready stream.producer.patience with ⟨count, same⟩
  refine ⟨List.replicate count .parse, ?_⟩
  rw [foldl_parse, runUntil, same]

theorem next_of_patient (patient : stream.impatient = false) :
    ∃ before : List Interference,
      stream.next = (false, before.foldl interfere { stream with schedule := stream.schedule.tail })
      := by
  rcases stream with ⟨producer, handoff, impatient, schedule⟩
  cases patient
  cases schedule with
  | nil =>
      refine ⟨List.replicate producer.patience .parse, ?_⟩
      rw [foldl_parse]
      rfl
  | cons turn rest =>
      refine ⟨turn.before, ?_⟩
      simp only [next, Bool.and_false, List.tail_cons]

theorem reach_of_patient (patient : stream.impatient = false) (ready : Handoff → Bool) :
    ∃ before : List Interference, stream.reach ready =
      before.foldl interfere { stream with schedule := stream.schedule.tail } := by
  rcases next_of_patient patient with ⟨first, moves⟩
  rcases runUntil_eq_foldl ready (first.foldl interfere
    { stream with schedule := stream.schedule.tail }) with ⟨later, runs⟩
  refine ⟨first ++ later, ?_⟩
  rw [reach, moves, List.foldl_append, ← runs]

end Stream

/-! ## Waits without end -/

/-- An access that has its answer where a row is, and after a cancellation at the latest. -/
structure Answerable {α : Type} (access : Handoff → Option (α × Handoff)) (expired : α) : Prop where
  waits : ∀ {handoff}, handoff.Sound → access handoff = none → handoff.fetch? = none
  cancelled : ∀ {handoff}, access handoff = none →
    access handoff.cancel = some (expired, handoff.cancel)

theorem Answerable.fetch : Answerable fetch? expiredFetch where
  waits _ waits := waits
  cancelled := fetch?_cancel

theorem Answerable.metadata :
    Answerable (fun handoff => handoff.metadata?.map fun answer => (answer, handoff))
      expiredMetadata where
  waits sound waits := by
    rcases metadata_eq_none_iff.mp (Option.map_eq_none_iff.mp waits) with ⟨pending, streaming⟩
    exact fetch_eq_none_iff.mpr ⟨sound.slot_eq_none pending, streaming⟩
  cancelled waits := by
    rw [metadata?_cancel (Option.map_eq_none_iff.mp waits), Option.map_some]

namespace Stream

variable {α : Type} {stream : Stream} {access : Handoff → Option (α × Handoff)} {expired : α}

theorem await?_eq_none_iff :
    stream.await? access expired = none ↔
      let met := stream.reach fun handoff => (access handoff).isSome
      met.impatient = false ∧ access met.handoff = none := by
  unfold await?
  generalize stream.reach _ = met
  rcases met with ⟨producer, handoff, impatient, schedule⟩
  cases answered : access handoff <;> cases impatient <;> simp [answered]

theorem stops_of_patient (answerable : Answerable access expired)
    (patient : stream.impatient = false) (attends : stream.producer.Attends stream.handoff) :
    let met := stream.reach fun handoff => (access handoff).isSome
    (access met.handoff).isSome = true ∨ met.producer.step? met.handoff = none := by
  rcases next_of_patient patient with ⟨before, moves⟩
  have later := Producer.Attends.stable.next attends
  unfold reach
  rw [moves] at later ⊢
  have idle : ∀ {producer handoff}, Producer.Attends producer handoff →
      (access handoff).isSome = false → handoff.fetch? = none := fun attends waits =>
    answerable.waits attends.sound (by simpa using waits)
  have lasting := Producer.Attends.stable.toLasting
  exact Producer.runUntil_stops lasting later idle (Producer.weight_le_patience _)

/-- Without a limit a wait lasts for good only for a producer that waits for a cancellation itself.
As soon as somebody cancels, there is the answer that `await` gives. -/
theorem of_unanswered (answerable : Answerable access expired)
    (attends : stream.producer.Attends stream.handoff)
    (unanswered : stream.await? access expired = none) :
    stream.impatient = false ∧
      (∃ rest, (stream.reach fun handoff => (access handoff).isSome).producer =
        .running (.awaitCancel :: rest)) ∧
      ∃ turn, { stream with schedule := turn :: stream.schedule.tail }.await? access expired =
        some (stream.await access expired) := by
  rcases await?_eq_none_iff.mp unanswered with ⟨patient, waits⟩
  rw [reach_impatient] at patient
  refine ⟨patient, ?_, ?_⟩
  · have reached := Producer.Attends.stable.reach attends fun handoff => (access handoff).isSome
    rcases stops_of_patient answerable patient attends with done | stuck
    · rw [waits] at done
      cases done
    · exact Producer.awaits_of_stuck reached stuck (answerable.waits reached.sound waits)
  · rcases reach_of_patient patient fun handoff => (access handoff).isSome with ⟨before, reaches⟩
    refine ⟨⟨before ++ [.cancel], false⟩, ?_⟩
    rw [await_of_none rfl waits]
    have cancelled := answerable.cancelled waits
    generalize stream.reach _ = met at reaches waits cancelled ⊢
    have arrives : reach (fun handoff => (access handoff).isSome)
        { stream with schedule := ⟨before ++ [.cancel], false⟩ :: stream.schedule.tail } =
          { met with handoff := met.handoff.cancel } := by
      have moves : next { stream with
            schedule := ⟨before ++ [.cancel], false⟩ :: stream.schedule.tail } =
          (false, { met with handoff := met.handoff.cancel }) := by
        simp only [next, Bool.false_and, List.foldl_append, ← reaches]
        rfl
      rw [reach, moves]
      exact runUntil_of_ready (by rw [cancelled]; rfl)
    simp only [await?, arrives, cancelled]

theorem answered_of_hurries (answerable : Answerable access expired)
    (hurries : stream.producer.Hurries stream.handoff) : stream.await? access expired ≠ none := by
  intro unanswered
  rcases of_unanswered answerable hurries.toAttends unanswered with ⟨_, ⟨rest, waits⟩, _⟩
  have reached := Producer.Hurries.stable.reach hurries fun handoff => (access handoff).isSome
  exact reached.steps _ waits (.head rest)

end Stream

/-! ## Readers -/

namespace StreamReader

variable {α : Type} {access : Handoff → Option (α × Handoff)} {expired : α}

/-- Whatever was asked of a reader before, it waits for good only if its waits have no limit and its
parser waits for a cancellation somewhere. A cancellation gives it the answer of `await` then. -/
theorem awaitCancel_mem_of_unanswered (answerable : Answerable access expired)
    (steps : List ParserStep) (impatient : Bool) (schedule : List Turn) (calls : List ReaderCall) :
    let stream := (answers calls (scheduled steps impatient schedule)).2.stream
    stream.await? access expired = none →
      stream.impatient = false ∧ .awaitCancel ∈ steps ∧
        ∃ turn, { stream with schedule := turn :: stream.schedule.tail }.await? access expired =
          some (stream.await access expired) := by
  intro stream unanswered
  have fresh : (scheduled steps impatient schedule).Meets Producer.Attends := .start steps
  have attends : stream.producer.Attends stream.handoff :=
    fresh.answers Producer.Attends.stable calls
  rcases Stream.of_unanswered answerable attends unanswered with ⟨patient, _, turn⟩
  refine ⟨patient, ?_, turn⟩
  apply Classical.byContradiction
  intro never
  have quick : (scheduled steps impatient schedule).Meets Producer.Hurries := .start never
  have hurries : stream.producer.Hurries stream.handoff :=
    quick.answers Producer.Hurries.stable calls
  exact Stream.answered_of_hurries answerable hurries unanswered

theorem answered_unless_awaitCancel {steps : List ParserStep} (never : .awaitCancel ∉ steps)
    (impatient : Bool) (schedule : List Turn) (calls : List ReaderCall) :
    let stream := (answers calls (scheduled steps impatient schedule)).2.stream
    stream.await? fetch? expiredFetch ≠ none ∧
      stream.await? (fun handoff => handoff.metadata?.map fun answer => (answer, handoff))
        expiredMetadata ≠ none := by
  have waits {α : Type} {access : Handoff → Option (α × Handoff)} {expired : α}
      (answerable : Answerable access expired) :=
    awaitCancel_mem_of_unanswered answerable steps impatient schedule calls
  exact ⟨fun unanswered => never (waits .fetch unanswered).2.1,
    fun unanswered => never (waits .metadata unanswered).2.1⟩

end StreamReader

end TableIntake
