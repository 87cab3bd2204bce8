import TableIntake.Proofs.Stream.Remaining

/-! # Rows to come

The rows that a reader can still get of a stream, in their order: the one in the slot, and those
that the parser has yet to hand over. Others cut them short, but change nothing before the cut. Each
row that the reader gets is the first of them.
-/

namespace TableIntake

open Handoff

def ParserStep.handed : ParserStep → List Row
  | .row cells | .tryRow cells => [cells]
  | .count next =>
      (List.range' next (countEnd - next)).map fun number => [.int (Int32.ofNat number)]
  | _ => []

theorem ParserStep.handed_count {next : Nat} (below : next < countEnd) :
    (ParserStep.count next).handed =
      [.int (Int32.ofNat next)] :: (ParserStep.count (next + 1)).handed := by
  have more : countEnd - next = countEnd - (next + 1) + 1 := by omega
  rw [handed, handed, more, List.range'_succ, List.map_cons]

namespace Handoff

/-- What a row that is offered comes to: after the end nothing, before it the end or its place in
the slot. -/
inductive Offered (row : Row) (before : Handoff) : Handoff → Prop
  | late : before.isStreaming = false → Offered row before before
  | last {after : Handoff} :
      after.isStreaming = false → after.slot = none → Offered row before after
  | held : before.isStreaming = true → before.slot = none →
      Offered row before { before with slot := some row }

theorem offered_of_acceptRow {row : Row} {reply : Reply} {before after : Handoff}
    (accepts : before.acceptRow? row = some (reply, after)) : Offered row before after := by
  unfold acceptRow? at accepts
  split at accepts
  case h_1 streaming =>
    split at accepts
    · cases accepts
    next free =>
      have free : before.slot = none := by simpa using free
      split at accepts
      · cases accepts
        exact .last rfl free
      · split at accepts <;> cases accepts
        · exact .last rfl free
        · exact .held (by simp [isStreaming, streaming]) free
  all_goals
    cases accepts
    exact .late (by simp [isStreaming, *])

end Handoff

namespace Producer

def handed : Producer → List Row
  | .running steps => steps.flatMap ParserStep.handed
  | .settled | .gone => []

/-- The rows that a reader can still get. -/
def coming (producer : Producer) (handoff : Handoff) : List Row :=
  handoff.slot.toList ++ if handoff.isStreaming then producer.handed else []

variable {producer next : Producer} {before after : Handoff}

theorem handed_cons (step : ParserStep) (rest : List ParserStep) :
    (running (step :: rest)).handed = step.handed ++ (running rest).handed :=
  List.flatMap_cons

theorem handed_of_left (left : producer.isRunning = false) : producer.handed = [] := by
  cases producer with
  | running => contradiction
  | settled | gone => rfl

theorem coming_of_stopped (producer : Producer) (stopped : before.isStreaming = false) :
    producer.coming before = before.slot.toList := by
  rw [coming, stopped, if_neg Bool.false_ne_true, List.append_nil]

theorem coming_of_streaming (producer : Producer) (streaming : before.isStreaming = true)
    (free : before.slot = none) : producer.coming before = producer.handed := by
  rw [coming, streaming, if_pos rfl, free, Option.toList_none, List.nil_append]

theorem handed_resume {rest : List ParserStep} {replied : Option (Reply × Handoff)}
    (steps : replied.map (resume rest) = some (next, after)) :
    next.handed <+: (running rest).handed := by
  rcases Option.map_eq_some_iff.mp steps with ⟨⟨reply, handoff⟩, _, equal⟩
  cases reply <;> cases equal
  · exact List.prefix_refl _
  · exact List.nil_prefix

theorem handed_step (idle : ∀ row, producer.call? before ≠ some (.acceptRow row))
    (steps : producer.step? before = some (next, after)) : next.handed <+: producer.handed := by
  cases producer with
  | gone => cases steps
  | settled =>
      cases steps
      exact List.nil_prefix
  | running remaining =>
      cases remaining with
      | nil =>
          cases steps
          exact List.nil_prefix
      | cons step rest =>
          rw [handed_cons]
          rcases next_cases steps with left | rfl | ⟨number, below, rfl, _⟩
          · rw [handed_of_left left]
            exact List.nil_prefix
          · cases step with
            | row row | tryRow row => exact absurd rfl (idle row)
            | count number =>
                have beyond : ¬number < ParserStep.countEnd := fun below => idle _ (if_pos below)
                rw [ParserStep.handed, Nat.sub_eq_zero_of_le (Nat.le_of_not_lt beyond)]
                exact List.prefix_refl _
            | _ => exact List.prefix_refl _
          · exact absurd (if_pos below) (idle _)

theorem handed_offer {row : Row} (offers : producer.call? before = some (.acceptRow row))
    (steps : producer.step? before = some (next, after)) :
    ∃ later, producer.handed = row :: later ∧ next.handed <+: later := by
  cases producer with
  | gone | settled => cases offers
  | running remaining =>
      cases remaining with
      | nil => cases offers
      | cons step rest =>
          cases step with
          | row cells =>
              cases offers
              exact ⟨_, rfl, handed_resume steps⟩
          | tryRow cells =>
              cases offers
              rcases Option.map_eq_some_iff.mp steps with ⟨_, _, equal⟩
              cases equal
              exact ⟨_, rfl, List.prefix_refl _⟩
          | count number =>
              simp only [call?] at offers
              split at offers
              next below =>
                cases offers
                refine ⟨(running (.count (number + 1) :: rest)).handed, ?_, ?_⟩
                · rw [handed_cons, ParserStep.handed_count below, List.cons_append, handed_cons]
                · rw [step?, if_pos below] at steps
                  exact handed_resume steps
              · contradiction
          | fail fault =>
              simp only [call?] at offers
              split at offers <;> cases offers
          | _ => cases offers

theorem coming_of_fewer (handoff : Handoff) (fewer : next.handed <+: producer.handed) :
    next.coming handoff <+: producer.coming handoff := by
  rw [coming, coming]
  split
  · exact (List.prefix_append_right_inj _).mpr fewer
  · exact List.prefix_refl _

theorem coming_cancel (producer : Producer) (handoff : Handoff) :
    producer.coming handoff.cancel = [] := by
  rw [coming_of_stopped producer (cancel_isStreaming handoff), cancel_slot, Option.toList_none]

theorem coming_of_change {event : Event} (change : Change before event after)
    (idle : event.accepted = []) (kept : event.delivered = [])
    (fewer : next.handed <+: producer.handed) :
    next.coming after <+: producer.coming before := by
  cases change with
  | nothing | resolved => exact coming_of_fewer before fewer
  | stopped _ _ _ stops =>
      rw [coming_of_stopped next (by simpa [isStreaming] using stops)]
      exact List.prefix_append _ _
  | cleared _ _ cancelled =>
      rw [coming_of_stopped next (by simp [isStreaming, cancelled])]
      exact List.nil_prefix
  | filled _ _ _ cells => simp [Event.accepted, cells] at idle
  | emptied => cases kept
  | cancelled | expired =>
      rw [coming_cancel]
      exact List.nil_prefix

theorem coming_of_offered {row : Row} {later : List Row} (offered : Offered row before after)
    (first : producer.handed = row :: later) (fewer : next.handed <+: later) :
    next.coming after <+: producer.coming before := by
  cases offered with
  | late stopped =>
      have same : next.coming before = producer.coming before :=
        (coming_of_stopped next stopped).trans (coming_of_stopped producer stopped).symm
      exact same ▸ List.prefix_refl _
  | last stopped free =>
      rw [coming_of_stopped next stopped, free]
      exact List.nil_prefix
  | held streaming free =>
      have going : Handoff.isStreaming { before with slot := some row } = true := streaming
      rw [coming_of_streaming producer streaming free, first, coming, if_pos going]
      exact List.cons_prefix_cons.mpr ⟨rfl, fewer⟩

theorem call?_ne_fetch (producer : Producer) (handoff : Handoff) :
    producer.call? handoff ≠ some .fetch := by
  unfold call?
  repeat' split
  all_goals nofun

/-- What is to come after a step is a beginning of what was to come before it. -/
theorem coming_step (steps : producer.step? before = some (next, after)) :
    next.coming after <+: producer.coming before := by
  cases took steps with
  | silent calls => exact coming_of_fewer before (handed_step (by simp [calls]) steps)
  | @called call answer _ calls passes _ =>
      cases call with
      | acceptRow row =>
          rcases Option.map_eq_some_iff.mp passes with ⟨⟨reply, handoff⟩, accepts, equal⟩
          cases equal
          rcases handed_offer calls steps with ⟨later, first, fewer⟩
          exact coming_of_offered (offered_of_acceptRow accepts) first fewer
      | fetch => exact absurd calls (call?_ne_fetch producer before)
      | _ =>
          have fewer := handed_step (by simp [calls]) steps
          exact coming_of_change (Move.passed passes).change rfl rfl fewer

theorem coming_lasting (rows : List Row) :
    Lasting fun producer handoff => producer.coming handoff <+: rows where
  step begins steps := (coming_step steps).trans begins
  stop {producer handoff} _ := by
    rw [coming_cancel]
    exact List.nil_prefix

theorem coming_of_fetch {row : Row} (producer : Producer)
    (fetches : before.fetch? = some (.ok (.row row), after)) :
    producer.coming before = row :: producer.coming after := by
  rcases taken_of_fetch fetches with ⟨occupied, rfl⟩
  simp only [coming, occupied, Option.toList_some, Option.toList_none, List.nil_append]
  rfl

end Producer

/-! ## Streams -/

namespace Stream

def coming (stream : Stream) : List Row :=
  stream.producer.coming stream.handoff

theorem coming_metadata (stream : Stream) : stream.metadata.2.coming <+: stream.coming :=
  (Producer.coming_lasting _).metadata (List.prefix_refl _)

theorem coming_fetch {stream : Stream} {row : Row} (told : stream.fetch.1 = .ok (.row row)) :
    row :: stream.fetch.2.coming <+: stream.coming := by
  have begins : stream.producer.coming stream.handoff <+: stream.coming := List.prefix_refl _
  rcases (Producer.coming_lasting stream.coming).fetch_told begins told nofun with
    ⟨met, reached, fetches⟩
  rwa [Producer.coming_of_fetch _ fetches] at reached

end Stream

end TableIntake
