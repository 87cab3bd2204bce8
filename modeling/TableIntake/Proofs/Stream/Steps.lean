import TableIntake.Proofs.Handoff.History
import TableIntake.Stream.Basic

/-! # Steps of streams

Whatever a stream does to its handoff is a run of calls: those of its producer, those of
other threads, and those of its reader.
-/

namespace TableIntake

open Handoff

theorem Session.step?_fetch {before after : Handoff} {answer : Except ReadFault Fetched}
    (fetches : before.fetch? = some (answer, after)) :
    Session.step? .fetch before = some (Session.ofFetch answer, after) := by
  simp [Session.step?, fetches]

namespace Handoff

theorem finish_isStreaming (handoff : Handoff) : handoff.finish.isStreaming = false := by
  unfold finish
  split
  · rfl
  next stopped => simpa using stopped

theorem fail_isStreaming (fault : ParseFault) (handoff : Handoff) :
    (handoff.fail fault).isStreaming = false := by
  unfold fail
  split
  · rfl
  next stopped => simpa using stopped

theorem cancel_isStreaming (handoff : Handoff) : handoff.cancel.isStreaming = false := by
  unfold cancel
  split
  · rfl
  next stopped => simpa [isStreaming] using stopped

def Leads (before after : Handoff) : Prop :=
  ∃ events, Run before events after

namespace Leads

theorem refl (handoff : Handoff) : Leads handoff handoff :=
  ⟨[], .nil handoff⟩

theorem trans {before middle after : Handoff} (first : Leads before middle)
    (second : Leads middle after) : Leads before after := by
  rcases first with ⟨past, first⟩
  rcases second with ⟨rest, second⟩
  exact ⟨past ++ rest, first.trans second⟩

theorem ofStep {before after : Handoff} {call : Session.Call} {answer : Session.Answer}
    (passes : Session.step? call before = some (answer, after)) : Leads before after :=
  ⟨_, .single (.passed passes)⟩

theorem cancel (handoff : Handoff) : Leads handoff handoff.cancel :=
  ⟨[.passed .cancel .done], .single (.passed rfl)⟩

theorem sound {before after : Handoff} (leads : Leads before after)
    (sound : before.Sound) : after.Sound := by
  rcases leads with ⟨events, run⟩
  exact run.sound sound

theorem phase_eq {before after : Handoff} (leads : Leads before after)
    (stopped : before.phase ≠ .streaming) : after.phase = before.phase := by
  rcases leads with ⟨events, run⟩
  exact run.phase_eq stopped

end Leads

end Handoff

/-! ## Producers -/

namespace Producer

def call? (producer : Producer) (handoff : Handoff) : Option Session.Call :=
  match producer with
  | .gone | .running [] => none
  | .settled => some .finish
  | .running (step :: _) =>
      match step with
      | .metadata header | .tryMetadata header => some (.acceptMetadata header)
      | .row row | .tryRow row => some (.acceptRow row)
      | .endRows => some .endRows
      | .checkpoint | .awaitCancel => some .isCancelled
      | .fail fault =>
          if fault.isAborted || handoff.isCancelled then none else some (.fail fault)
      | .leave => none
      | .crash => some (.fail parserPanicked)
      | .count next =>
          if next < ParserStep.countEnd then some (.acceptRow [.int (Int32.ofNat next)])
          else none

structure Proceeds (proceed : Reply × Handoff → Producer × Handoff) : Prop where
  handoff : ∀ replied, (proceed replied).2 = replied.2
  blind : ∀ reply left right, (proceed (reply, left)).1 = (proceed (reply, right)).1
  stays : ∀ replied, (proceed replied).1.isGone = false

theorem resume_proceeds (rest : List ParserStep) : Proceeds (resume rest) where
  handoff replied := by
    rcases replied with ⟨reply, handoff⟩
    cases reply <;> rfl
  blind reply _ _ := by cases reply <;> rfl
  stays replied := by
    rcases replied with ⟨reply, handoff⟩
    cases reply <;> rfl

theorem goOn_proceeds (rest : List ParserStep) : Proceeds (goOn rest) where
  handoff _ := rfl
  blind _ _ _ := rfl
  stays _ := rfl

/-- What the step of a producer to `next` comes to. It is the call that it makes, and
without one it leaves the handoff alone. The producer leaves only with a call that ends the
stream. -/
inductive Took (producer : Producer) (before : Handoff) : Producer → Handoff → Prop
  | called {next : Producer} {call : Session.Call} {answer : Session.Answer} {after : Handoff} :
      producer.call? before = some call →
      Session.step? call before = some (answer, after) →
      (next.isGone = true → after.isStreaming = false) →
      Took producer before next after
  | silent {next : Producer} :
      producer.call? before = none →
      next.isGone = false →
      Took producer before next before

section

variable {producer next : Producer} {before after : Handoff}
  {proceed : Reply × Handoff → Producer × Handoff}

theorem Took.offer {row : Row} (proceeds : Proceeds proceed)
    (calls : producer.call? before = some (.acceptRow row))
    (steps : (before.acceptRow? row).map proceed = some (next, after)) :
    producer.Took before next after := by
  rcases Option.map_eq_some_iff.mp steps with ⟨⟨reply, handoff⟩, accepts, equal⟩
  have same := proceeds.handoff (reply, handoff)
  have stays := proceeds.stays (reply, handoff)
  rw [equal] at same stays
  subst same
  have passes : Session.step? (.acceptRow row) before = some (Session.ofReply reply, after) := by
    simp [Session.step?, accepts]
  exact .called calls passes (by simp [stays])

theorem Took.announce {header : Header} (proceeds : Proceeds proceed)
    (calls : producer.call? before = some (.acceptMetadata header))
    (steps : some (proceed (before.acceptMetadata header)) = some (next, after)) :
    producer.Took before next after := by
  have equal := Option.some.inj steps
  have same := proceeds.handoff (before.acceptMetadata header)
  have stays := proceeds.stays (before.acceptMetadata header)
  rw [equal] at same stays
  subst same
  exact .called calls rfl (by simp [stays])

theorem took (steps : producer.step? before = some (next, after)) :
    producer.Took before next after := by
  cases producer with
  | gone => contradiction
  | settled =>
      cases steps
      exact .called rfl rfl fun _ => finish_isStreaming before
  | running remaining =>
      cases remaining with
      | nil =>
          cases steps
          exact .silent rfl rfl
      | cons step rest =>
          cases step with
          | metadata header => exact .announce (resume_proceeds rest) rfl steps
          | tryMetadata header => exact .announce (goOn_proceeds rest) rfl steps
          | row row => exact .offer (resume_proceeds rest) rfl steps
          | tryRow row => exact .offer (goOn_proceeds rest) rfl steps
          | endRows =>
              cases steps
              exact .called rfl rfl nofun
          | checkpoint =>
              cases steps
              exact .called rfl rfl (by split <;> nofun)
          | fail fault =>
              cases steps
              by_cases excused : (fault.isAborted || before.isCancelled) = true
              · rw [report, if_pos excused]
                exact .silent (if_pos excused) rfl
              · rw [report, if_neg excused]
                exact .called (if_neg excused) rfl nofun
          | leave =>
              cases steps
              exact .silent rfl rfl
          | crash =>
              cases steps
              exact .called rfl rfl fun _ => fail_isStreaming parserPanicked before
          | awaitCancel =>
              simp only [step?] at steps
              split at steps
              · cases steps
                exact .called rfl rfl nofun
              · contradiction
          | count next =>
              simp only [step?] at steps
              split at steps
              next below => exact .offer (resume_proceeds _) (if_pos below) steps
              next beyond =>
                cases steps
                exact .silent (if_neg beyond) rfl

theorem Took.leads (took : producer.Took before next after) : Leads before after := by
  cases took with
  | called _ passes => exact .ofStep passes
  | silent => exact .refl before

theorem step_leads (steps : producer.step? before = some (next, after)) : Leads before after :=
  (took steps).leads

end

end Producer

/-! ## Streams -/

namespace Stream

variable {α : Type} {access : Handoff → Option (α × Handoff)} {expired answer : α}
  {stream met : Stream} {handoff : Handoff}

theorem await_of_some (reaches : stream.reach (fun handoff => (access handoff).isSome) = met)
    (answered : access met.handoff = some (answer, handoff)) :
    stream.await access expired = (answer, { met with handoff := handoff }) := by
  simp only [await, await?, reaches, answered]

theorem await_of_none (reaches : stream.reach (fun handoff => (access handoff).isSome) = met)
    (waits : access met.handoff = none) :
    stream.await access expired = (expired, { met with handoff := met.handoff.cancel }) := by
  simp only [await, await?, reaches, waits]
  cases met.impatient <;> rfl

end Stream

/-- What the producer and whoever cancels keep. -/
structure Lasting (Holds : Producer → Handoff → Prop) : Prop where
  step : ∀ {producer next before after}, Holds producer before →
    producer.step? before = some (next, after) → Holds next after
  stop : ∀ {producer handoff}, Holds producer handoff → Holds producer handoff.cancel

structure Stable (Holds : Producer → Handoff → Prop) : Prop extends Lasting Holds where
  take : ∀ {producer before after answer}, Holds producer before →
    before.fetch? = some (answer, after) → Holds producer after

namespace Lasting

variable {Holds : Producer → Handoff → Prop} {producer : Producer} {before : Handoff}
  {stream : Stream}

theorem run (lasting : Lasting Holds) (holds : Holds producer before) (fuel : Nat) :
    Holds (producer.run fuel before).1 (producer.run fuel before).2 := by
  induction fuel generalizing producer before with
  | zero => exact holds
  | succ fuel induction =>
      unfold Producer.run
      split
      · exact holds
      next steps => exact induction (lasting.step holds steps)

theorem runUntil (lasting : Lasting Holds) (holds : Holds producer before)
    (ready : Handoff → Bool) (fuel : Nat) :
    Holds (producer.runUntil ready fuel before).1 (producer.runUntil ready fuel before).2 := by
  induction fuel generalizing producer before with
  | zero => exact holds
  | succ fuel induction =>
      unfold Producer.runUntil
      split
      · exact holds
      · split
        · exact holds
        next steps => exact induction (lasting.step holds steps)

theorem interfere (lasting : Lasting Holds) (holds : Holds stream.producer stream.handoff)
    (interference : Interference) :
    Holds (stream.interfere interference).producer (stream.interfere interference).handoff := by
  cases interference with
  | cancel => exact lasting.stop holds
  | parse =>
      simp only [Stream.interfere]
      split
      · exact holds
      next steps => exact lasting.step holds steps

theorem foldl_interfere (lasting : Lasting Holds) (holds : Holds stream.producer stream.handoff)
    (before : List Interference) :
    Holds (before.foldl Stream.interfere stream).producer
      (before.foldl Stream.interfere stream).handoff := by
  induction before generalizing stream with
  | nil => exact holds
  | cons interference rest induction => exact induction (lasting.interfere holds interference)

theorem next (lasting : Lasting Holds) (holds : Holds stream.producer stream.handoff) :
    Holds stream.next.2.producer stream.next.2.handoff := by
  unfold Stream.next
  split
  · exact lasting.run holds _
  next turn rest _ =>
    have waiting : Holds { stream with schedule := rest }.producer
        { stream with schedule := rest }.handoff := holds
    exact lasting.foldl_interfere waiting turn.before

theorem reach (lasting : Lasting Holds) (holds : Holds stream.producer stream.handoff)
    (ready : Handoff → Bool) :
    Holds (stream.reach ready).producer (stream.reach ready).handoff := by
  have waits := lasting.next holds
  unfold Stream.reach
  rcases stepped : stream.next with ⟨expires, waiting⟩
  rw [stepped] at waits
  cases expires with
  | true => exact waits
  | false => exact lasting.runUntil waits ready _

/-- An access meets the handoff that the other threads have led to. It gets its answer
there, or it runs out and cancels. -/
theorem await_cases {α : Type} (lasting : Lasting Holds)
    (holds : Holds stream.producer stream.handoff) (access : Handoff → Option (α × Handoff))
    (expired : α) :
    ∃ met, Holds (stream.await access expired).2.producer met ∧
      (access met =
          some ((stream.await access expired).1, (stream.await access expired).2.handoff) ∨
        access met = none ∧ (stream.await access expired).1 = expired ∧
          (stream.await access expired).2.handoff = met.cancel) := by
  have reached := lasting.reach holds fun handoff => (access handoff).isSome
  rcases reaches : stream.reach fun handoff => (access handoff).isSome with met
  rw [reaches] at reached
  refine ⟨met.handoff, ?_⟩
  cases answered : access met.handoff with
  | none =>
      rw [Stream.await_of_none reaches answered]
      exact ⟨reached, .inr ⟨rfl, rfl, rfl⟩⟩
  | some result =>
      rw [Stream.await_of_some reaches answered]
      exact ⟨reached, .inl rfl⟩

theorem await {α : Type} (lasting : Lasting Holds) (holds : Holds stream.producer stream.handoff)
    (access : Handoff → Option (α × Handoff)) (expired : α)
    (keeps : ∀ {producer met answer after}, Holds producer met →
      access met = some (answer, after) → Holds producer after) :
    Holds (stream.await access expired).2.producer (stream.await access expired).2.handoff := by
  rcases lasting.await_cases holds access expired with ⟨met, reached, answered | ⟨_, _, cut⟩⟩
  · exact keeps reached answered
  · rw [cut]
    exact lasting.stop reached

theorem metadata (lasting : Lasting Holds) (holds : Holds stream.producer stream.handoff) :
    Holds stream.metadata.2.producer stream.metadata.2.handoff := by
  apply lasting.await holds
  intro producer met answer after reached answered
  rcases Option.map_eq_some_iff.mp answered with ⟨_, _, equal⟩
  cases equal
  exact reached

theorem fetch_told (lasting : Lasting Holds) (holds : Holds stream.producer stream.handoff)
    {answer : Except ReadFault Fetched} (told : stream.fetch.1 = answer)
    (inTime : answer ≠ expiredFetch) :
    ∃ met, Holds stream.fetch.2.producer met ∧
      met.fetch? = some (answer, stream.fetch.2.handoff) := by
  subst told
  rcases lasting.await_cases holds fetch? expiredFetch with
    ⟨met, reached, answered | ⟨_, expired, _⟩⟩
  · exact ⟨met, reached, answered⟩
  · exact absurd expired inTime

theorem metadata_told (lasting : Lasting Holds) (holds : Holds stream.producer stream.handoff)
    {answer : Except ReadFault (Option Metadata)} (told : stream.metadata.1 = answer)
    (inTime : answer ≠ expiredMetadata) :
    ∃ met, Holds stream.metadata.2.producer met ∧ met.metadata? = some answer := by
  subst told
  rcases lasting.await_cases holds
    (fun handoff => handoff.metadata?.map fun answer => (answer, handoff)) expiredMetadata with
    ⟨met, reached, answered | ⟨_, expired, _⟩⟩
  · rcases Option.map_eq_some_iff.mp answered with ⟨answer, known, equal⟩
    obtain rfl : answer = stream.metadata.1 := congrArg Prod.fst equal
    exact ⟨met, reached, known⟩
  · exact absurd expired inTime

theorem cancel (lasting : Lasting Holds) (holds : Holds stream.producer stream.handoff) :
    Holds stream.cancel.producer stream.cancel.handoff :=
  lasting.stop (lasting.next holds)

end Lasting

theorem Stable.fetch {Holds : Producer → Handoff → Prop} {stream : Stream} (stable : Stable Holds)
    (holds : Holds stream.producer stream.handoff) :
    Holds stream.fetch.2.producer stream.fetch.2.handoff :=
  stable.await holds _ _ stable.take

namespace Handoff

theorem Leads.stable (start : Handoff) : Stable fun _ handoff => Leads start handoff where
  step reached steps := reached.trans (Producer.step_leads steps)
  take reached fetches := reached.trans (.ofStep (Session.step?_fetch fetches))
  stop reached := reached.trans (.cancel _)

end Handoff

namespace Stream

theorem cancel_leads (stream : Stream) : Leads stream.handoff stream.cancel.handoff :=
  (Leads.stable _).cancel (.refl _)

theorem await_cases {α : Type} (access : Handoff → Option (α × Handoff)) (expired : α)
    (stream : Stream) :
    ∃ met, Leads stream.handoff met ∧
      (access met =
          some ((stream.await access expired).1, (stream.await access expired).2.handoff) ∨
        access met = none ∧ (stream.await access expired).1 = expired ∧
          (stream.await access expired).2.handoff = met.cancel) :=
  (Leads.stable _).await_cases (.refl _) access expired

theorem metadata_leads (stream : Stream) :
    Leads stream.handoff stream.metadata.2.handoff :=
  (Leads.stable _).metadata (.refl _)

theorem fetch_leads (stream : Stream) : Leads stream.handoff stream.fetch.2.handoff :=
  (Leads.stable _).fetch (.refl _)

end Stream

end TableIntake
