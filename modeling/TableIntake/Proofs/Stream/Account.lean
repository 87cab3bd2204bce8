import TableIntake.Proofs.Handoff.Announcement
import TableIntake.Proofs.Stream.Steps

/-! # Accounts

What a parser tells from first to last, and what a reader that nobody cancels gets of it.
The producer may be ahead by one row, done with its rows, or gone: what the reader has yet to
learn is the same in all of these states.
-/

namespace TableIntake

open Handoff

/-- The header of a table, if its parser has one, its rows, and the fault that the parser
leaves with, if it does not simply return. -/
structure Account where
  header : Option Header
  rows : List Row
  fault : Option ParseFault

/-- The steps of a parser that gives its header before its rows, hands over its rows, none of
them without cells, and then ends them or leaves. It may look for a cancellation at any time. -/
inductive Tells : List ParserStep → Account → Prop
  | returned : Tells [] ⟨none, [], none⟩
  | leave {rest : List ParserStep} : Tells (.leave :: rest) ⟨none, [], none⟩
  | fail {fault : ParseFault} {rest : List ParserStep} :
      fault.isAborted = false →
      Tells (.fail fault :: rest) ⟨none, [], some fault⟩
  | crash {rest : List ParserStep} :
      Tells (.crash :: rest) ⟨none, [], some Producer.parserPanicked⟩
  | endRows {rest : List ParserStep} :
      Tells rest ⟨none, [], none⟩ →
      Tells (.endRows :: rest) ⟨none, [], none⟩
  | row {row : Row} {rest : List ParserStep} {rows : List Row} {fault : Option ParseFault} :
      row.isEmpty = false →
      Tells rest ⟨none, rows, fault⟩ →
      Tells (.row row :: rest) ⟨none, row :: rows, fault⟩
  | metadata {header : Header} {rest : List ParserStep} {rows : List Row}
      {fault : Option ParseFault} :
      Tells rest ⟨none, rows, fault⟩ →
      Tells (.metadata header :: rest) ⟨some header, rows, fault⟩
  | checkpoint {rest : List ParserStep} {account : Account} :
      Tells rest account →
      Tells (.checkpoint :: rest) account

namespace Tells

theorem rows {steps : List ParserStep} {before after : List Row} {fault : Option ParseFault}
    (cells : ∀ row ∈ before, row ≠ []) (rest : Tells steps ⟨none, after, fault⟩) :
    Tells (before.map .row ++ steps) ⟨none, before ++ after, fault⟩ := by
  induction before with
  | nil => exact rest
  | cons row before induction =>
      refine .row ?_ (induction fun other member => cells other (.tail row member))
      exact List.isEmpty_eq_false_iff.mpr (cells row (.head before))

theorem ofRows (header : Header) {rows : List Row} (cells : ∀ row ∈ rows, row ≠ []) :
    Tells (.metadata header :: rows.map .row ++ [.endRows]) ⟨some header, rows, none⟩ := by
  have told := Tells.rows cells (.endRows .returned)
  rw [List.append_nil] at told
  exact .metadata told

end Tells

/-! ## Prospects -/

/-- What a reader has yet to get from a stream: its metadata, unless they stay unknown, and
rows up to an end or a fault. -/
structure Prospect where
  metadata : MetadataSlot
  rows : List Row
  fault : Option ParseFault

namespace Prospect

def known (prospect : Prospect) : Except ReadFault (Option Metadata) :=
  match prospect.metadata, prospect.fault with
  | .ready columns, _ => .ok (some columns)
  | .refused fault, _ => .error (.schema fault)
  | .pending, some fault => .error (.parse fault)
  | .pending, none => .ok none

def next (prospect : Prospect) : Except ReadFault Fetched :=
  match prospect.rows, prospect.fault with
  | row :: _, _ => .ok (.row row)
  | [], some fault => .error (.parse fault)
  | [], none => .ok .ended

def rest (prospect : Prospect) : Prospect :=
  { prospect with rows := prospect.rows.tail }

end Prospect

def Account.prospect (account : Account) : Prospect :=
  match account.header, account.rows with
  | some header, rows => ⟨.ofHeader header, rows, account.fault⟩
  | none, [] => ⟨.pending, [], account.fault⟩
  | none, _ :: _ => ⟨.pending, [], some prematureRow⟩

namespace Handoff

theorem acceptMetadata_fresh (header : Header) :
    acceptMetadata header {} = (.accepted, { metadata := .ofHeader header }) := by
  unfold acceptMetadata MetadataSlot.ofHeader
  simp only [isCancelled, isPending, decide_true, if_true, reduceCtorEq, decide_false,
    Bool.false_eq_true, if_false]
  cases header.metadata <;> rfl

def endPhase : Option ParseFault → Phase
  | none => .ended
  | some fault => .failed fault

theorem endPhase_ne_streaming (fault : Option ParseFault) : endPhase fault ≠ .streaming := by
  cases fault <;> simp [endPhase]

theorem endPhase_ne_cancelled (fault : Option ParseFault) : endPhase fault ≠ .cancelled := by
  cases fault <;> simp [endPhase]

end Handoff

namespace Producer

inductive Silent : Producer → Prop
  | gone : Silent .gone
  | settled : Silent .settled
  | running {steps : List ParserStep} : Tells steps ⟨none, [], none⟩ → Silent (.running steps)

/-- A producer at a handoff that nobody has cancelled, and what its reader has yet to get. -/
inductive Owes : Producer → Handoff → Prospect → Prop
  | fresh {steps : List ParserStep} {account : Account} :
      Tells steps account →
      Owes (.running steps) {} account.prospect
  | telling {steps : List ParserStep} {rows : List Row} {fault : Option ParseFault}
      {handoff : Handoff} :
      Tells steps ⟨none, rows, fault⟩ →
      handoff.phase = .streaming → handoff.metadata ≠ .pending →
      Owes (.running steps) handoff ⟨handoff.metadata, handoff.slot.toList ++ rows, fault⟩
  | leaving {handoff : Handoff} :
      handoff.phase = .streaming →
      Owes .settled handoff ⟨handoff.metadata, handoff.slot.toList, none⟩
  | ended {producer : Producer} {handoff : Handoff} {fault : Option ParseFault} :
      producer.Silent →
      handoff.phase = Handoff.endPhase fault →
      Owes producer handoff ⟨handoff.metadata, handoff.slot.toList, fault⟩

def weight : Producer → Nat
  | .running steps => steps.length + 2
  | .settled => 1
  | .gone => 0

theorem weight_le_patience (producer : Producer) : producer.weight ≤ producer.patience := by
  cases producer <;> simp only [weight, patience] <;> omega

/-- What a step of the producer must keep: the reader loses nothing, and the producer comes
closer to its end. -/
structure Keeps (producer next : Producer) (after : Handoff) (prospect : Prospect) : Prop where
  owes : next.Owes after prospect
  weight : next.weight < producer.weight

variable {producer next : Producer} {handoff before after : Handoff} {prospect : Prospect}

theorem Silent.step (silent : producer.Silent) {fault : Option ParseFault}
    (ended : before.phase = Handoff.endPhase fault)
    (steps : producer.step? before = some (next, after)) :
    after = before ∧ next.Silent ∧ next.weight < producer.weight := by
  have uncancelled : before.isCancelled = false := by
    simp [isCancelled, ended, endPhase_ne_cancelled]
  have stopped : before.isStreaming = false := by
    simp [isStreaming, ended, endPhase_ne_streaming]
  cases silent with
  | gone => cases steps
  | settled =>
      cases steps
      exact ⟨by simp [finish, stopped], .gone, by simp [Producer.weight]⟩
  | running tells =>
      cases tells with
      | returned | leave =>
          cases steps
          exact ⟨rfl, .settled, by simp [Producer.weight]⟩
      | endRows rest =>
          cases steps
          refine ⟨?_, .running rest, by simp [Producer.weight]⟩
          cases fault <;> simp [endRows, ended, Handoff.endPhase]
      | checkpoint rest =>
          simp only [step?, uncancelled] at steps
          cases steps
          exact ⟨rfl, .running rest, by simp [Producer.weight]⟩

namespace Owes

theorem step_fresh {steps : List ParserStep} {account : Account} (tells : Tells steps account)
    (moves : (running steps).step? {} = some (next, after)) :
    (running steps).Keeps next after account.prospect := by
  -- Before its first call a producer may still be without metadata. A row then fails the stream.
  cases tells with
  | returned | leave =>
      cases moves
      exact ⟨.leaving rfl, by simp [weight]⟩
  | fail blamed =>
      simp only [step?, report, blamed] at moves
      cases moves
      exact ⟨.ended .settled rfl, by simp [weight]⟩
  | crash =>
      cases moves
      exact ⟨.ended .gone rfl, by simp [weight]⟩
  | endRows rest =>
      cases moves
      exact ⟨.ended (.running rest) rfl, by simp [weight]⟩
  | row cells rest =>
      cases moves
      exact ⟨.ended .settled rfl, by simp [weight]⟩
  | @metadata header steps rows fault rest =>
      simp only [step?, acceptMetadata_fresh, resume] at moves
      cases moves
      exact ⟨.telling rest rfl (MetadataSlot.ofHeader_ne_pending header), by simp [weight]⟩
  | checkpoint rest =>
      cases moves
      exact ⟨.fresh rest, Nat.lt_succ_self _⟩

theorem step_telling {steps : List ParserStep} {rows : List Row} {fault : Option ParseFault}
    (tells : Tells steps ⟨none, rows, fault⟩) (streaming : before.phase = .streaming)
    (resolved : before.metadata ≠ .pending)
    (moves : (running steps).step? before = some (next, after)) :
    (running steps).Keeps next after
      ⟨before.metadata, before.slot.toList ++ rows, fault⟩ := by
  have uncancelled : before.isCancelled = false := by simp [isCancelled, streaming]
  have runs : before.isStreaming = true := by simp [isStreaming, streaming]
  have lasts : before.slot.toList = before.slot.toList ++ [] := by simp
  cases tells with
  | returned | leave =>
      cases moves
      refine ⟨?_, by simp [weight]⟩
      rw [← lasts]
      exact .leaving streaming
  | fail blamed =>
      simp only [step?, report, blamed, uncancelled, fail, runs] at moves
      cases moves
      refine ⟨?_, by simp [weight]⟩
      rw [← lasts]
      exact .ended .settled rfl
  | crash =>
      simp only [step?, fail, runs] at moves
      cases moves
      refine ⟨?_, by simp [weight]⟩
      rw [← lasts]
      exact .ended .gone rfl
  | endRows rest =>
      simp only [step?, endRows, streaming] at moves
      cases moves
      refine ⟨?_, by simp [weight]⟩
      rw [← lasts]
      exact .ended (.running rest) rfl
  | @row row steps rows fault cells rest =>
      have pending : before.isPending = false := by simp [isPending, resolved]
      simp only [step?, acceptRow?, streaming, pending, cells] at moves
      cases occupied : before.slot with
      | some held => simp [occupied] at moves
      | none =>
          simp only [occupied] at moves
          cases moves
          exact ⟨.telling rest rfl resolved, by simp [weight]⟩
  | checkpoint rest =>
      simp only [step?, uncancelled] at moves
      cases moves
      exact ⟨.telling rest streaming resolved, by simp [weight]⟩

theorem step (owes : producer.Owes before prospect)
    (moves : producer.step? before = some (next, after)) :
    producer.Keeps next after prospect := by
  cases owes with
  | fresh tells => exact step_fresh tells moves
  | telling tells streaming resolved => exact step_telling tells streaming resolved moves
  | leaving streaming =>
      simp only [step?, finish, isStreaming, streaming] at moves
      cases moves
      exact ⟨.ended .gone rfl, by simp [weight]⟩
  | ended silent ended =>
      rcases silent.step ended moves with ⟨rfl, silent, lighter⟩
      exact ⟨.ended silent ended, lighter⟩

theorem stuck (owes : producer.Owes handoff prospect) (stuck : producer.step? handoff = none) :
    handoff.metadata? ≠ none ∧ handoff.fetch? ≠ none := by
  cases owes with
  | fresh tells => cases tells <;> cases stuck
  | leaving => cases stuck
  | telling tells streaming resolved =>
      cases tells with
      | row =>
          -- Only another row that is still in the slot holds up a row.
          have accepts := Option.map_eq_none_iff.mp stuck
          have occupied := (acceptRow_eq_none_iff.mp accepts).1
          refine ⟨fun waits => resolved (metadata_eq_none_iff.mp waits).1, fun waits => ?_⟩
          simp [(fetch_eq_none_iff.mp waits).1] at occupied
      | _ => cases stuck
  | @ended _ _ fault _ ended =>
      have stopped : handoff.phase ≠ .streaming := by
        rw [ended]
        exact endPhase_ne_streaming fault
      exact ⟨fun waits => stopped (metadata_eq_none_iff.mp waits).2,
        fun waits => stopped (fetch_eq_none_iff.mp waits).2⟩

theorem metadata (owes : producer.Owes handoff prospect)
    {answer : Except ReadFault (Option Metadata)} (told : handoff.metadata? = some answer) :
    answer = prospect.known := by
  cases owes with
  | fresh => cases told
  | telling _ streaming resolved =>
      unfold Prospect.known
      unfold metadata? at told
      cases slot : handoff.metadata <;> simp_all
  | leaving streaming =>
      unfold Prospect.known
      unfold metadata? at told
      cases slot : handoff.metadata <;> simp_all
  | @ended _ _ fault _ ended =>
      unfold Prospect.known
      unfold metadata? at told
      cases slot : handoff.metadata <;> cases fault <;> simp_all [Handoff.endPhase]

theorem fetch (owes : producer.Owes handoff prospect) {answer : Except ReadFault Fetched}
    (fetches : handoff.fetch? = some (answer, after)) :
    answer = prospect.next ∧ producer.Owes after prospect.rest := by
  cases owes with
  | fresh => cases fetches
  | telling tells streaming resolved =>
      cases occupied : handoff.slot with
      | none => simp [fetch?, streaming, occupied] at fetches
      | some row =>
          simp only [fetch?, streaming, occupied] at fetches
          cases fetches
          exact ⟨rfl, .telling tells rfl resolved⟩
  | leaving streaming =>
      cases occupied : handoff.slot with
      | none => simp [fetch?, streaming, occupied] at fetches
      | some row =>
          simp only [fetch?, streaming, occupied] at fetches
          cases fetches
          exact ⟨rfl, .leaving rfl⟩
  | @ended _ _ fault silent ended =>
      cases occupied : handoff.slot with
      | some row =>
          cases fault <;>
            · simp only [fetch?, ended, occupied, Handoff.endPhase] at fetches
              cases fetches
              exact ⟨rfl, .ended silent rfl⟩
      | none =>
          have same : after = handoff := by
            cases fault <;> simp_all [fetch?, Handoff.endPhase]
          subst same
          have still : producer.Owes after ⟨after.metadata, after.slot.toList, fault⟩ :=
            .ended silent ended
          rw [occupied] at still
          refine ⟨?_, still⟩
          cases fault <;> simp_all [fetch?, Handoff.endPhase, Prospect.next]

theorem run (owes : producer.Owes before prospect) (fuel : Nat) :
    (producer.run fuel before).1.Owes (producer.run fuel before).2 prospect := by
  induction fuel generalizing producer before with
  | zero => exact owes
  | succ fuel induction =>
      unfold Producer.run
      split
      · exact owes
      next moves => exact induction (owes.step moves).owes

theorem runUntil (owes : producer.Owes before prospect) (ready : Handoff → Bool) {fuel : Nat}
    (enough : producer.weight ≤ fuel) :
    let ran := producer.runUntil ready fuel before
    ran.1.Owes ran.2 prospect ∧ (ready ran.2 = true ∨ ran.1.step? ran.2 = none) := by
  induction fuel generalizing producer before with
  | zero =>
      refine ⟨owes, .inr ?_⟩
      cases producer with
      | gone => rfl
      | settled | running => simp [weight] at enough
  | succ fuel induction =>
      unfold Producer.runUntil
      split
      next done => exact ⟨owes, .inl done⟩
      next =>
        split
        next stuck => exact ⟨owes, .inr stuck⟩
        next next after moves =>
          have kept := owes.step moves
          exact induction kept.owes (Nat.le_of_lt_succ (Nat.lt_of_lt_of_le kept.weight enough))

end Owes

theorem tells_length {steps : List ParserStep} {account : Account} (tells : Tells steps account) :
    account.rows.length ≤ (running steps).remaining := by
  induction tells with
  | row cells rest induction =>
      simp only [remaining, List.length_cons, List.foldr_cons, ParserStep.rows] at induction ⊢
      omega
  | metadata rest induction | checkpoint rest induction =>
      simpa [remaining, ParserStep.rows] using induction
  | _ => simp

theorem Owes.length_le (owes : producer.Owes handoff prospect) :
    prospect.rows.length ≤ handoff.slot.elim 0 (fun _ => 1) + producer.remaining := by
  have held (slot : Option Row) : slot.toList.length = slot.elim 0 (fun _ => 1) := by
    cases slot <;> rfl
  cases owes with
  | @fresh _ account tells =>
      have bound := tells_length tells
      have fewer : account.prospect.rows.length ≤ account.rows.length := by
        unfold Account.prospect
        split <;> simp_all
      exact Nat.le_trans fewer (by simpa using bound)
  | telling tells =>
      have bound := tells_length tells
      simpa [held] using bound
  | leaving | ended => simp [held]

end Producer

/-! ## Streams -/

def Uncancelled (schedule : List Turn) : Prop :=
  ∀ turn ∈ schedule, .cancel ∉ turn.before

namespace Stream

/-- What the reader of a stream has yet to get, if no wait of it runs out and nobody
cancels. -/
structure Owes (stream : Stream) (prospect : Prospect) : Prop where
  producer : stream.producer.Owes stream.handoff prospect
  patient : stream.impatient = false
  uncancelled : Uncancelled stream.schedule

namespace Owes

variable {stream : Stream} {prospect : Prospect}

theorem start {steps : List ParserStep} {account : Account} (tells : Tells steps account)
    {schedule : List Turn} (uncancelled : Uncancelled schedule) :
    { Stream.start steps false with schedule := schedule }.Owes account.prospect where
  producer := .fresh tells
  patient := rfl
  uncancelled := uncancelled

theorem interfere (owes : stream.Owes prospect) : (stream.interfere .parse).Owes prospect := by
  simp only [Stream.interfere]
  split
  · exact owes
  next moves => exact { owes with producer := (owes.producer.step moves).owes }

theorem foldl_interfere (owes : stream.Owes prospect) {before : List Interference}
    (uncancelled : .cancel ∉ before) : (before.foldl Stream.interfere stream).Owes prospect := by
  induction before generalizing stream with
  | nil => exact owes
  | cons interference rest induction =>
      rw [List.mem_cons, not_or] at uncancelled
      cases interference with
      | cancel => exact absurd rfl uncancelled.1
      | parse => exact induction owes.interfere uncancelled.2

theorem next (owes : stream.Owes prospect) :
    stream.next.1 = false ∧ stream.next.2.Owes prospect := by
  unfold Stream.next
  split
  · exact ⟨rfl, { owes with producer := owes.producer.run _ }⟩
  next turn rest schedule =>
    have uncancelled := owes.uncancelled
    rw [schedule] at uncancelled
    have later : { stream with schedule := rest }.Owes prospect :=
      { owes with uncancelled := fun turn member => uncancelled turn (by simp [member]) }
    exact ⟨by simp [owes.patient], later.foldl_interfere (uncancelled turn (by simp))⟩

theorem reach (owes : stream.Owes prospect) (ready : Handoff → Bool) :
    let met := stream.reach ready
    met.Owes prospect ∧ (ready met.handoff = true ∨ met.producer.step? met.handoff = none) := by
  rcases owes.next with ⟨lasts, waiting⟩
  unfold Stream.reach
  rcases stepped : stream.next with ⟨expires, waiter⟩
  simp only [stepped] at lasts waiting
  subst lasts
  have ran := waiting.producer.runUntil ready (Producer.weight_le_patience waiter.producer)
  exact ⟨{ waiting with producer := ran.1 }, ran.2⟩

/-- An access gets its answer at some handoff that owes the same, however far the producer
has come. -/
theorem await {α : Type} (owes : stream.Owes prospect) (access : Handoff → Option (α × Handoff))
    (answers : ∀ {producer handoff}, Producer.Owes producer handoff prospect →
      producer.step? handoff = none → access handoff ≠ none) (expired : α) :
    let result := stream.await access expired
    ∃ met, result.2.producer.Owes met prospect ∧
      access met = some (result.1, result.2.handoff) ∧
      result.2.impatient = false ∧ Uncancelled result.2.schedule := by
  have reached := owes.reach fun handoff => (access handoff).isSome
  rcases reaches : stream.reach fun handoff => (access handoff).isSome with met
  rw [reaches] at reached
  rcases reached with ⟨owed, ready⟩
  have answered : access met.handoff ≠ none := by
    rcases ready with ready | stuck
    · exact Option.isSome_iff_ne_none.mp ready
    · exact answers owed.producer stuck
  rcases Option.ne_none_iff_exists'.mp answered with ⟨⟨answer, after⟩, told⟩
  rw [Stream.await_of_some reaches told]
  exact ⟨met.handoff, owed.producer, told, owed.patient, owed.uncancelled⟩

theorem metadata (owes : stream.Owes prospect) :
    stream.metadata.1 = prospect.known ∧ stream.metadata.2.Owes prospect := by
  have ready : ∀ {producer handoff}, Producer.Owes producer handoff prospect →
      producer.step? handoff = none →
      handoff.metadata?.map (fun answer => (answer, handoff)) ≠ none := fun owed stuck => by
    simpa using (owed.stuck stuck).1
  rcases owes.await _ ready expiredMetadata with ⟨met, owed, answered, patient, uncancelled⟩
  rcases Option.map_eq_some_iff.mp answered with ⟨answer, told, equal⟩
  rcases Prod.mk.inj equal with ⟨same, stays⟩
  refine ⟨?_, ?_, patient, uncancelled⟩
  · exact same.symm.trans (owed.metadata told)
  · rw [stays] at owed
    exact owed

theorem fetch (owes : stream.Owes prospect) :
    stream.fetch.1 = prospect.next ∧ stream.fetch.2.Owes prospect.rest := by
  rcases owes.await fetch? (fun owed stuck => (owed.stuck stuck).2) expiredFetch with
    ⟨met, owed, fetches, patient, uncancelled⟩
  rcases owed.fetch fetches with ⟨told, rest⟩
  exact ⟨told, rest, patient, uncancelled⟩

end Owes

end Stream

end TableIntake
