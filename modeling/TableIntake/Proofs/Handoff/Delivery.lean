import TableIntake.Proofs.Handoff.History

/-! # Delivery

What becomes of the rows that a handoff accepts. They are delivered in order, at most one
of them is under way, and only a cancellation loses one.
-/

namespace TableIntake.Handoff

open Session

/-- Somebody cancels after the end of the rows, while the last of them is still in the
slot. -/
def CutAfterEnd (events : List Event) : Prop :=
  ∃ past rest handoff,
    events = past ++ .passed .cancel .done :: rest ∧
    Run {} past handoff ∧ handoff.phase = .ended ∧ handoff.slot.isSome

theorem not_cutAfterEnd_nil : ¬CutAfterEnd [] := by
  rintro ⟨past, rest, handoff, equal, _⟩
  simp at equal

theorem cutAfterEnd_snoc {past : List Event} {event : Event} {before : Handoff}
    (run : Run {} past before) :
    CutAfterEnd (past ++ [event]) ↔
      CutAfterEnd past ∨
        event = .passed .cancel .done ∧ before.phase = .ended ∧ before.slot.isSome := by
  constructor
  · rintro ⟨earlier, rest, handoff, equal, earlierRun, ended, occupied⟩
    rcases List.eq_nil_or_concat rest with last | ⟨others, last, rfl⟩
    · subst last
      rcases List.append_inj' equal rfl with ⟨rfl, same⟩
      cases run.unique earlierRun
      exact .inr ⟨by simpa using same, ended, occupied⟩
    · rw [List.concat_eq_append, ← List.cons_append, ← List.append_assoc] at equal
      rcases List.append_inj' equal rfl with ⟨rfl, _⟩
      exact .inl ⟨earlier, others, handoff, rfl, earlierRun, ended, occupied⟩
  · rintro (⟨earlier, rest, handoff, rfl, holds⟩ | ⟨rfl, ended, occupied⟩)
    · exact ⟨earlier, rest ++ [event], handoff, by simp, holds⟩
    · exact ⟨past, [], before, rfl, run, ended, occupied⟩

/-- The accepted rows are those delivered, the one in the slot, and those that a
cancellation took out of it. The last come only when the stream is over. -/
structure Balance (events : List Event) (handoff : Handoff) (lost : List Row) : Prop where
  rows : acceptedRows events = deliveredRows events ++ handoff.slot.toList ++ lost
  short : lost.length ≤ 1
  stopped : lost ≠ [] → handoff.phase ≠ .streaming ∧ handoff.slot = none
  kept : (∀ event ∈ events, event.cancels = false) → lost = []
  cut : lost ≠ [] ∧ handoff.phase = .ended ↔ CutAfterEnd events

namespace Balance

theorem fresh : Balance [] {} [] where
  rows := rfl
  short := by simp
  stopped := by simp
  kept _ := rfl
  cut := by simp [not_cutAfterEnd_nil]

variable {past : List Event} {before after : Handoff} {event : Event} {lost : List Row}

theorem nil_of_streaming (balance : Balance past before lost)
    (streaming : before.phase = .streaming) : lost = [] := by
  cases lost with
  | nil => rfl
  | cons => exact absurd streaming (balance.stopped (by simp)).1

theorem nil_of_slot {row : Row} (balance : Balance past before lost)
    (occupied : before.slot = some row) : lost = [] := by
  cases lost with
  | nil => rfl
  | cons => simpa [occupied] using (balance.stopped (by simp)).2

theorem quiet (balance : Balance past before lost) (run : Run {} past before)
    (quiet : event.Quiet) (slot : after.slot = before.slot)
    (stopped : lost ≠ [] → after.phase = before.phase) :
    Balance (past ++ [event]) after lost where
  rows := by
    simp [quiet.accepted, quiet.delivered, slot, balance.rows]
  short := balance.short
  stopped loss := by
    rw [stopped loss, slot]
    exact balance.stopped loss
  kept never := balance.kept fun other member => never other (by simp [member])
  cut := by
    have uncancelled : event ≠ .passed .cancel .done := by
      rintro rfl
      exact absurd quiet.cancels (by simp [Event.cancels])
    rw [cutAfterEnd_snoc run, ← balance.cut]
    simp only [uncancelled, false_and, or_false]
    constructor
    · exact fun ⟨loss, atEnd⟩ => ⟨loss, (stopped loss).symm.trans atEnd⟩
    · exact fun ⟨loss, atEnd⟩ => ⟨loss, (stopped loss).trans atEnd⟩

theorem filled {row : Row} (balance : Balance past before lost) (run : Run {} past before)
    (streaming : before.phase = .streaming) (free : before.slot = none)
    (cells : row.isEmpty = false) :
    Balance (past ++ [.passed (.acceptRow row) .done]) { before with slot := some row } [] where
  rows := by
    have kept := balance.nil_of_streaming streaming
    simp [Event.accepted, Event.delivered, cells, balance.rows, free, kept]
  short := by simp
  stopped := by simp
  kept _ := rfl
  cut := by
    rw [cutAfterEnd_snoc run, ← balance.cut]
    simp [streaming]

theorem emptied {row : Row} (balance : Balance past before lost) (run : Run {} past before)
    (occupied : before.slot = some row) :
    Balance (past ++ [.passed .fetch (.fetched (.row row))]) { before with slot := none } []
    where
  rows := by
    have kept := balance.nil_of_slot occupied
    simp [Event.accepted, Event.delivered, balance.rows, occupied, kept]
  short := by simp
  stopped := by simp
  kept _ := rfl
  cut := by
    rw [cutAfterEnd_snoc run, ← balance.cut]
    simp [balance.nil_of_slot occupied]

theorem cancelled (balance : Balance past before lost) (run : Run {} past before) :
    Balance (past ++ [.passed .cancel .done]) before.cancel (before.slot.toList ++ lost) where
  rows := by simp [Event.accepted, Event.delivered, balance.rows]
  short := by
    cases occupied : before.slot with
    | none => simpa using balance.short
    | some row => simp [balance.nil_of_slot occupied]
  stopped _ := by
    rw [cancel_phase, cancel_slot]
    split
    · simp
    next stopped => exact ⟨stopped, rfl⟩
  kept never := by
    have uncancelled := never (.passed .cancel .done) (by simp)
    simp [Event.cancels] at uncancelled
  cut := by
    rw [cutAfterEnd_snoc run, ← balance.cut, cancel_phase]
    cases occupied : before.slot with
    | none =>
        cases before.phase <;> simp
    | some row =>
        cases before.phase <;> simp [balance.nil_of_slot occupied]

theorem expired {call : Call} {answer : Answer} (balance : Balance past before lost)
    (run : Run {} past before) (streaming : before.phase = .streaming)
    (free : before.slot = none) :
    Balance (past ++ [.expired call answer]) before.cancel [] where
  rows := by
    have kept := balance.nil_of_streaming streaming
    simp [Event.accepted, Event.delivered, balance.rows, free, kept]
  short := by simp
  stopped := by simp
  kept _ := rfl
  cut := by
    rw [cutAfterEnd_snoc run, ← balance.cut]
    simp [streaming]

theorem step (balance : Balance past before lost) (run : Run {} past before)
    (sound : before.Sound) (change : Change before event after) :
    ∃ later, Balance (past ++ [event]) after later := by
  cases change with
  | nothing quiet | resolved quiet =>
      exact ⟨lost, balance.quiet run quiet rfl fun _ => rfl⟩
  | stopped quiet _ streaming =>
      exact ⟨lost, balance.quiet run quiet rfl fun loss =>
        absurd (balance.nil_of_streaming streaming) loss⟩
  | cleared quiet _ cancelled =>
      have free := sound.cancelled cancelled
      exact ⟨lost, balance.quiet run quiet free.symm fun _ => rfl⟩
  | filled streaming free _ cells => exact ⟨[], balance.filled run streaming free cells⟩
  | emptied _ occupied => exact ⟨[], balance.emptied run occupied⟩
  | cancelled => exact ⟨_, balance.cancelled run⟩
  | expired streaming waits =>
      have free : before.slot = none := by
        rcases waits with free | pending
        · exact free
        · exact sound.slot_eq_none pending
      exact ⟨[], balance.expired run streaming free⟩

end Balance

theorem Run.balance {events : List Event} {handoff : Handoff} (run : Run {} events handoff) :
    ∃ lost, Balance events handoff lost := by
  -- A step needs the history before it, since `cut` speaks of the handoff at a cancellation.
  have start : Run {} [] {} ∧ ∃ lost, Balance [] {} lost := ⟨.nil _, [], .fresh⟩
  have holds := run.keeps
    (fun past before => Run {} past before ∧ ∃ lost, Balance past before lost)
    (fun ⟨earlier, lost, balance⟩ move =>
      ⟨earlier.trans (.single move),
        balance.step earlier (earlier.sound sound_fresh) move.change⟩)
    start
  simpa using holds.2

/-! ## In order, and none twice -/

theorem Balance.undelivered_length {events : List Event} {handoff : Handoff}
    {lost : List Row} (balance : Balance events handoff lost) :
    (handoff.slot.toList ++ lost).length ≤ 1 := by
  cases occupied : handoff.slot with
  | none => simpa using balance.short
  | some row => simp [balance.nil_of_slot occupied]

/-- The reader gets the accepted rows in their order. At most one of them is under way,
and while nobody cancels, that is the one in the slot. -/
theorem deliveredRows_prefix_acceptedRows {events : List Event} {handoff : Handoff}
    (run : Run {} events handoff) :
    deliveredRows events <+: acceptedRows events ∧
      (acceptedRows events).length ≤ (deliveredRows events).length + 1 ∧
      ((∀ event ∈ events, event.cancels = false) →
        deliveredRows events ++ handoff.slot.toList = acceptedRows events) := by
  rcases run.balance with ⟨lost, balance⟩
  have rows := balance.rows
  rw [List.append_assoc] at rows
  refine ⟨⟨_, rows.symm⟩, ?_, fun never => ?_⟩
  · rw [rows, List.length_append]
    have short := balance.undelivered_length
    omega
  · simpa [balance.kept never] using rows.symm

def pendingHistory : List Event :=
  [.passed (.acceptMetadata [{ name := "id", datatype := some "int" }]) .done,
    .passed (.acceptRow [.int 1]) .done, .passed .fetch (.fetched (.row [.int 1])),
    .passed (.acceptRow [.int 2]) .done, .passed .endRows .done]

theorem deliveredRows_prefix_with_pending_row :
    ∃ handoff, Run {} pendingHistory handoff ∧
      deliveredRows pendingHistory <+: acceptedRows pendingHistory ∧
      (acceptedRows pendingHistory).length ≤ (deliveredRows pendingHistory).length + 1 ∧
      (∀ event ∈ pendingHistory, event.cancels = false) ∧
      deliveredRows pendingHistory ++ handoff.slot.toList = acceptedRows pendingHistory := by
  have run : Run {} pendingHistory _ :=
    .cons (.passed rfl) (.cons (.passed rfl) (.cons (.passed rfl) (.cons (.passed rfl)
      (.cons (.passed rfl) (.nil _)))))
  rcases deliveredRows_prefix_acceptedRows run with ⟨inOrder, short, kept⟩
  have never : ∀ event ∈ pendingHistory, event.cancels = false := by
    simp [pendingHistory, Event.cancels]
  exact ⟨_, run, inOrder, short, never, kept never⟩

end TableIntake.Handoff
