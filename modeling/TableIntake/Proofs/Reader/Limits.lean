import TableIntake.Reader.Calls
import TableIntake.Reader.Limited
import TableIntake.Reader.Memory

/-! # Readers within their limits

A limited reader answers like the reader in it, up to the first row with which the costs of
the rows add up to more than the limit. From then on it refuses rows and columns by itself.
-/

namespace TableIntake

namespace Quota

variable {quota : Quota}

/-- What rows of these sizes cost together. -/
def total (quota : Quota) : List Nat → Nat
  | [] => 0
  | size :: rest => quota.cost size + quota.total rest

@[simp] theorem total_append (left right : List Nat) :
    quota.total (left ++ right) = quota.total left + quota.total right := by
  induction left with
  | nil => simp [total]
  | cons size rest induction =>
      rw [List.cons_append, total, total, induction, Nat.add_assoc]

/-- More than the limit, which is less than the greatest there is: a count does not go
beyond that one. -/
def Exceeded (quota : Quota) (total : Nat) : Prop :=
  quota.unit ≠ .none ∧ quota.limit.toNat < UInt64.size - 1 ∧ quota.limit.toNat < total

theorem Exceeded.mono {less more : Nat} (exceeded : quota.Exceeded less)
    (grows : less ≤ more) : quota.Exceeded more :=
  ⟨exceeded.1, exceeded.2.1, Nat.lt_of_lt_of_le exceeded.2.2 grows⟩

theorem Exceeded.append {sizes : List Nat} (exceeded : quota.Exceeded (quota.total sizes))
    (more : List Nat) : quota.Exceeded (quota.total (sizes ++ more)) := by
  rw [total_append]
  exact exceeded.mono (Nat.le_add_right _ _)

theorem not_exceeded_zero : ¬quota.Exceeded 0 := fun exceeded =>
  Nat.not_lt_zero _ exceeded.2.2

/-- A count that stops at its greatest value tells of the exact total whether it is more
than the limit. -/
theorem isExceeded_iff {consumed : UInt64} {total : Nat}
    (counted : consumed.toNat = min total (UInt64.size - 1)) :
    quota.isExceeded consumed = true ↔ quota.Exceeded total := by
  have less : quota.limit < consumed ↔ quota.limit.toNat < min total (UInt64.size - 1) := by
    rw [UInt64.lt_iff_toNat_lt, counted]
  have within : quota.limit.toNat < min total (UInt64.size - 1) ↔
      quota.limit.toNat < UInt64.size - 1 ∧ quota.limit.toNat < total := by
    omega
  simp only [isExceeded, isEnabled, Bool.and_eq_true, bne_iff_ne, decide_eq_true_eq, less,
    within, Exceeded]

theorem toNat_count_total {consumed : UInt64} {total : Nat}
    (counted : consumed.toNat = min total (UInt64.size - 1)) (cost : Nat) :
    (count consumed cost).toNat = min (total + cost) (UInt64.size - 1) := by
  rw [toNat_count, counted]
  omega

end Quota

namespace TableReader

variable {ρ : Type} [TableReader ρ]

def gained (next : ReaderCall) (reader : ρ) : List Nat :=
  match next with
  | .nextRow =>
      match nextRow reader with
      | (.ok true, reader) => [rowByteSize reader]
      | _ => []
  | _ => []

def obtained : List ReaderCall → ρ → List Nat
  | [], _ => []
  | next :: rest, reader => gained next reader ++ obtained rest (call next reader).2

end TableReader

namespace LimitedReader

open TableReader

/-- A limited reader beside the bare one, after the bare one has obtained rows of these
sizes. Once there are too many the two go apart. -/
structure Beside {ρ : Type} (limited : LimitedReader ρ) (quota : Quota) (sizes : List Nat)
    (bare : ρ) : Prop where
  same : limited.quota = quota
  exceeded : limited.exceeded = true ↔ quota.Exceeded (quota.total sizes)
  inner : limited.exceeded = false → limited.inner = bare
  consumed : limited.exceeded = false →
    limited.consumed.toNat = min (quota.total sizes) (UInt64.size - 1)

namespace Beside

variable {ρ : Type} {limited : LimitedReader ρ} {quota : Quota} {sizes : List Nat} {bare : ρ}

theorem limit (quota : Quota) (bare : ρ) :
    (LimitedReader.limit bare quota).Beside quota [] bare where
  same := rfl
  exceeded := iff_of_false nofun Quota.not_exceeded_zero
  inner _ := rfl
  consumed _ := rfl

theorem exceeded_eq_false (beside : limited.Beside quota sizes bare)
    (within : ¬quota.Exceeded (quota.total sizes)) : limited.exceeded = false :=
  Bool.eq_false_iff.mpr (mt beside.exceeded.mp within)

theorem keep (beside : limited.Beside quota sizes bare) (inner : ρ) {after : ρ}
    (same : limited.exceeded = false → inner = after) :
    { limited with inner := inner }.Beside quota sizes after where
  same := beside.same
  exceeded := beside.exceeded
  inner := same
  consumed := beside.consumed

theorem past (beside : limited.Beside quota sizes bare) (exceeded : limited.exceeded = true)
    (more : List Nat) (inner after : ρ) :
    { limited with inner := inner }.Beside quota (sizes ++ more) after where
  same := beside.same
  exceeded := iff_of_true exceeded ((beside.exceeded.mp exceeded).append more)
  inner within := by simp [exceeded] at within
  consumed within := by simp [exceeded] at within

theorem count (beside : limited.Beside quota sizes bare) (within : limited.exceeded = false)
    (size : Nat) (after : ρ) :
    let consumed := Quota.count limited.consumed (quota.cost size)
    (LimitedReader.mk after quota consumed (quota.isExceeded consumed)).Beside quota
      (sizes ++ [size]) after := by
  have total : quota.total (sizes ++ [size]) = quota.total sizes + quota.cost size := by
    rw [Quota.total_append]
    rfl
  have counted := Quota.toNat_count_total (beside.consumed within) (quota.cost size)
  rw [← total] at counted
  exact
    { same := rfl
      exceeded := Quota.isExceeded_iff counted
      inner := fun _ => rfl
      consumed := fun _ => counted }

variable [TableReader ρ]

theorem nextRow (beside : limited.Beside quota sizes bare) :
    (LimitedReader.nextRow limited).2.Beside quota (sizes ++ gained .nextRow bare)
      (TableReader.nextRow bare).2 := by
  cases flag : limited.exceeded with
  | true =>
      simp only [LimitedReader.nextRow, flag, if_true]
      exact beside.past flag _ limited.inner _
  | false =>
      have inner := beside.inner flag
      simp only [LimitedReader.nextRow, flag, Bool.false_eq_true, if_false, inner, gained]
      rcases TableReader.nextRow bare with ⟨answer, after⟩
      cases answer with
      | error fault => simpa [flag] using beside.keep after fun _ => rfl
      | ok more =>
          cases more with
          | false => simpa [flag] using beside.keep after fun _ => rfl
          | true =>
              have counted := beside.count flag (rowByteSize after) after
              simp only [beside.same]
              split
              next exceeded => simpa [exceeded] using counted
              next within => simpa [within] using counted

theorem call (beside : limited.Beside quota sizes bare) (next : ReaderCall) :
    (TableReader.call next limited).2.Beside quota (sizes ++ gained next bare)
      (TableReader.call next bare).2 := by
  cases next with
  | nextRow => exact beside.nextRow
  | metadata =>
      simp only [gained, List.append_nil]
      exact beside.keep _ fun within =>
        congrArg (fun inner => (metadata inner).2) (beside.inner within)
  | close =>
      simp only [gained, List.append_nil]
      exact beside.keep _ fun within => congrArg close (beside.inner within)
  | hasNextColumn | columnType | rowByteSize =>
      simp only [gained, List.append_nil]
      exact beside
  | nextColumn =>
      cases flag : limited.exceeded with
      | true =>
          have same : (TableReader.call .nextColumn limited).2 = limited := by
            simp [TableReader.call, TableReader.nextColumn, check, flag]
          rw [same]
          exact beside.past flag _ limited.inner _
      | false =>
          have passed : (TableReader.call .nextColumn limited).2 =
              { limited with inner := (TableReader.nextColumn bare).2 } := by
            simp [TableReader.call, TableReader.nextColumn, check, flag, beside.inner flag]
          rw [passed]
          simp only [gained, List.append_nil]
          exact beside.keep _ fun _ => rfl

theorem answers (beside : limited.Beside quota sizes bare) (calls : List ReaderCall) :
    (TableReader.answers calls limited).2.Beside quota (sizes ++ obtained calls bare)
      (TableReader.answers calls bare).2 := by
  induction calls generalizing limited sizes bare with
  | nil => simpa [TableReader.answers, obtained] using beside
  | cons next rest induction =>
      rw [obtained, ← List.append_assoc]
      exact induction (beside.call next)

theorem nextRow_answer (beside : limited.Beside quota sizes bare)
    (within : limited.exceeded = false) :
    (LimitedReader.nextRow limited).1 =
      if (LimitedReader.nextRow limited).2.exceeded then .error (.quotaExceeded quota)
      else (TableReader.nextRow bare).1 := by
  have inner := beside.inner within
  simp only [LimitedReader.nextRow, within, Bool.false_eq_true, if_false, inner]
  rcases TableReader.nextRow bare with ⟨answer, after⟩
  cases answer with
  | error fault => simp
  | ok more =>
      cases more with
      | false => simp
      | true =>
          simp only [beside.same]
          split <;> simp

end Beside

variable {ρ : Type} [TableReader ρ]

example :
    let column : Column := ⟨"id", .plain .integer, none, none, none, none, false, false, false⟩
    let reader := limit (MemoryReader.ofRows [column] [[.int 1], [.int 2]]) ⟨.bytes, 7⟩
    let calls : List ReaderCall :=
      [.nextRow, .nextColumn, .nextRow, .close, .nextRow, .rowByteSize]
    (TableReader.answers calls reader).1 =
      [.truth true, .cell (.int 1), .fault (.quotaExceeded ⟨.bytes, 7⟩), .closed,
        .fault (.quotaExceeded ⟨.bytes, 7⟩), .size 0] := by
  rfl

end LimitedReader

end TableIntake
