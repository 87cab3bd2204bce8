import TableIntake.Cell

/-! # Bytes of cells

Which cells have bytes, how many there are, and that the bytes of an array of numbers of one kind
tell the array.
-/

namespace TableIntake

namespace Cell

def IsPlain (cell : Cell) : Prop :=
  ∀ cells, cell ≠ .array cells

/-- What holds of plain cells, and of an array if it holds of its cells, holds of all. -/
@[elab_as_elim]
theorem inductionOnMembers {Holds : Cell → Prop} (cell : Cell)
    (plain : ∀ cell, cell.IsPlain → Holds cell)
    (array : ∀ cells, (∀ cell ∈ cells, Holds cell) → Holds (.array cells)) : Holds cell := by
  refine @Cell.rec Holds (fun cells => ∀ cell ∈ cells, Holds cell) (plain _ nofun)
    ?_ ?_ ?_ ?_ ?_ ?_ ?_ ?_ array (List.forall_mem_nil _) ?cons cell
  case cons =>
    intro first rest holds held
    exact List.forall_mem_cons.mpr ⟨holds, held⟩
  all_goals
    intro value
    exact plain _ nofun

/-! ## Cells with bytes -/

inductive HoldsNull : Cell → Prop
  | null : HoldsNull .null
  | array {cells : List Cell} {cell : Cell} :
      cell ∈ cells → HoldsNull cell → HoldsNull (.array cells)

theorem holdsNull_array_iff {cells : List Cell} :
    (array cells).HoldsNull ↔ ∃ cell ∈ cells, cell.HoldsNull := by
  constructor
  · intro holds
    cases holds with
    | array member holds => exact ⟨_, member, holds⟩
  · rintro ⟨cell, member, holds⟩
    exact .array member holds

theorem allBigEndian?_cons_eq_some_iff {cell : Cell} {rest : List Cell} {bytes : List UInt8} :
    allBigEndian? (cell :: rest) = some bytes ↔
      ∃ first others, cell.bigEndian? = some first ∧ allBigEndian? rest = some others ∧
        first ++ others = bytes := by
  simp [allBigEndian?, Option.bind_eq_some_iff]

theorem allBigEndian?_eq_none_iff {cells : List Cell} :
    allBigEndian? cells = none ↔ ∃ cell ∈ cells, cell.bigEndian? = none := by
  induction cells with
  | nil => simp [allBigEndian?]
  | cons cell rest induction =>
      simp only [List.mem_cons, exists_eq_or_imp, ← induction, allBigEndian?]
      cases cell.bigEndian? <;> cases allBigEndian? rest <;> simp

theorem allBigEndian?_eq_some_iff {cells : List Cell} {bytes : List UInt8} :
    allBigEndian? cells = some bytes ↔
      ∃ parts : List (List UInt8),
        cells.map bigEndian? = parts.map some ∧ parts.flatten = bytes := by
  induction cells generalizing bytes with
  | nil =>
      constructor
      · rintro ⟨⟩
        exact ⟨[], rfl, rfl⟩
      · rintro ⟨parts, each, rfl⟩
        cases parts with
        | nil => rfl
        | cons first parts => cases each
  | cons cell rest induction =>
      rw [allBigEndian?_cons_eq_some_iff]
      constructor
      · rintro ⟨first, others, encodes, encodesRest, rfl⟩
        rcases induction.mp encodesRest with ⟨parts, each, rfl⟩
        exact ⟨first :: parts, by simp [encodes, each], rfl⟩
      · rintro ⟨parts, each, rfl⟩
        cases parts with
        | nil => cases each
        | cons first parts =>
            rcases List.cons.inj each with ⟨encodes, each⟩
            exact ⟨first, parts.flatten, encodes, induction.mpr ⟨parts, each, rfl⟩, rfl⟩

theorem bigEndian?_eq_none_iff (cell : Cell) : cell.bigEndian? = none ↔ cell.HoldsNull := by
  induction cell using inductionOnMembers with
  | plain cell plain =>
      cases cell with
      | null => exact iff_of_true rfl .null
      | array cells => exact absurd rfl (plain cells)
      | _ => exact iff_of_false nofun nofun
  | array cells induction =>
      rw [holdsNull_array_iff, bigEndian?, allBigEndian?_eq_none_iff]
      exact exists_congr fun cell => and_congr_right (induction cell)

/-! ## How many bytes -/

theorem length_bigEndianBytes (value count : Nat) :
    (bigEndianBytes value count).length = count := by
  induction count with
  | zero => rfl
  | succ count induction => simp [bigEndianBytes, induction]

theorem length_allBigEndian? {cells : List Cell}
    (sizes : ∀ cell ∈ cells, ∀ bytes, cell.bigEndian? = some bytes → bytes.length = cell.byteSize)
    {bytes : List UInt8} (encodes : allBigEndian? cells = some bytes) :
    bytes.length = totalSize cells := by
  induction cells generalizing bytes with
  | nil =>
      cases encodes
      rfl
  | cons cell rest induction =>
      rcases allBigEndian?_cons_eq_some_iff.mp encodes with
        ⟨first, others, encodesFirst, encodesRest, rfl⟩
      have here := sizes cell List.mem_cons_self first encodesFirst
      have behind := induction (fun other member => sizes other (List.mem_cons_of_mem cell member))
        encodesRest
      rw [List.length_append, here, behind, totalSize]

theorem length_bigEndian? (cell : Cell) :
    ∀ bytes, cell.bigEndian? = some bytes → bytes.length = cell.byteSize := by
  induction cell using inductionOnMembers with
  | plain cell plain =>
      rintro bytes encodes
      cases cell with
      | null => cases encodes
      | array cells => exact absurd rfl (plain cells)
      | text value =>
          cases encodes
          simp [utf8, byteSize]
      | _ =>
          cases encodes
          rfl
  | array cells induction =>
      intro bytes encodes
      exact length_allBigEndian? induction encodes

/-! ## Numbers of one kind -/

/-- The kinds of cells that all have the same number of bytes. Floating point numbers are told by
their bits. -/
inductive FixedKind where
  | boolean
  | short
  | int
  | long
  | float
  | double
deriving DecidableEq, Repr

def fixedKind? : Cell → Option FixedKind
  | .boolean _ => some .boolean
  | .short _ => some .short
  | .int _ => some .int
  | .long _ => some .long
  | .float _ => some .float
  | .double _ => some .double
  | .null | .text _ | .bytes _ | .array _ => none

namespace FixedKind

def width : FixedKind → Nat
  | .boolean => 1
  | .short => 2
  | .int | .float => 4
  | .long | .double => 8

def cell : FixedKind → Nat → Cell
  | .boolean, number => .boolean (number == 1)
  | .short, number => .short (UInt16.ofNat number).toInt16
  | .int, number => .int (UInt32.ofNat number).toInt32
  | .long, number => .long (UInt64.ofNat number).toInt64
  | .float, number => .float (UInt32.ofNat number)
  | .double, number => .double (UInt64.ofNat number)

theorem width_pos (kind : FixedKind) : 0 < kind.width := by
  cases kind <;> decide

end FixedKind

theorem exists_number {kind : FixedKind} {cell : Cell} (fixed : cell.fixedKind? = some kind) :
    ∃ number, number < Nat.pow 256 kind.width ∧ cell = kind.cell number ∧
      cell.bigEndian? = some (bigEndianBytes number kind.width) := by
  cases cell with
  | boolean value =>
      cases fixed
      cases value
      · exact ⟨0, by decide, rfl, rfl⟩
      · exact ⟨1, by decide, rfl, rfl⟩
  | short value =>
      cases fixed
      exact ⟨value.toUInt16.toNat, value.toUInt16.toNat_lt, by simp [FixedKind.cell], rfl⟩
  | int value =>
      cases fixed
      exact ⟨value.toUInt32.toNat, value.toUInt32.toNat_lt, by simp [FixedKind.cell], rfl⟩
  | long value =>
      cases fixed
      exact ⟨value.toUInt64.toNat, value.toUInt64.toNat_lt, by simp [FixedKind.cell], rfl⟩
  | float bits =>
      cases fixed
      exact ⟨bits.toNat, bits.toNat_lt, by simp [FixedKind.cell], rfl⟩
  | double bits =>
      cases fixed
      exact ⟨bits.toNat, bits.toNat_lt, by simp [FixedKind.cell], rfl⟩
  | null | text | bytes | array => cases fixed

theorem mod_eq_of_bigEndianBytes_eq {left right count : Nat}
    (same : bigEndianBytes left count = bigEndianBytes right count) :
    left % Nat.pow 256 count = right % Nat.pow 256 count := by
  induction count with
  | zero => rw [show Nat.pow 256 0 = 1 from rfl, Nat.mod_one, Nat.mod_one]
  | succ count induction =>
      rcases List.cons.inj same with ⟨high, low⟩
      have digit : left / Nat.pow 256 count % 256 = right / Nat.pow 256 count % 256 := by
        simpa using congrArg UInt8.toNat high
      calc
        left % Nat.pow 256 (count + 1)
        _ = left % Nat.pow 256 count + Nat.pow 256 count * (left / Nat.pow 256 count % 256) :=
          Nat.mod_pow_succ
        _ = right % Nat.pow 256 count + Nat.pow 256 count * (right / Nat.pow 256 count % 256) := by
          rw [induction low, digit]
        _ = right % Nat.pow 256 (count + 1) := Nat.mod_pow_succ.symm

theorem eq_of_bigEndianBytes_eq {left right count : Nat} (leftFits : left < Nat.pow 256 count)
    (rightFits : right < Nat.pow 256 count)
    (same : bigEndianBytes left count = bigEndianBytes right count) : left = right := by
  have mod := mod_eq_of_bigEndianBytes_eq same
  rwa [Nat.mod_eq_of_lt leftFits, Nat.mod_eq_of_lt rightFits] at mod

section

variable {kind : FixedKind} {cell other : Cell} {left right rest : List Cell}
  {bytes others : List UInt8}

theorem length_of_fixed (fixed : cell.fixedKind? = some kind)
    (encodes : cell.bigEndian? = some bytes) : bytes.length = kind.width := by
  rcases exists_number fixed with ⟨number, _, _, known⟩
  cases encodes.symm.trans known
  exact length_bigEndianBytes number kind.width

theorem eq_of_fixed (fixed : cell.fixedKind? = some kind)
    (otherFixed : other.fixedKind? = some kind)
    (same : cell.bigEndian? = other.bigEndian?) : cell = other := by
  rcases exists_number fixed with ⟨number, fits, rfl, known⟩
  rcases exists_number otherFixed with ⟨number', fits', rfl, known'⟩
  rw [known, known'] at same
  rw [eq_of_bigEndianBytes_eq fits fits' (Option.some.inj same)]

theorem exists_bytes_of_fixed (fixed : ∀ cell ∈ left, cell.fixedKind? = some kind) :
    ∃ bytes, allBigEndian? left = some bytes := by
  apply Option.ne_none_iff_exists'.mp
  rw [Ne, allBigEndian?_eq_none_iff]
  rintro ⟨cell, member, missing⟩
  rcases exists_number (fixed cell member) with ⟨_, _, _, known⟩
  cases missing.symm.trans known

theorem allBigEndian?_cons_ne_nil (fixed : cell.fixedKind? = some kind) :
    allBigEndian? (cell :: rest) ≠ some [] := by
  intro encodes
  rcases allBigEndian?_cons_eq_some_iff.mp encodes with ⟨first, others, known, _, empty⟩
  have width := length_of_fixed fixed known
  rw [(List.append_eq_nil_iff.mp empty).1] at width
  exact absurd width (Nat.ne_of_lt kind.width_pos)

theorem eq_of_allBigEndian?_eq (leftFixed : ∀ cell ∈ left, cell.fixedKind? = some kind)
    (rightFixed : ∀ cell ∈ right, cell.fixedKind? = some kind)
    (same : allBigEndian? left = allBigEndian? right) : left = right := by
  induction left generalizing right with
  | nil =>
      cases right with
      | nil => rfl
      | cons cell rest =>
          have fixed := rightFixed cell List.mem_cons_self
          exact absurd same.symm (allBigEndian?_cons_ne_nil fixed)
  | cons cell rest induction =>
      have fixed := leftFixed cell List.mem_cons_self
      cases right with
      | nil => exact absurd same (allBigEndian?_cons_ne_nil fixed)
      | cons other others =>
          have otherFixed := rightFixed other List.mem_cons_self
          rcases exists_bytes_of_fixed leftFixed with ⟨bytes, encodes⟩
          rcases allBigEndian?_cons_eq_some_iff.mp encodes with ⟨first, tail, known, knownRest, rfl⟩
          rcases allBigEndian?_cons_eq_some_iff.mp (same.symm.trans encodes) with
            ⟨first', tail', known', knownRest', equal⟩
          have widths : first'.length = first.length := by
            rw [length_of_fixed otherFixed known', length_of_fixed fixed known]
          rcases List.append_inj equal widths with ⟨rfl, rfl⟩
          have here := eq_of_fixed fixed otherFixed (known.trans known'.symm)
          have behind := induction (fun cell member => leftFixed cell (.tail _ member))
            (fun cell member => rightFixed cell (List.mem_cons_of_mem _ member))
            (knownRest.trans knownRest'.symm)
          rw [here, behind]

end

/-- A cell has bytes unless there is a null in it. They are as many as a quota counts, those of an
array are those of its cells in order, and those of an array of one fixed kind tell the array. -/
theorem bigEndian?_exact :
    (∀ cell : Cell, cell.bigEndian? = none ↔ cell.HoldsNull) ∧
      (∀ (cell : Cell) (bytes : List UInt8), cell.bigEndian? = some bytes →
        bytes.length = cell.byteSize) ∧
      (∀ (cells : List Cell) (bytes : List UInt8), (array cells).bigEndian? = some bytes ↔
        ∃ parts : List (List UInt8),
          cells.map bigEndian? = parts.map some ∧ parts.flatten = bytes) ∧
      ∀ (kind : FixedKind) (left right : List Cell),
        (∀ cell ∈ left, cell.fixedKind? = some kind) →
        (∀ cell ∈ right, cell.fixedKind? = some kind) →
        (array left).bigEndian? = (array right).bigEndian? → left = right := by
  refine ⟨bigEndian?_eq_none_iff, length_bigEndian?, ?_, ?_⟩
  · intro cells bytes
    exact allBigEndian?_eq_some_iff
  · intro kind left right leftFixed rightFixed same
    exact eq_of_allBigEndian?_eq leftFixed rightFixed same

theorem bigEndian?_exact_of_pairs :
    (array [short 1, array [text "x", null]]).bigEndian? = none ∧
      (∀ bytes, (array [short 1, double 0xC000000000000000]).bigEndian? = some bytes →
        bytes.length = 10) ∧
      (array [short 1, short 2]).bigEndian? ≠ (array [short 1, short (-2)]).bigEndian? := by
  refine ⟨?_, ?_, ?_⟩
  · have inner : HoldsNull (array [text "x", null]) := .array (by simp) .null
    exact (bigEndian?_exact.1 _).mpr (.array (by simp) inner)
  · exact bigEndian?_exact.2.1 (array [short 1, double 0xC000000000000000])
  · intro same
    have equal := bigEndian?_exact.2.2.2 .short [short 1, short 2] [short 1, short (-2)] (by decide)
      (by decide) same
    have unequal : (2 : Int16) ≠ -2 := by decide
    injections equal
    contradiction

end Cell

end TableIntake
