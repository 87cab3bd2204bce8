import TableIntake.Numeral.Unsigned

/-! # Which texts are unsigned numbers

The texts are told by a grammar, and the number by the value of the digits. Reading takes
exactly those below its bound, and takes back what was printed.
-/

namespace TableIntake.Numeral

structure Digits (text : List Char) (value : Nat) : Prop where
  present : text ≠ []
  digits : ∀ c ∈ text, c.isDigit = true
  value_eq : Nat.ofDigitChars 10 text 0 = value

/-- The digits of `value`, behind a plus sign or bare. -/
inductive Spells : List Char → Nat → Prop
  | bare (digits : Digits text value) : Spells text value
  | signed (digits : Digits text value) : Spells ('+' :: text) value

variable {text : List Char} {value bound : Nat} {c : Char}

theorem spells_plus_iff : Spells ('+' :: text) value ↔ Digits text value := by
  constructor
  · intro spells
    cases spells with
    | bare digits =>
        have plus := digits.digits '+' List.mem_cons_self
        cases plus
    | signed digits => exact digits
  · exact .signed

theorem spells_iff_of_bare (bare : ∀ rest, text = '+' :: rest → False) :
    Spells text value ↔ Digits text value := by
  constructor
  · intro spells
    cases spells with
    | bare digits => exact digits
    | signed => exact (bare _ rfl).elim
  · exact .bare

theorem Spells.not_mem (spells : Spells text value) (unsigned : c ≠ '+')
    (other : c.isDigit = false) : c ∉ text := by
  intro member
  cases spells with
  | bare digits => simp [digits.digits c member] at other
  | signed digits =>
      rcases List.mem_cons.mp member with sign | digit
      · exact unsigned sign
      · simp [digits.digits c digit] at other

theorem Spells.ne_nil (spells : Spells text value) : text ≠ [] := by
  cases spells with
  | bare digits => exact digits.present
  | signed => exact List.cons_ne_nil _ _

/-! ## Reading -/

theorem digits?_eq_some_iff (start : Nat) : digits? start text = some value ↔
    (∀ c ∈ text, c.isDigit = true) ∧ Nat.ofDigitChars 10 text start = value := by
  induction text generalizing start with
  | nil => simp [digits?]
  | cons c rest induction =>
      have next : Nat.ofDigitChars 10 (c :: rest) start =
          Nat.ofDigitChars 10 rest (10 * start + digitValue c) := rfl
      by_cases digit : c.isDigit = true <;> simp [digits?, digit, induction, next]

theorem digits_iff :
    (if text.isEmpty then none else (digits? 0 text).filter (· < bound)) = some value ↔
      Digits text value ∧ value < bound := by
  by_cases empty : text = []
  · simp only [empty, List.isEmpty_nil, if_true, reduceCtorEq, false_iff]
    rintro ⟨digits, _⟩
    exact digits.present rfl
  · rw [if_neg (by simpa using empty), Option.filter_eq_some_iff, digits?_eq_some_iff,
      decide_eq_true_iff]
    constructor
    · rintro ⟨⟨digits, value_eq⟩, below⟩
      exact ⟨⟨empty, digits, value_eq⟩, below⟩
    · rintro ⟨digits, below⟩
      exact ⟨⟨digits.digits, digits.value_eq⟩, below⟩

theorem unsigned?_eq_some_iff :
    unsigned? bound text = some value ↔ Spells text value ∧ value < bound := by
  rw [unsigned?.eq_def, digits_iff]
  split
  · rw [spells_plus_iff]
  · rename_i bare
    rw [spells_iff_of_bare bare]

theorem unsigned32?_eq_some_iff {number : UInt32} :
    unsigned32? text = some number ↔ Spells text number.toNat := by
  rw [unsigned32?, Option.map_eq_some_iff]
  constructor
  · rintro ⟨value, read, rfl⟩
    rcases unsigned?_eq_some_iff.mp read with ⟨spells, below⟩
    rwa [UInt32.toNat_ofNat_of_lt' below]
  · intro spells
    have read := unsigned?_eq_some_iff.mpr ⟨spells, number.toNat_lt_size⟩
    exact ⟨number.toNat, read, UInt32.ofNat_toNat⟩

/-! ## Printing -/

theorem spells_toString (value : Nat) : Spells (toString value).toList value := by
  rw [Nat.toString_eq_repr, Nat.toList_repr]
  apply Spells.bare
  refine ⟨Nat.toDigits_ne_nil, ?_, ?_⟩
  · intro c member
    exact Nat.isDigit_of_mem_toDigits (by decide) (by decide) member
  · exact Nat.ofDigitChars_toDigits (by decide) (by decide)

end TableIntake.Numeral
