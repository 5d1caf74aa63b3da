import InlineStyle.Proofs.Rounding
import InlineStyle.Value

/-! Reading the text of a float. It is a point between digits, perhaps behind a minus sign, and of all floats the one that it
was written for is nearest to the number that it says. -/

namespace InlineStyle

/-- The text has digits on both sides of a point and says that number, with a sign or without. -/
inductive Decimal.Spells (text : Text) (negative : Bool) (number : ℚ) : Prop where
  | pointed {whole fraction : Text} (shape : text = signed negative (whole ++ '.' :: fraction))
      (front : whole ≠ []) (back : fraction ≠ []) (digits : ∀ c ∈ whole ++ fraction, c.isDigit = true)
      (sum : number = ofNumeral whole + ofNumeral fraction / 10 ^ fraction.length)

namespace Decimal

variable {text : Text} {negative other : Bool} {number another : ℚ}

/-- A text is read in one way only. -/
theorem Spells.unique (spells : Spells text negative number) (others : Spells text other another) :
    negative = other ∧ number = another := by
  have unmarked {mark : Char} {digits : Text} (numeric : ∀ c ∈ digits, c.isDigit = true) (isMark : mark.isDigit = false) :
      mark ∉ digits := fun member => Bool.false_ne_true (isMark.symm.trans (numeric mark member))
  have unsigned {whole fraction : Text} (digits : ∀ c ∈ whole ++ fraction, c.isDigit = true) : '-' ∉ whole ++ '.' :: fraction := by
    have absent := unmarked digits (by decide : '-'.isDigit = false)
    simpa using absent
  obtain ⟨rfl, -, -, digits, rfl⟩ := spells
  obtain ⟨shape, -, -, otherDigits, rfl⟩ := others
  obtain ⟨sign, pointed⟩ := signed_injective (unsigned digits) (unsigned otherDigits) shape
  rw [List.forall_mem_append] at digits otherDigits
  obtain ⟨rfl, rfl⟩ := Text.append_cons_inj (unmarked digits.1 (by decide)) (unmarked otherDigits.1 (by decide)) pointed
  exact ⟨sign, rfl⟩

theorem spells_fixed (negative : Bool) (digits : Nat) {places : Nat} (positive : 0 < places) :
    Spells (signed negative (fixed digits places)) negative (digits / (Nat.pow 10 places : Nat)) := by
  refine .pointed (congrArg (signed negative) (fixed_eq digits places)) (numeral_ne_nil _) ?_ ?_ ?_
  · apply List.ne_nil_of_length_pos
    rwa [length_fraction digits positive]
  · rw [List.forall_mem_append]
    exact ⟨fun c => isDigit_of_mem_numeral, fun c => isDigit_of_mem_fraction⟩
  · have power : ((Nat.pow 10 places : Nat) : ℚ) = 10 ^ places := Nat.cast_pow 10 places
    have split : ((digits / Nat.pow 10 places : Nat) : ℚ) * 10 ^ places + (digits % Nat.pow 10 places : Nat) = digits := by
      rw [← power]
      exact_mod_cast Nat.div_add_mod' digits (Nat.pow 10 places)
    rw [ofNumeral_numeral, ofNumeral_fraction, length_fraction digits positive, power, ← split]
    field_simp

end Decimal

namespace Binary64

variable {x y : Binary64} {negative : Bool} {number : ℚ}

structure Rounds (negative : Bool) (number : ℚ) (x : Binary64) : Prop where
  sign : x.isNegative = negative
  nearest : Nearest number x.magnitude

theorem Rounds.unique (rounds : Rounds negative number x) (others : Rounds negative number y) : x = y :=
  eq_of_sign_of_magnitude (rounds.sign.trans others.sign.symm) (rounds.nearest.unique others.nearest)

/-- What the text of a finite float says rounds to that float. -/
theorem exists_spells (finite : x.isFinite = true) :
    ∃ number, Decimal.Spells (Value.float x).text x.isNegative number ∧ Rounds x.isNegative number x := by
  obtain ⟨digits, places, positive, shape, rounds⟩ := written_finiteText finite
  refine ⟨digits / (Nat.pow 10 places : Nat), ?_, rfl, ?_⟩
  · rw [Value.text, text_of_finite finite, shape]
    exact Decimal.spells_fixed x.isNegative digits positive
  · rw [← rounds]
    exact nearest_nearest digits (Nat.pow_pos (by decide))

theorem text_ne_of_integer (x : Binary64) (value : Int) : x.text ≠ integerText value := by
  cases number : x.isNaN with
  | false => exact text_ne_integerText number value
  | true =>
    intro same
    have letter : 'N' ∈ integerText value := by
      rw [← same, text, if_pos number]
      decide
    rcases mem_integerText letter with minus | digit
    · exact absurd minus (by decide)
    · exact absurd digit (by decide)

/-- A finite float is written with a point between digits, and however that text is read, it rounds to the float it was written
for, bit by bit. So no two finite floats are written alike, nor a float and an integer. -/
theorem text_reads_back (finite : x.isFinite = true) :
    (∃ number, Decimal.Spells (Value.float x).text x.isNegative number) ∧
    (∀ negative number, Decimal.Spells (Value.float x).text negative number → ∀ y, Rounds negative number y ↔ y = x) ∧
    (∀ y : Binary64, y.isFinite = true → (Value.float y).text = (Value.float x).text → y = x) ∧
    ∀ (y : Binary64) (value : Int), (Value.float y).text ≠ (Value.int value).text := by
  obtain ⟨number, spells, rounds⟩ := exists_spells finite
  have read (negative : Bool) (other : ℚ) (spelled : Decimal.Spells (Value.float x).text negative other) (y : Binary64) :
      Rounds negative other y ↔ y = x := by
    obtain ⟨rfl, rfl⟩ := spells.unique spelled
    constructor
    · exact fun others => others.unique rounds
    · rintro rfl
      exact rounds
  refine ⟨⟨number, spells⟩, read, fun y otherFinite same => ?_, text_ne_of_integer⟩
  obtain ⟨another, otherSpells, others⟩ := exists_spells otherFinite
  exact (read y.isNegative another (same ▸ otherSpells) y).mp others

/-- Minus zero, and the smallest positive number, which is written with 324 places. -/
theorem text_reads_back_of_least :
    let minusZero : Binary64 := ⟨0x8000000000000000⟩
    let least : Binary64 := ⟨1⟩
    minusZero.isFinite = true ∧ (Value.float minusZero).text = "-0.0".toList ∧ (∀ y, Rounds true 0 y ↔ y = minusZero) ∧
      least.isFinite = true ∧ ∃ number, Decimal.Spells (Value.float least).text false number ∧ ∀ y, Rounds false number y ↔ y = least := by
  intro minusZero least
  have finite : minusZero.isFinite = true := by decide +kernel
  have text : (Value.float minusZero).text = "-0.0".toList := by decide +kernel
  have zero : ofNumeral ['0'] = 0 := rfl
  have spells : Decimal.Spells (Value.float minusZero).text true 0 :=
    @Decimal.Spells.pointed _ _ _ ['0'] ['0'] text (List.cons_ne_nil _ _) (List.cons_ne_nil _ _) (List.all_eq_true.mp rfl)
      (by simp [zero])
  have leastFinite : least.isFinite = true := by decide +kernel
  obtain ⟨⟨number, leastSpells⟩, read, -⟩ := text_reads_back leastFinite
  refine ⟨finite, text, (text_reads_back finite).2.1 true 0 spells, leastFinite, number, leastSpells, ?_⟩
  exact read _ _ leastSpells

end Binary64
end InlineStyle
