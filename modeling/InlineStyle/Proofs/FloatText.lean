import InlineStyle.Binary64.Shortest
import InlineStyle.Proofs.Numerals

/-! The text of a binary64 number reads back as that number. Rounding depends on the ratio alone and leaves
the representable numbers as they are, so what the digits of the text round to is where they came from. -/

namespace InlineStyle.Binary64

theorem roundedQuotient_scale (numerator denominator : Nat) {factor : Nat} (positive : 0 < factor) :
    roundedQuotient (numerator * factor) (denominator * factor) = roundedQuotient numerator denominator := by
  have quotient : numerator * factor / (denominator * factor) = numerator / denominator :=
    Nat.mul_div_mul_right _ _ positive
  have rest : numerator * factor % (denominator * factor) = numerator % denominator * factor :=
    Nat.mul_mod_mul_right _ _ _
  have below : 2 * (numerator % denominator * factor) < denominator * factor ↔
      2 * (numerator % denominator) < denominator := by
    rw [← Nat.mul_assoc, Nat.mul_lt_mul_right positive]
  have tie : 2 * (numerator % denominator * factor) = denominator * factor ↔
      2 * (numerator % denominator) = denominator := by
    rw [← Nat.mul_assoc, Nat.mul_right_cancel_iff positive]
  simp only [roundedQuotient, quotient, rest, below, tie]

theorem nearest_scale (numerator denominator : Nat) {factor : Nat} (positive : 0 < factor) :
    nearest (numerator * factor) (denominator * factor) = nearest numerator denominator := by
  have scaled : numerator * factor * perOne = numerator * perOne * factor := Nat.mul_right_comm _ _ _
  have quotient : numerator * perOne * factor / (denominator * factor) = numerator * perOne / denominator :=
    Nat.mul_div_mul_right _ _ positive
  have shifted (power : Nat) : denominator * factor * power = denominator * power * factor := Nat.mul_right_comm _ _ _
  simp only [nearest, scaled, quotient, shifted, roundedQuotient_scale _ _ positive]

theorem roundedQuotient_exact (quotient : Nat) {denominator : Nat} (positive : 0 < denominator) :
    roundedQuotient (quotient * denominator) denominator = quotient := by
  simp only [roundedQuotient, Nat.mul_mod_left, Nat.mul_div_cancel _ positive, Nat.mul_zero, positive, true_or, ite_true]

private theorem power_pos (exponent : Nat) : 0 < Nat.pow 2 exponent := Nat.pow_pos (by decide)

theorem perOne_pos : 0 < perOne := power_pos places

private theorem log2_normal {significand : Nat} (fits : significand < Nat.pow 2 52) (shift : Nat) :
    ((Nat.pow 2 52 + significand) * Nat.pow 2 shift).log2 = 52 + shift := by
  have nonzero : (Nat.pow 2 52 + significand) * Nat.pow 2 shift ≠ 0 :=
    Nat.ne_of_gt (Nat.mul_pos (Nat.add_pos_left (power_pos 52) _) (power_pos shift))
  rw [Nat.log2_eq_iff nonzero]
  constructor
  · rw [Nat.pow_add]
    exact Nat.mul_le_mul_right _ (Nat.le_add_right _ _)
  · have below : Nat.pow 2 52 + significand < Nat.pow 2 53 := by
      have twice : Nat.pow 2 53 = Nat.pow 2 52 + Nat.pow 2 52 := rfl
      omega
    have power : (2 : Nat) ^ (52 + shift + 1) = Nat.pow 2 53 * Nat.pow 2 shift := by
      rw [show 52 + shift + 1 = 53 + shift by omega]
      exact Nat.pow_add 2 53 shift
    rw [power]
    exact Nat.mul_lt_mul_of_pos_right below (power_pos shift)

private theorem nearest_units_of_ratio {magnitude shift : Nat} (finite : magnitude < infinite)
    (scale : (units magnitude).log2 - 52 = shift)
    (place : shift * Nat.pow 2 52 + roundedQuotient (units magnitude) (Nat.pow 2 shift) = magnitude) :
    nearest (units magnitude) perOne = magnitude := by
  have quotient : units magnitude * perOne / perOne = units magnitude := Nat.mul_div_cancel _ perOne_pos
  have ratio : roundedQuotient (units magnitude * perOne) (perOne * Nat.pow 2 shift) =
      roundedQuotient (units magnitude) (Nat.pow 2 shift) := by
    rw [Nat.mul_comm perOne, roundedQuotient_scale _ _ perOne_pos]
  simp only [nearest, quotient, scale, ratio, place]
  exact Nat.min_eq_right (Nat.le_of_lt finite)

/-- Rounding leaves a representable number as it is. -/
theorem nearest_units {magnitude : Nat} (finite : magnitude < infinite) : nearest (units magnitude) perOne = magnitude := by
  by_cases small : magnitude < Nat.pow 2 52
  · -- The least numbers are counted one by one.
    have exact : units magnitude = magnitude := by rw [units, if_pos small]
    have short : (units magnitude).log2 - 52 = 0 := by
      rw [exact]
      by_cases zero : magnitude = 0
      · simp [zero]
      · have bound := (Nat.log2_lt zero).mpr small
        omega
    apply nearest_units_of_ratio finite short
    have whole := roundedQuotient_exact magnitude (power_pos 0)
    rw [exact, Nat.zero_mul, Nat.zero_add]
    rwa [show Nat.pow 2 0 = 1 from rfl, Nat.mul_one] at whole
  · -- The shift that rounding finds is the exponent's share of the magnitude.
    have normal : units magnitude = (Nat.pow 2 52 + magnitude % Nat.pow 2 52) * Nat.pow 2 (magnitude / Nat.pow 2 52 - 1) := by
      rw [units, if_neg small]
    have fits : magnitude % Nat.pow 2 52 < Nat.pow 2 52 := Nat.mod_lt _ (power_pos 52)
    have exponent : 0 < magnitude / Nat.pow 2 52 := Nat.div_pos (Nat.le_of_not_lt small) (power_pos 52)
    have parts := Nat.div_add_mod' magnitude (Nat.pow 2 52)
    have scale : (units magnitude).log2 - 52 = magnitude / Nat.pow 2 52 - 1 := by
      rw [normal, log2_normal fits]
      omega
    apply nearest_units_of_ratio finite scale
    rw [normal, roundedQuotient_exact _ (power_pos _), ← Nat.add_assoc, ← Nat.succ_mul]
    rwa [Nat.succ_eq_add_one, Nat.sub_add_cancel exponent]

/-- The decimal, written with `places` places and perhaps more zeros, rounds to the magnitude. -/
def Reads (places magnitude : Nat) (d : Decimal) : Prop :=
  ∃ zeros : Nat, d.exponent = (zeros : Int) - places ∧
    nearest (d.digits * Nat.pow 10 zeros) (Nat.pow 10 places) = magnitude

variable {magnitude : Nat}

theorem Reads.trim {places : Nat} {d : Decimal} (reads : Reads places magnitude d) : Reads places magnitude d.trim := by
  induction d using Decimal.trim.induct with
  | case1 d zero =>
    obtain ⟨zeros, exponent, rounds⟩ := reads
    rw [Decimal.trim, if_pos zero]
    refine ⟨places, by simp, ?_⟩
    rw [zero, Nat.zero_mul] at rounds ⊢
    exact rounds
  | case2 d nonzero ends ih =>
    rw [Decimal.trim, if_neg nonzero, if_pos ends]
    apply ih
    obtain ⟨zeros, exponent, rounds⟩ := reads
    refine ⟨zeros + 1, ?_, ?_⟩
    · simp only [exponent, Int.natCast_add, Int.natCast_one]
      omega
    · have same : d.digits / 10 * Nat.pow 10 (zeros + 1) = d.digits * Nat.pow 10 zeros := by
        have power : Nat.pow 10 (zeros + 1) = 10 * Nat.pow 10 zeros := Nat.pow_succ'
        rw [power, ← Nat.mul_assoc, Nat.div_mul_cancel (Nat.dvd_of_mod_eq_zero ends)]
      rw [same]
      exact rounds
  | case3 d nonzero ends =>
    rw [Decimal.trim, if_neg nonzero, if_neg ends]
    exact reads

theorem negative_trim (d : Decimal) : d.trim.negative = d.negative := by
  induction d using Decimal.trim.induct with
  | case1 d zero => rw [Decimal.trim, if_pos zero]
  | case2 d nonzero ends ih => rw [Decimal.trim, if_neg nonzero, if_pos ends, ih]
  | case3 d nonzero ends => rw [Decimal.trim, if_neg nonzero, if_neg ends]

def Written (negative : Bool) (magnitude : Nat) (text : Text) : Prop :=
  ∃ digits places, 0 < places ∧ text = signed negative (Decimal.fixed digits places) ∧
    nearest digits (Nat.pow 10 places) = magnitude

private theorem fixed_tenfold (whole : Nat) : Decimal.fixed (whole * 10) 1 = numeral whole ++ ".0".toList := by
  have quotient : whole * 10 / Nat.pow 10 1 = whole := Nat.mul_div_cancel _ (by decide)
  have rest : whole * 10 % Nat.pow 10 1 = 0 := Nat.mul_mod_left _ _
  have zero : numeral 0 = ['0'] := numeral_small (by decide)
  simp only [Decimal.fixed, quotient, rest, zero, List.append_assoc]
  rfl

theorem Written.whole {whole : Nat} (negative : Bool) (rounds : nearest whole 1 = magnitude) :
    Written negative magnitude (signed negative (numeral whole ++ ".0".toList)) := by
  refine ⟨whole * 10, 1, by decide, by rw [fixed_tenfold], ?_⟩
  rw [← rounds, ← nearest_scale whole 1 (by decide : 0 < 10)]

theorem Reads.written {places : Nat} {d : Decimal} (reads : Reads places magnitude d) : Written d.negative magnitude d.text := by
  obtain ⟨zeros, exponent, rounds⟩ := reads
  have unit : 0 < Nat.pow 10 places := Nat.pow_pos (by decide)
  cases shape : d.exponent with
  | ofNat more =>
    have same : zeros = more + places := by
      rw [shape, Int.ofNat_eq_natCast] at exponent
      omega
    simp only [Decimal.text, shape]
    apply Written.whole
    rw [← rounds, same, ← nearest_scale _ _ unit, Nat.one_mul, Nat.mul_assoc]
    exact congrArg (fun power => nearest (d.digits * power) (Nat.pow 10 places)) (Nat.pow_add 10 more places).symm
  | negSucc spots =>
    have same : places = spots + 1 + zeros := by
      rw [shape] at exponent
      omega
    simp only [Decimal.text, shape]
    refine ⟨d.digits, spots + 1, Nat.succ_pos _, rfl, ?_⟩
    rw [← rounds, same, ← nearest_scale _ _ (Nat.pow_pos (by decide) : 0 < Nat.pow 10 zeros)]
    exact congrArg (nearest (d.digits * Nat.pow 10 zeros)) (Nat.pow_add 10 (spots + 1) zeros).symm

theorem readsBack_iff {digits dropped : Nat} : readsBack magnitude digits dropped = true ↔
    nearest (digits * Nat.pow 10 dropped) (Nat.pow 10 places) = magnitude := by
  rw [readsBack, beq_iff_eq]

theorem nearest_of_neighbour? {dropped digits : Nat} (found : neighbour? magnitude dropped = some digits) :
    nearest (digits * Nat.pow 10 dropped) (Nat.pow 10 places) = magnitude := by
  rw [neighbour?] at found
  have reads := List.find?_some found
  exact readsBack_iff.mp reads

theorem nearest_expansion (finite : magnitude < infinite) :
    nearest (expansion magnitude) (Nat.pow 10 places) = magnitude := by
  have power (exponent : Nat) : Nat.pow 10 exponent = Nat.pow 2 exponent * Nat.pow 5 exponent := Nat.mul_pow 2 5 exponent
  have five (exponent : Nat) : 0 < Nat.pow 5 exponent := Nat.pow_pos (by decide)
  rw [power, expansion, nearest_scale _ _ (five _)]
  exact nearest_units finite

theorem nearest_shortestDigits (finite : magnitude < infinite) :
    nearest ((shortestDigits magnitude).1 * Nat.pow 10 (shortestDigits magnitude).2) (Nat.pow 10 places) = magnitude := by
  rw [shortestDigits]
  cases search : (List.range 17).findSome? fun count =>
      (neighbour? magnitude ((numeral (expansion magnitude)).length - (count + 1))).map
        (·, (numeral (expansion magnitude)).length - (count + 1)) with
  | none =>
    have whole : expansion magnitude * Nat.pow 10 0 = expansion magnitude := Nat.mul_one _
    simp only [Option.getD_none, whole]
    exact nearest_expansion finite
  | some chosen =>
    obtain ⟨count, _, found⟩ := List.exists_of_findSome?_eq_some search
    obtain ⟨digits, neighbour, rfl⟩ := Option.map_eq_some_iff.mp found
    simp only [Option.getD_some]
    exact nearest_of_neighbour? neighbour

private theorem findSome?_range_of_zero {α : Type} {f : Nat → Option α} {found : α} (first : f 0 = some found) (count : Nat) :
    (List.range (count + 1)).findSome? f = some found := by
  rw [List.range_succ_eq_map, List.findSome?_cons, first]

/-- If one digit reads back, it is all that is written. -/
theorem shortestDigits_of_one {width digit : Nat} (least : Nat.pow 10 width ≤ expansion magnitude)
    (most : expansion magnitude < Nat.pow 10 (width + 1)) (found : neighbour? magnitude width = some digit) :
    shortestDigits magnitude = (digit, width) := by
  have dropped : (numeral (expansion magnitude)).length - (0 + 1) = width := by
    rw [length_numeral least most, Nat.zero_add, Nat.add_sub_cancel]
  have first : (neighbour? magnitude ((numeral (expansion magnitude)).length - (0 + 1))).map
      (·, (numeral (expansion magnitude)).length - (0 + 1)) = some (digit, width) := by
    rw [dropped, found, Option.map_some]
  rw [shortestDigits, findSome?_range_of_zero first, Option.getD_some]

variable {x y : Binary64}

theorem Reads.of_digits (negative : Bool) {digits zeros places : Nat}
    (rounds : nearest (digits * Nat.pow 10 zeros) (Nat.pow 10 places) = magnitude) :
    Reads places magnitude { negative, digits, exponent := (zeros : Int) - places } :=
  ⟨zeros, rfl, rounds⟩

theorem lt_infinite (finite : x.isFinite = true) : x.magnitude < infinite := of_decide_eq_true finite

theorem reads_shortest (finite : x.isFinite = true) : Reads places x.magnitude x.shortest := by
  have reads := Reads.of_digits x.isNegative (nearest_shortestDigits (lt_infinite finite))
  rw [shortest]
  exact reads.trim

theorem negative_shortest (x : Binary64) : x.shortest.negative = x.isNegative := by
  rw [shortest, negative_trim]

/-- A finite number is written as a fixed point number that rounds to it. -/
theorem written_finiteText (finite : x.isFinite = true) : Written x.isNegative x.magnitude x.finiteText := by
  by_cases whole : x.isWhole = true
  · rw [finiteText, if_pos whole]
    have exact : units x.magnitude / perOne * perOne = units x.magnitude :=
      Nat.div_mul_cancel (Nat.dvd_of_mod_eq_zero (eq_of_beq whole))
    apply Written.whole
    rw [← nearest_scale _ _ perOne_pos, exact, Nat.one_mul]
    exact nearest_units (lt_infinite finite)
  · rw [finiteText, if_neg whole, ← negative_shortest]
    exact (reads_shortest finite).written

theorem Written.unique {negative other : Bool} {magnitude size : Nat} {text : Text}
    (written : Written negative magnitude text) (another : Written other size text) :
    negative = other ∧ magnitude = size := by
  obtain ⟨digits, places, positive, rfl, rounds⟩ := written
  obtain ⟨others, spots, otherPositive, same, otherRounds⟩ := another
  have unsigned (digits places : Nat) : '-' ∉ Decimal.fixed digits places := by
    intro member
    rcases Decimal.mem_fixed member with digit | point
    · exact absurd digit (by decide)
    · exact absurd point (by decide)
  obtain ⟨sign, fixed⟩ := signed_injective (unsigned _ _) (unsigned _ _) same
  obtain ⟨rfl, rfl⟩ := Decimal.fixed_injective positive otherPositive fixed
  exact ⟨sign, rounds.symm.trans otherRounds⟩

/-- A number is its sign and its magnitude. -/
theorem eq_of_sign_of_magnitude (sign : x.isNegative = y.isNegative) (size : x.magnitude = y.magnitude) : x = y := by
  have sign : Nat.pow 2 63 ≤ x.bits.toNat ↔ Nat.pow 2 63 ≤ y.bits.toNat := decide_eq_decide.mp sign
  have size : x.bits.toNat % Nat.pow 2 63 = y.bits.toNat % Nat.pow 2 63 := size
  have bound : x.bits.toNat < 2 * Nat.pow 2 63 := x.bits.toNat_lt
  have otherBound : y.bits.toNat < 2 * Nat.pow 2 63 := y.bits.toNat_lt
  have bits : x.bits.toNat = y.bits.toNat := by
    rw [show Nat.pow 2 63 = 9223372036854775808 from rfl] at sign size bound otherBound
    omega
  cases x
  cases y
  exact congrArg Binary64.mk (UInt64.toNat_inj.mp bits)

theorem isNaN_of_finite (finite : x.isFinite = true) : x.isNaN = false := by
  have bound := lt_infinite finite
  rw [isNaN, decide_eq_false_iff_not]
  exact Nat.not_lt_of_lt bound

theorem text_of_finite (finite : x.isFinite = true) : x.text = x.finiteText := by
  have number : ¬ x.isNaN = true := by
    rw [isNaN_of_finite finite]
    exact Bool.false_ne_true
  rw [text, if_neg number, if_pos finite]

theorem text_of_infinite (number : x.isNaN = false) (infinite : x.isFinite = false) :
    x.text = signed x.isNegative "inf".toList := by
  simp only [text, number, infinite, Bool.false_eq_true, ite_false]

theorem magnitude_of_infinite (number : x.isNaN = false) (unbounded : x.isFinite = false) : x.magnitude = infinite := by
  have least : ¬ infinite < x.magnitude := of_decide_eq_false number
  have most : ¬ x.magnitude < infinite := of_decide_eq_false unbounded
  exact Nat.le_antisymm (Nat.le_of_not_lt least) (Nat.le_of_not_lt most)

theorem point_mem_text (finite : x.isFinite = true) : '.' ∈ x.text := by
  obtain ⟨digits, places, _, shape, _⟩ := written_finiteText finite
  rw [text_of_finite finite, shape, Decimal.fixed_eq]
  cases x.isNegative <;> simp [signed]

/-- The text of a number holds no mark of an object literal. -/
theorem mem_text {c : Char} (number : x.isNaN = false) (member : c ∈ x.text) : c.isAlphanum = true ∨ c = '.' ∨ c = '-' := by
  cases finite : x.isFinite with
  | false =>
    rw [text_of_infinite number finite] at member
    rcases mem_signed member with minus | letter
    · exact .inr (.inr minus)
    · have letters : ∀ c ∈ "inf".toList, c.isAlphanum = true := Text.forall_of_all (by decide)
      exact .inl (letters c letter)
  | true =>
    obtain ⟨digits, places, _, shape, _⟩ := written_finiteText finite
    rw [text_of_finite finite, shape] at member
    rcases mem_signed member with minus | inside
    · exact .inr (.inr minus)
    · rcases Decimal.mem_fixed inside with digit | point
      · exact .inl (by simp [Char.isAlphanum, digit])
      · exact .inr (.inl point)

theorem text_ne_nil (number : x.isNaN = false) : x.text ≠ [] := by
  cases finite : x.isFinite with
  | false =>
    rw [text_of_infinite number finite]
    cases x.isNegative <;> simp [signed]
  | true => exact List.ne_nil_of_mem (point_mem_text finite)

theorem text_ne_integerText (number : x.isNaN = false) (value : Int) : x.text ≠ integerText value := by
  intro same
  have mark : ∃ c ∈ x.text, c ≠ '-' ∧ c.isDigit = false := by
    cases finite : x.isFinite with
    | false =>
      refine ⟨'i', ?_, by decide⟩
      rw [text_of_infinite number finite]
      cases x.isNegative <;> simp [signed]
    | true => exact ⟨'.', point_mem_text finite, by decide⟩
  obtain ⟨c, member, unsigned, other⟩ := mark
  rcases mem_integerText (same ▸ member) with minus | digit
  · exact unsigned minus
  · exact Bool.false_ne_true (other.symm.trans digit)

theorem finite_of_same_text (otherNumber : y.isNaN = false) (same : x.text = y.text)
    (finite : x.isFinite = true) : y.isFinite = true := by
  cases otherFinite : y.isFinite with
  | true => rfl
  | false =>
    have point := point_mem_text finite
    rw [same, text_of_infinite otherNumber otherFinite] at point
    rcases mem_signed point with minus | letter
    · exact absurd minus (by decide)
    · exact absurd letter (by decide)

/-- Two numbers with one text are the same, bit by bit. -/
theorem text_injective (number : x.isNaN = false) (otherNumber : y.isNaN = false) (same : x.text = y.text) : x = y := by
  cases finite : x.isFinite with
  | true =>
    have otherFinite := finite_of_same_text otherNumber same finite
    rw [text_of_finite finite, text_of_finite otherFinite] at same
    have written := written_finiteText finite
    rw [same] at written
    obtain ⟨sign, size⟩ := written.unique (written_finiteText otherFinite)
    exact eq_of_sign_of_magnitude sign size
  | false =>
    have otherFinite : y.isFinite = false := by
      cases otherFinite : y.isFinite with
      | false => rfl
      | true =>
        have impossible := finite_of_same_text number same.symm otherFinite
        rw [finite] at impossible
        cases impossible
    rw [text_of_infinite number finite, text_of_infinite otherNumber otherFinite] at same
    obtain ⟨sign, _⟩ := signed_injective (by decide) (by decide) same
    have size : x.magnitude = y.magnitude := by
      rw [magnitude_of_infinite number finite, magnitude_of_infinite otherNumber otherFinite]
    exact eq_of_sign_of_magnitude sign size

end InlineStyle.Binary64
