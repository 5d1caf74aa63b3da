import InlineStyle.Decimal

/-! Numerals read back. The numeral of a number stands for that number, and the two numerals of a fixed point
number tell its digits and how many of them stand behind the point. -/

namespace InlineStyle

private theorem digit_facts : ∀ digit < 10,
    (Char.ofNat (digit + 48)).isDigit = true ∧ (Char.ofNat (digit + 48)).toNat - 48 = digit := by
  decide

theorem numeral_small {value : Nat} (small : value < 10) : numeral value = [Char.ofNat (value + 48)] := by
  rw [numeral, if_pos small]

theorem numeral_large {value : Nat} (large : ¬ value < 10) :
    numeral value = numeral (value / 10) ++ [Char.ofNat (value % 10 + 48)] := by
  rw [numeral, if_neg large]

theorem ofNumeral_concat (digits : Text) (c : Char) : ofNumeral (digits ++ [c]) = 10 * ofNumeral digits + (c.toNat - 48) := by
  simp [ofNumeral]

theorem ofNumeral_numeral (value : Nat) : ofNumeral (numeral value) = value := by
  induction value using numeral.induct with
  | case1 value small =>
    have digit := (digit_facts value small).2
    simpa [numeral_small small, ofNumeral] using digit
  | case2 value large ih =>
    have digit := (digit_facts (value % 10) (Nat.mod_lt _ (by decide))).2
    rw [numeral_large large, ofNumeral_concat, ih, digit]
    exact Nat.div_add_mod value 10

theorem numeral_injective {first second : Nat} (same : numeral first = numeral second) : first = second := by
  rw [← ofNumeral_numeral first, same, ofNumeral_numeral]

theorem isDigit_of_mem_numeral {value : Nat} {c : Char} (member : c ∈ numeral value) : c.isDigit = true := by
  induction value using numeral.induct with
  | case1 value small =>
    rw [numeral_small small] at member
    rw [List.mem_singleton.mp member]
    exact (digit_facts value small).1
  | case2 value large ih =>
    rw [numeral_large large] at member
    rcases List.mem_append.mp member with front | last
    · exact ih front
    · rw [List.mem_singleton.mp last]
      exact (digit_facts (value % 10) (Nat.mod_lt _ (by decide))).1

theorem numeral_ne_nil (value : Nat) : numeral value ≠ [] := by
  by_cases small : value < 10
  · simp [numeral_small small]
  · simp [numeral_large small]

/-- Only the numeral of zero starts with a zero. -/
theorem eq_zero_of_head?_numeral {value : Nat} (leading : (numeral value).head? = some '0') : value = 0 := by
  induction value using numeral.induct with
  | case1 value small =>
    have distinct : ∀ digit < 10, Char.ofNat (digit + 48) = '0' → digit = 0 := by decide
    rw [numeral_small small] at leading
    exact distinct value small (Option.some.inj leading)
  | case2 value large ih =>
    obtain ⟨c, front, shape⟩ := List.exists_cons_of_ne_nil (numeral_ne_nil (value / 10))
    rw [numeral_large large, shape, List.cons_append, List.head?_cons] at leading
    have zero := ih (by rw [shape, List.head?_cons, leading])
    omega

theorem length_numeral_le {value places : Nat} (positive : 0 < places) (fits : value < Nat.pow 10 places) :
    (numeral value).length ≤ places := by
  induction value using numeral.induct generalizing places with
  | case1 value small => simpa [numeral_small small] using Nat.succ_le_of_lt positive
  | case2 value large ih =>
    obtain ⟨places, rfl⟩ := Nat.exists_eq_add_one_of_ne_zero (Nat.ne_of_gt positive)
    have power : Nat.pow 10 (places + 1) = 10 * Nat.pow 10 places := Nat.pow_succ'
    have more : 0 < places := by
      rcases Nat.eq_zero_or_pos places with rfl | more
      · exact absurd fits large
      · exact more
    have front := ih more (Nat.div_lt_of_lt_mul (power ▸ fits))
    rw [numeral_large large, List.length_append, List.length_singleton]
    omega

theorem lt_pow_length_numeral (value : Nat) : value < Nat.pow 10 (numeral value).length := by
  induction value using numeral.induct with
  | case1 value small => rwa [numeral_small small]
  | case2 value large ih =>
    rw [numeral_large large, List.length_append, List.length_singleton]
    have power : Nat.pow 10 ((numeral (value / 10)).length + 1) = Nat.pow 10 (numeral (value / 10)).length * 10 := rfl
    omega

theorem length_numeral {value places : Nat} (least : Nat.pow 10 places ≤ value) (most : value < Nat.pow 10 (places + 1)) :
    (numeral value).length = places + 1 := by
  have short := length_numeral_le (Nat.succ_pos places) most
  have long : places < (numeral value).length :=
    (Nat.pow_lt_pow_iff_right (by decide : 1 < 10)).mp (Nat.lt_of_le_of_lt least (lt_pow_length_numeral value))
  omega

theorem ofNumeral_zeros (count : Nat) (digits : Text) : ofNumeral (List.replicate count '0' ++ digits) = ofNumeral digits := by
  induction count with
  | zero => rfl
  | succ count ih => exact ih

theorem mark_notMem_numeral {mark : Char} (value : Nat) (other : mark.isDigit = false) : mark ∉ numeral value := by
  intro member
  exact Bool.false_ne_true (other.symm.trans (isDigit_of_mem_numeral member))

theorem integerText_natural (value : Nat) : integerText value = numeral value := by
  have positive : ¬ (value : Int) < 0 := by omega
  simp [integerText, signed, positive]

theorem signed_injective {first second : Bool} {left right : Text} (unsigned : '-' ∉ left) (otherUnsigned : '-' ∉ right)
    (same : signed first left = signed second right) : first = second ∧ left = right := by
  cases first <;> cases second
  · exact ⟨rfl, same⟩
  · have shape : left = '-' :: right := same
    simp [shape] at unsigned
  · have shape : '-' :: left = right := same
    simp [← shape] at otherUnsigned
  · exact ⟨rfl, (List.cons.inj same).2⟩

theorem mem_signed {negative : Bool} {text : Text} {c : Char} (member : c ∈ signed negative text) : c = '-' ∨ c ∈ text := by
  cases negative with
  | false => exact .inr member
  | true => exact List.mem_cons.mp member

theorem mem_integerText {value : Int} {c : Char} (member : c ∈ integerText value) : c = '-' ∨ c.isDigit = true :=
  (mem_signed member).imp_right isDigit_of_mem_numeral

theorem integerText_injective {first second : Int} (same : integerText first = integerText second) : first = second := by
  obtain ⟨signs, sizes⟩ :=
    signed_injective (mark_notMem_numeral _ (by decide)) (mark_notMem_numeral _ (by decide)) same
  have size := numeral_injective sizes
  have sign : first < 0 ↔ second < 0 := decide_eq_decide.mp signs
  omega

namespace Decimal

def fraction (digits places : Nat) : Text :=
  let last := numeral (digits % Nat.pow 10 places)
  List.replicate (places - last.length) '0' ++ last

theorem fixed_eq (digits places : Nat) :
    fixed digits places = numeral (digits / Nat.pow 10 places) ++ '.' :: fraction digits places := by
  simp only [fixed, fraction, List.append_assoc, List.cons_append, List.nil_append]

theorem length_fraction (digits : Nat) {places : Nat} (positive : 0 < places) :
    (fraction digits places).length = places := by
  have fits : digits % Nat.pow 10 places < Nat.pow 10 places := Nat.mod_lt _ (Nat.pow_pos (by decide))
  have short := length_numeral_le positive fits
  simp only [fraction, List.length_append, List.length_replicate]
  omega

theorem ofNumeral_fraction (digits places : Nat) : ofNumeral (fraction digits places) = digits % Nat.pow 10 places := by
  rw [fraction, ofNumeral_zeros, ofNumeral_numeral]

/-- A fixed point text tells its digits and its places. -/
theorem fixed_injective {digits places others spots : Nat} (positive : 0 < places) (otherPositive : 0 < spots)
    (same : fixed digits places = fixed others spots) : digits = others ∧ places = spots := by
  rw [fixed_eq, fixed_eq] at same
  obtain ⟨whole, behind⟩ := Text.append_cons_inj (mark_notMem_numeral _ (by decide)) (mark_notMem_numeral _ (by decide)) same
  have length : places = spots := by
    rw [← length_fraction digits positive, behind, length_fraction others otherPositive]
  subst length
  have front : digits / Nat.pow 10 places = others / Nat.pow 10 places := numeral_injective whole
  have back : digits % Nat.pow 10 places = others % Nat.pow 10 places := by
    rw [← ofNumeral_fraction, behind, ofNumeral_fraction]
  refine ⟨?_, rfl⟩
  rw [← Nat.div_add_mod digits (Nat.pow 10 places), front, back, Nat.div_add_mod]

theorem isDigit_of_mem_fraction {digits places : Nat} {c : Char} (member : c ∈ fraction digits places) :
    c.isDigit = true := by
  rcases List.mem_append.mp member with zero | last
  · rw [(List.mem_replicate.mp zero).2]
    rfl
  · exact isDigit_of_mem_numeral last

theorem mem_fixed {digits places : Nat} {c : Char} (member : c ∈ fixed digits places) : c.isDigit = true ∨ c = '.' := by
  rw [fixed_eq] at member
  rcases List.mem_append.mp member with front | back
  · exact .inl (isDigit_of_mem_numeral front)
  · rcases List.mem_cons.mp back with point | behind
    · exact .inr point
    · exact .inl (isDigit_of_mem_fraction behind)

end Decimal
end InlineStyle
