import InlineStyle.Proofs.Numerals
import InlineStyle.Proofs.Schema
import Mathlib.Data.List.Induction
import Mathlib.Data.Nat.Digits.Defs

/-! Numbers in class words at the limit of what a style holds. A number of any length is taken exactly or refused,
and zeros in front of it change nothing. -/

namespace InlineStyle

/-- Words with a number of any length, by what stands around it. -/
structure Measured where
  front : String
  back : String
  family : Family
  property : Property
  /-- How many pixels a unit of the number is. -/
  scale : Nat
  /-- Why a number that is too large is refused. -/
  reason : Text → Text

namespace Measured

def word (measured : Measured) (digits : Text) : Text := measured.front.toList ++ digits ++ measured.back.toList

def spacing (front : String) (family : Family) (property : Property) : Measured :=
  { front, back := "", family, property, scale := 4, reason := fun _ => "spacing value out of range".toList }

def size : Measured where
  front := "text-["
  back := "px]"
  family := .text
  property := .fontSize
  scale := 1
  reason digits := "font size '".toList ++ digits ++ "': number too large to fit in target type".toList

def leads : List (String × Family × Property) := [
  ("mb-", .margin, .marginBottom),
  ("mt-", .margin, .marginTop),
  ("mr-", .margin, .marginRight),
  ("ml-", .margin, .marginLeft),
  ("p-", .padding, .padding),
  ("px-", .padding, .paddingHorizontal),
  ("py-", .padding, .paddingVertical)]

def all : List Measured := size :: leads.map fun (front, family, property) => spacing front family property

end Measured

/-- The number that decimal digits denote, the last of them counting ones. -/
def denoted (digits : Text) : Nat := Nat.ofDigits 10 (digits.reverse.map digitValue)

variable {digits : Text} {measured : Measured}

theorem denoted_concat (digits : Text) (c : Char) : denoted (digits ++ [c]) = digitValue c + 10 * denoted digits := by
  simp [denoted, Nat.ofDigits_cons]

theorem ofNumeral_eq_denoted (numeral : isNumeral digits = true) : ofNumeral digits = denoted digits := by
  induction digits using List.reverseRecOn with
  | nil => rfl
  | append_singleton digits c ih =>
    obtain ⟨front, last⟩ : isNumeral digits = true ∧ c.isDigit = true := by simpa [isNumeral] using numeral
    rw [ofNumeral_concat, denoted_concat, ih front, digitValue, if_pos last, Nat.add_comm]

theorem denoted_zeros (zeros : Nat) (digits : Text) : denoted (List.replicate zeros '0' ++ digits) = denoted digits := by
  have zero : digitValue '0' = 0 := rfl
  simp [denoted, zero, Nat.ofDigits_append_replicate_zero]

theorem Grammar.Digits.zeros (number : Grammar.Digits digits) (zeros : Nat) :
    Grammar.Digits (List.replicate zeros '0' ++ digits) := by
  refine ⟨by simp [number.1], ?_⟩
  have zero : ('0' : Char).isDigit = true := rfl
  simpa [isNumeral, zero] using number.2

namespace Measured

/-- The number decides alone between the pixels and a refusal. -/
def Taken (measured : Measured) (digits : Text) : Prop :=
  ∃ fault : InvalidValue, fault.token = measured.word digits ∧ fault.cause.message = measured.reason digits ∧
    resolve (measured.word digits) = some (measured.family,
      if measured.scale * denoted digits ≤ largest then
        .ok (.set measured.property (.int ↑(measured.scale * denoted digits)))
      else .error fault)

private theorem listed_leads : ∀ lead ∈ leads, ∃ spacing ∈ Grammar.spacings lead.2.1,
    spacing.lead = lead.1.toList ∧ spacing.property = lead.2.2 := by
  decide

private theorem taken_spacing {front : String} {family : Family} {property : Property}
    (listed : (front, family, property) ∈ leads) (number : Grammar.Digits digits) :
    (spacing front family property).Taken digits := by
  obtain ⟨known, member, lead, written⟩ := listed_leads _ listed
  have resolved := Grammar.resolve_units member number
  rw [lead, written, ofNumeral_eq_denoted number.2, Nat.mul_comm, Int.mul_comm] at resolved
  have shape : (spacing front family property).word digits = front.toList ++ digits := List.append_nil _
  exact ⟨⟨front.toList ++ digits, .spacingOutOfRange⟩, shape.symm, rfl, shape ▸ resolved⟩

private theorem taken_size (number : Grammar.Digits digits) : size.Taken digits := by
  have resolved := Grammar.resolve_size number
  rw [ofNumeral_eq_denoted number.2, ← Nat.one_mul (denoted digits)] at resolved
  exact ⟨⟨size.word digits, .sizeTooLarge digits⟩, rfl, rfl, resolved⟩

theorem taken (listed : measured ∈ all) (number : Grammar.Digits digits) : measured.Taken digits := by
  rcases List.mem_cons.mp listed with rfl | lead
  · exact taken_size number
  · obtain ⟨⟨front, family, property⟩, member, rfl⟩ := List.mem_map.mp lead
    exact taken_spacing member number

end Measured

theorem natural_of_mem_writes {token : Text} {property : Property} {pixels : Int}
    (written : (property, .int pixels) ∈ writes token) : 0 ≤ pixels ∧ pixels ≤ largest := by
  have fits : property.Fits (.int pixels) := fits_of_mem_writes written
  cases fits with
  | measure bounded taken => exact ⟨Int.natCast_nonneg _, Int.ofNat_le.mpr bounded⟩

/-- A number of any length is written exactly if its pixels are at most the largest integer of 64 bits, and refused otherwise.
Zeros in front of it change neither, and no integer that a word writes is negative or above that limit. -/
theorem resolve_measured (number : Grammar.Digits digits) :
    (∀ measured ∈ Measured.all,
      let token := measured.word digits
      let pixels := measured.scale * denoted digits
      (resolve token = some (measured.family, .ok (.set measured.property (.int pixels))) ↔ pixels ≤ 9223372036854775807) ∧
      (9223372036854775807 < pixels → ∃ fault, resolve token = some (measured.family, .error fault) ∧
        fault.token = token ∧ fault.cause.message = measured.reason digits) ∧
      ∀ zeros effect, resolve (measured.word (List.replicate zeros '0' ++ digits)) = some (measured.family, .ok effect) ↔
        resolve token = some (measured.family, .ok effect)) ∧
    ∀ token property pixels, (property, .int pixels) ∈ writes token → 0 ≤ pixels ∧ pixels ≤ 9223372036854775807 := by
  refine ⟨fun measured listed => ?_, fun token property pixels => natural_of_mem_writes⟩
  intro token pixels
  obtain ⟨fault, about, message, resolved⟩ := Measured.taken listed number
  refine ⟨?_, fun large => ⟨fault, ?_, about, message⟩, fun zeros effect => ?_⟩
  · by_cases fits : pixels ≤ largest
    · rw [resolved, if_pos fits]
      exact iff_of_true rfl fits
    · rw [resolved, if_neg fits]
      exact iff_of_false (by simp) fits
  · have refused : ¬ measured.scale * denoted digits ≤ largest := Nat.not_le.mpr large
    rw [resolved, if_neg refused]
  · -- Both words are decided by the one number, and only their faults name different words.
    obtain ⟨_, _, _, padded⟩ := Measured.taken listed (number.zeros zeros)
    rw [resolved, padded, denoted_zeros]
    split <;> simp

/-- The largest integer with a zero in front of it, once as it stands and once in units that it has too many of. -/
theorem resolve_measured_at_limit :
    let digits := "09223372036854775807".toList
    resolve (Measured.size.word digits) = some (.text, .ok (.set .fontSize (.int 9223372036854775807))) ∧
      ∃ fault, resolve ("px-".toList ++ digits) = some (.padding, .error fault) ∧
        fault.cause.message = "spacing value out of range".toList := by
  intro digits
  have number : Grammar.Digits digits := ⟨by decide, by decide⟩
  have value : denoted digits = 9223372036854775807 := by decide +kernel
  obtain ⟨measured, -⟩ := resolve_measured number
  obtain ⟨size, -, -⟩ := measured Measured.size (by simp [Measured.all])
  obtain ⟨-, refused, -⟩ := measured (.spacing "px-" .padding .paddingHorizontal) (by simp [Measured.all, Measured.leads])
  have fits : Measured.size.scale * denoted digits = 9223372036854775807 := by rw [value]; rfl
  refine ⟨?_, ?_⟩
  · have taken := size.mpr (Nat.le_of_eq fits)
    rwa [fits] at taken
  · obtain ⟨fault, resolved, -, message⟩ := refused (by rw [value]; decide)
    exact ⟨fault, resolved, message⟩

end InlineStyle
