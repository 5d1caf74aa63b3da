import InlineStyle.Proofs.StrictRestyling
import Mathlib.Data.List.Infix

/-! Restyling a text in two pieces. If no attribute that the first piece opens can reach into the second one, then the
attributes of the whole are those of both pieces, and restyling the whole is restyling one piece after the other. -/

namespace InlineStyle
namespace Markup

open Attribute

variable {gap rest left right : Text} {markup : Markup}

/-- What follows the text plays no part in which attributes it has. -/
structure SelfContained (text : Text) : Prop where
  /-- Behind each opening stands the mark that closes it. -/
  closed : ∀ quote before after, text = before ++ (opening quote ++ after) → quote.mark ∈ after
  /-- The text does not end inside of an opening. -/
  unbroken : ∀ before after, text = before ++ after → after ≠ [] → ¬ after <+: lead

instance : DecidablePred SelfContained := fun text =>
  decidable_of_iff
    (∀ tail ∈ text.tails, (∀ quote ∈ [Quote.double, .single], ∀ after ∈ Text.after? (opening quote) tail, quote.mark ∈ after) ∧
      (tail ≠ [] → ¬ tail <+: lead)) <| by
    constructor
    · intro checked
      refine ⟨?_, ?_⟩
      · rintro quote before after rfl
        have listed : quote ∈ [Quote.double, .single] := by cases quote <;> decide
        exact (checked _ (by simp)).1 quote listed after (Text.after?_eq_some_iff.mpr rfl)
      · rintro before after rfl
        exact (checked after (by simp)).2
    · intro contained tail listed
      obtain ⟨before, rfl⟩ := (List.mem_tails _ _).mp listed
      refine ⟨fun quote _ after opened => ?_, contained.unbroken before tail rfl⟩
      exact contained.closed quote before after (by rw [Text.after?_eq_some_iff.mp opened])

theorem SelfContained.of_append (contained : SelfContained (left ++ right)) : SelfContained right := by
  refine ⟨?_, ?_⟩
  · intro quote before after split
    exact contained.closed quote (left ++ before) after (by rw [split, List.append_assoc])
  · intro before after split
    exact contained.unbroken (left ++ before) after (by rw [split, List.append_assoc])

/-- A gap stays idle when the text behind it goes on. -/
theorem Idle.extend (idle : Idle gap rest) (contained : SelfContained (gap ++ rest)) (more : Text) :
    Idle gap (rest ++ more) := by
  intro before after split nonempty begins
  have whole : gap ++ rest = before ++ (after ++ rest) := by rw [split, List.append_assoc]
  obtain ⟨quote, behind, shape, -⟩ := begins_iff.mp begins
  -- The opening does not reach beyond the text, for the text does not end inside of it.
  obtain ⟨inside, opened⟩ : ∃ inside, after ++ rest = opening quote ++ inside := by
    rw [← List.append_assoc] at shape
    rcases List.append_eq_append_iff.mp shape with ⟨beyond, reaches, -⟩ | ⟨inside, opened, -⟩
    · rcases List.eq_nil_or_concat beyond with rfl | ⟨front, last, rfl⟩
      · exact ⟨[], by rw [reaches, List.append_nil, List.append_nil]⟩
      · rw [opening, List.concat_eq_append, ← List.append_assoc] at reaches
        have broken : after ++ rest <+: lead := ⟨front, (List.append_inj_left' reaches rfl).symm⟩
        exact absurd broken (contained.unbroken before _ whole (by simp [nonempty]))
    · exact ⟨inside, opened⟩
  apply idle before after split nonempty
  rw [begins_iff]
  exact ⟨quote, inside, opened, contained.closed quote before inside (whole.trans (by rw [opened]))⟩

/-- The parts of both markups. The tail of the first one stands in front of what the second one starts with. -/
def append (first second : Markup) : Markup :=
  let joined := first.tail.foldr prepend second
  { joined with parts := first.parts ++ joined.parts }

theorem Cut.append (cut : Cut left markup) (contained : SelfContained left) (right : Text) :
    ofText (left ++ right) = markup.append (ofText right) := by
  induction cut with
  | @tail tail idle =>
    have quiet : Idle tail right := idle.extend (by rwa [List.append_nil]) right
    exact ofText_gap quiet
  | @part gap rest tail attr parts idle _ ih =>
    have quiet := idle.extend contained right
    rw [List.append_assoc] at quiet
    rw [List.append_assoc, List.append_assoc, ofText_gap quiet, ofText_attribute, ih contained.of_append.of_append,
      foldr_prepend_part, List.append_nil]
    rfl

theorem attributes_append (first second : Markup) :
    (first.append second).attributes = first.attributes ++ second.attributes := by
  have same := attributes_foldr_prepend first.tail second
  simp only [attributes] at same ⊢
  rw [append, List.map_append, same]

private theorem turned_foldr_prepend (made : Attribute → Style) (gap : Text) (markup : Markup) :
    (gap.foldr prepend markup).turned made = gap ++ markup.turned made := by
  have kept (c : Char) (markup : Markup) : (markup.prepend c).turned made = c :: markup.turned made := by
    obtain ⟨parts, tail⟩ := markup
    cases parts <;> rfl
  induction gap with
  | nil => rfl
  | cons c gap ih => rw [List.foldr_cons, kept, ih, List.cons_append]

theorem turned_append (made : Attribute → Style) (first second : Markup) :
    (first.append second).turned made = first.turned made ++ second.turned made := by
  have joined := turned_foldr_prepend made first.tail second
  simp only [turned] at joined ⊢
  rw [append, List.flatMap_append, List.append_assoc, joined, List.append_assoc]

theorem restyled_append (first second : Markup) :
    (first.append second).restyled =
      (first.restyled.1 ++ second.restyled.1,
        { replaced := first.restyled.2.replaced + second.restyled.2.replaced
          kept := first.restyled.2.kept + second.restyled.2.kept }) := by
  simp only [restyled, turned_append, attributes_append, List.countP_append]

end Markup

namespace Options

open Markup

theorem stopping?_append (options : Options) (words more : List Text) :
    options.stopping? (words ++ more) = (options.stopping? words).or (options.stopping? more) := by
  rw [stopping?, stopping?, stopping?, List.findSome?_append]
  cases options.strict <;> rfl

/-- Restyling goes piece by piece wherever the first piece is complete in itself. The first error ends it, and the counts add up. -/
theorem restyle_append {left : Text} (contained : SelfContained left) (options : Options) (right : Text) :
    (options.restyle (left ++ right)).outcome = do
      let (out, tally) ← (options.restyle left).outcome
      let (more, others) ← (options.restyle right).outcome
      return (out ++ more, { replaced := tally.replaced + others.replaced, kept := tally.kept + others.kept }) := by
  have joined := restyle_eq options (left ++ right)
  rw [(cut_ofText left).append contained, attributes_append, List.flatMap_append, stopping?_append, restyled_append] at joined
  rw [joined, restyle_eq options left, restyle_eq options right]
  cases options.stopping? ((ofText left).attributes.flatMap fun attr => attr.value.words) with
  | some fault => rfl
  | none => cases options.stopping? ((ofText right).attributes.flatMap fun attr => attr.value.words) <;> rfl

/-- The first piece ends behind an attribute and has an opening inside of a value. The second one starts with a stray quote and
leaves an attribute open. -/
theorem restyle_append_of_adjacent :
    let left := "className=\"x className='\"y' className='p-1'".toList
    let right := "'className='mb-2 q'className=\"".toList
    let options : Options := { strict := true, format := .jsx }
    let out := "className=\"x className='\"y' style=\x7b\x7b padding: 4 \x7d\x7d".toList
    let more := "'style=\x7b\x7b marginBottom: 8 \x7d\x7dclassName=\"".toList
    SelfContained left ∧
      (options.restyle left).outcome = .ok (out, { replaced := 1, kept := 1 }) ∧
      (options.restyle right).outcome = .ok (more, { replaced := 1, kept := 0 }) ∧
      (options.restyle (left ++ right)).outcome = .ok (out ++ more, { replaced := 2, kept := 1 }) := by
  intro left right options out more
  have contained : SelfContained left := by decide +kernel
  have first : (options.restyle left).outcome = .ok (out, { replaced := 1, kept := 1 }) := by decide +kernel
  have second : (options.restyle right).outcome = .ok (more, { replaced := 1, kept := 0 }) := by decide +kernel
  have joined := restyle_append contained options right
  rw [first, second] at joined
  exact ⟨contained, first, second, joined⟩

end Options
end InlineStyle
