import InlineStyle.Proofs.LiteralSafety
import InlineStyle.Proofs.StrictRestyling
import Mathlib.Data.List.Infix

/-! Restyling once is enough. The literals that it writes hold no attribute and no double quote, so they neither begin
nor close one, and a single quote in them closes nothing that was not closed before. -/

namespace InlineStyle
namespace Markup

open Attribute

variable {gap old new rest left right : Text}

/-- The opening of an attribute holds an equals sign and no brace. -/
theorem idle_of_braced (equals : '=' ∉ gap) (closing : gap.getLast? = some '\x7d') : Idle gap rest := by
  intro before after split nonempty begins
  have brace : '\x7d' ∈ after := by
    rw [split, List.getLast?_append_of_ne_nil _ nonempty] at closing
    exact List.mem_of_getLast? closing
  obtain ⟨quote, behind, shape, -⟩ := begins_iff.mp begins
  rw [opening, List.append_assoc] at shape
  rcases List.append_eq_append_iff.mp shape with ⟨more, inLead, -⟩ | ⟨more, rfl, -⟩
  · have braceless : '\x7d' ∉ lead := by decide
    exact braceless (inLead ▸ List.mem_append_left _ brace)
  · have sign : '=' ∈ lead := by decide
    exact equals (split ▸ List.mem_append_right _ (List.mem_append_left _ sign))

/-- The text does not go on with the opening of an attribute that starts in front of it. -/
def Fresh (text : Text) : Prop :=
  ∀ quote before after, opening quote = before ++ after → before ≠ [] → after ≠ [] → ¬ after <+: text

/-- Two characters are enough to see it. -/
private theorem fresh_of_start {first second : Char} (start : ∀ quote, ∀ after ∈ (opening quote).tail.tails,
    after ≠ [] → ¬ after.take 2 <+: [first, second]) : Fresh (first :: second :: rest) := by
  intro quote before after split moved nonempty inside
  obtain ⟨c, before, rfl⟩ := List.exists_cons_of_ne_nil moved
  refine start quote after ?_ nonempty (List.IsPrefix.take inside 2)
  rw [List.mem_tails, split]
  exact List.suffix_append before after

theorem fresh_attribute (attr : Attribute) : Fresh (attr.text ++ rest) := by
  have start : ∀ quote, ∀ after ∈ (opening quote).tail.tails, after ≠ [] → ¬ after.take 2 <+: "cl".toList := by
    intro quote
    cases quote <;> decide
  exact fresh_of_start start

theorem fresh_style : Fresh ("style=".toList ++ rest) := by
  have start : ∀ quote, ∀ after ∈ (opening quote).tail.tails, after ≠ [] → ¬ after.take 2 <+: "st".toList := by
    intro quote
    cases quote <;> decide
  exact fresh_of_start start

/-- A gap stays idle when the text behind it changes, unless the change closes what the gap has opened. -/
theorem Idle.replace (idle : Idle gap old) (fresh : Fresh new)
    (closes : ∀ quote before more, gap = before ++ (opening quote ++ more) → quote.mark ∈ new → quote.mark ∈ more ++ old) :
    Idle gap new := by
  intro before after split nonempty begins
  obtain ⟨quote, behind, shape, closed⟩ := begins_iff.mp begins
  -- The opening stands in the gap, for it cannot reach into what follows.
  obtain ⟨more, rfl, rfl⟩ : ∃ more, after = opening quote ++ more ∧ behind = more ++ new := by
    rcases List.append_eq_append_iff.mp shape with ⟨more, reaches, rfl⟩ | inside
    · cases more with
      | nil => exact ⟨[], by simpa using reaches.symm, rfl⟩
      | cons c more => exact absurd (List.prefix_append _ _) (fresh quote after _ reaches nonempty (by simp))
    · exact inside
  apply idle before _ split nonempty
  rw [begins_iff]
  refine ⟨quote, more ++ old, List.append_assoc _ _ _, ?_⟩
  rcases List.mem_append.mp closed with inGap | inNew
  · exact List.mem_append_left _ inGap
  · exact closes quote before more split inNew

/-- Every single quote that opens a class attribute is followed by another one. -/
def SingleClosed (source : Text) : Prop :=
  ∀ before after, source = before ++ ("className='".toList ++ after) → '\'' ∈ after

instance : DecidablePred SingleClosed := fun source =>
  decidable_of_iff (∀ tail ∈ source.tails, ∀ after ∈ Text.after? "className='".toList tail, '\'' ∈ after) <| by
    constructor
    · rintro closed before after rfl
      exact closed _ (by simp) after (Text.after?_eq_some_iff.mpr rfl)
    · intro closed tail listed after opened
      obtain ⟨before, rfl⟩ := (List.mem_tails _ _).mp listed
      exact closed before after (by rw [Text.after?_eq_some_iff.mp opened])

theorem SingleClosed.of_append (closed : SingleClosed (left ++ right)) : SingleClosed right := by
  intro before after split
  refine closed (left ++ before) after ?_
  rw [split, List.append_assoc]

end Markup

open Markup

variable {made : Attribute → Style} {style : Style}

theorem Style.Fitting.notMem_literal (fitting : style.Fitting) {c : Char}
    (other : ¬ (c.isAlphanum = true ∨ c ∈ Property.marks)) : c ∉ style.literal .jsx := by
  intro member
  simp only [Style.literal, List.mem_append, List.mem_singleton] at member
  rcases member with (rfl | inside) | rfl
  · exact other (.inr (by decide))
  · exact other (fitting.mem_text inside)
  · exact other (.inr (by decide))

theorem Style.Fitting.idle_literal (fitting : style.Fitting) (rest : Text) :
    Idle ("style=".toList ++ style.literal .jsx) rest := by
  refine idle_append.mpr ⟨idle_of_notMem (by decide), idle_of_braced (fitting.notMem_literal (by decide)) ?_⟩
  rw [Style.literal, List.getLast?_concat]

theorem Attribute.fresh_turned (attr : Attribute) (style : Style) (rest : Text) : Fresh (attr.turned style ++ rest) := by
  rw [Attribute.turned]
  split
  · rw [List.append_assoc]
    exact fresh_style
  · exact fresh_attribute attr

/-- Turning attributes brings in no double quote. -/
theorem Attribute.quote_mem_of_turned (fitting : style.Fitting) {attr : Attribute} (member : '"' ∈ attr.turned style) :
    '"' ∈ attr.text := by
  rw [Attribute.turned] at member
  split at member
  · rcases List.mem_append.mp member with front | literal
    · have absent : '"' ∉ "style=".toList := by decide
      exact absurd front absent
    · exact absurd literal (fitting.notMem_literal (by decide))
  · exact member

theorem Markup.quote_mem_of_turned (fitting : ∀ attr, (made attr).Fitting) {markup : Markup}
    (member : '"' ∈ markup.turned made) : '"' ∈ markup.text := by
  rw [turned, List.mem_append, List.mem_flatMap] at member
  rw [Markup.text, List.mem_append, List.mem_flatMap]
  rcases member with ⟨part, listed, inside⟩ | tail
  · refine .inl ⟨part, listed, ?_⟩
    rw [List.mem_append] at inside ⊢
    exact inside.imp_right (Attribute.quote_mem_of_turned (fitting part.2))
  · exact .inr tail

/-- Only the attributes that are kept are found again. -/
theorem Markup.Cut.attributes_turned (fitting : ∀ attr, (made attr).Fitting) {source : Text} {markup : Markup}
    (cut : Cut source markup) (closed : SingleClosed source) :
    (ofText (markup.turned made)).attributes = markup.attributes.filter fun attr => ¬ attr.Writes := by
  induction cut with
  | @tail tail idle =>
    have alone := attributes_ofText_gap idle
    rw [List.append_nil, ofText_nil] at alone
    exact alone
  | @part gap rest tail attr parts idle next ih =>
    have shape : turned made ⟨(gap, attr) :: parts, tail⟩ =
        gap ++ (attr.turned (made attr) ++ turned made ⟨parts, tail⟩) := by
      simp [turned]
    have quiet : Idle gap (attr.turned (made attr) ++ turned made ⟨parts, tail⟩) := by
      apply idle.replace (attr.fresh_turned _ _)
      intro quote before more split inside
      -- A double quote stood behind the gap before, and a single one is promised.
      cases quote with
      | double =>
        apply List.mem_append_right
        rw [← next.text_eq]
        rw [List.mem_append] at inside ⊢
        exact inside.imp (Attribute.quote_mem_of_turned (fitting attr)) (quote_mem_of_turned fitting)
      | single =>
        apply closed before
        rw [split]
        simp only [List.append_assoc]
        rfl
    have others := ih closed.of_append.of_append
    rw [shape, attributes_ofText_gap quiet]
    by_cases writes : attr.Writes
    · have literal := (fitting attr).idle_literal (turned made ⟨parts, tail⟩)
      rw [Attribute.turned, if_pos writes, attributes_ofText_gap literal, others]
      simp [attributes, writes]
    · rw [Attribute.turned, if_neg writes, attributes_ofText_attribute, others]
      simp [attributes, writes]

theorem Markup.turned_of_kept {markup : Markup} (kept : ∀ attr ∈ markup.attributes, ¬ attr.Writes) :
    markup.turned made = markup.text := by
  have each : ∀ part ∈ markup.parts, part.1 ++ part.2.turned (made part.2) = part.1 ++ part.2.text := by
    intro part member
    rw [Attribute.turned, if_neg (kept part.2 (List.mem_map_of_mem member))]
  rw [turned, Markup.text, List.flatMap_congr each]

namespace Options

/-- Restyling a restyled text changes nothing, if no single quote that opens a class attribute is left open. The second
run finds the attributes that the first one kept, and keeps them again. -/
theorem restyle_idempotent (options : Options) {source out : Text} {tally : Tally} (closed : SingleClosed source)
    (finished : (options.restyle source).outcome = .ok (out, tally)) :
    (options.restyle out).outcome = .ok (out, { replaced := 0, kept := tally.kept }) := by
  rw [restyle_eq] at finished
  cases stopped : options.stopping? ((ofText source).attributes.flatMap fun attr => attr.value.words) with
  | some fault => simp [stopped] at finished
  | none =>
    rw [stopped, Option.elim_none] at finished
    cases finished
    have fitting : ∀ attr : Attribute, attr.lenientStyle.Fitting := fun attr => Styling.fitting_lenient attr.value
    have found := (cut_ofText source).attributes_turned fitting closed
    generalize (ofText source).turned Attribute.lenientStyle = out at found ⊢
    have again : options.stopping? ((ofText out).attributes.flatMap fun attr => attr.value.words) = none := by
      rw [found, stopping?_flatMap, List.findSome?_eq_none_iff]
      rw [stopping?_flatMap, List.findSome?_eq_none_iff] at stopped
      intro attr member
      exact stopped attr (List.mem_of_mem_filter member)
    have kept : ∀ attr ∈ (ofText out).attributes, ¬ attr.Writes := by
      intro attr member
      rw [found] at member
      simpa using List.of_mem_filter member
    have none : (ofText out).attributes.countP (fun attr => attr.Writes) = 0 :=
      List.countP_eq_zero.mpr fun attr member => by simpa using kept attr member
    rw [restyle_eq, again, Option.elim_none, restyled, turned_of_kept kept, (cut_ofText out).text_eq, none]
    simp only [found, List.countP_filter, Bool.and_self]

/-- An attribute between other quotes, one behind it that is kept, and an open double quote. -/
theorem restyle_twice_of_nested :
    let source := "b=\"className='p-4'\"className='x'className=\"".toList
    let out := "b=\"style=\x7b\x7b padding: 16 \x7d\x7d\"className='x'className=\"".toList
    (({ strict := true, format := .object } : Options).restyle source).outcome = .ok (out, ⟨1, 1⟩) ∧
      (({ strict := true, format := .object } : Options).restyle out).outcome = .ok (out, ⟨0, 1⟩) := by
  intro source out
  have once : (({ strict := true, format := .object } : Options).restyle source).outcome = .ok (out, ⟨1, 1⟩) := by
    decide +kernel
  exact ⟨once, restyle_idempotent _ (by decide +kernel) once⟩

end Options
end InlineStyle
