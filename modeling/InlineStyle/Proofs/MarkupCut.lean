import InlineStyle.Markup

/-! A text can be cut at its attributes in one way only, if every attribute is taken as soon as one begins and
the search goes on behind it. Reading a markup finds that cut. -/

namespace InlineStyle

namespace Attribute

def Begins (text : Text) : Prop :=
  ∃ (attr : Attribute) (rest : Text), text = attr.text ++ rest

theorem atStart?_eq_none_iff {text : Text} : atStart? text = none ↔ ¬ Begins text := by
  simp only [Option.eq_none_iff_forall_ne_some, Prod.forall, ne_eq, atStart?_eq_some_iff, Begins, not_exists]

def opening (quote : Quote) : Text := lead ++ [quote.mark]

theorem begins_iff {text : Text} :
    Begins text ↔ ∃ (quote : Quote) (rest : Text), text = opening quote ++ rest ∧ quote.mark ∈ rest := by
  constructor
  · rintro ⟨attr, rest, rfl⟩
    refine ⟨attr.quote, attr.value ++ [attr.quote.mark] ++ rest, ?_, by simp⟩
    simp only [Attribute.text, opening, List.append_assoc]
  · rintro ⟨quote, rest, rfl, closed⟩
    obtain ⟨value, behind, rfl, absent⟩ := List.eq_append_cons_of_mem closed
    refine ⟨⟨quote, value, absent⟩, behind, ?_⟩
    simp [Attribute.text, opening]

end Attribute

namespace Markup

open Attribute

def text (markup : Markup) : Text :=
  (markup.parts.flatMap fun (gap, attr) => gap ++ attr.text) ++ markup.tail

/-- Where `rest` follows `gap`, no attribute begins inside the gap, not even one that ends behind it. -/
def Idle (gap rest : Text) : Prop :=
  ∀ before after, gap = before ++ after → after ≠ [] → ¬ Begins (after ++ rest)

/-- From the left, each attribute begins where one begins first, and the next one is sought behind it. -/
inductive Cut : Text → Markup → Prop where
  | tail {tail : Text} (idle : Idle tail []) : Cut tail ⟨[], tail⟩
  | part {gap rest tail : Text} {attr : Attribute} {parts : List (Text × Attribute)}
      (idle : Idle gap (attr.text ++ rest)) (next : Cut rest ⟨parts, tail⟩) :
      Cut (gap ++ (attr.text ++ rest)) ⟨(gap, attr) :: parts, tail⟩

theorem idle_nil (rest : Text) : Idle [] rest := by
  intro before after split nonempty
  exact absurd (List.append_eq_nil_iff.mp split.symm).2 nonempty

theorem idle_cons {c : Char} {gap rest : Text} :
    Idle (c :: gap) rest ↔ ¬ Begins (c :: (gap ++ rest)) ∧ Idle gap rest := by
  constructor
  · intro idle
    refine ⟨idle [] (c :: gap) rfl (by simp), ?_⟩
    intro before after split
    exact idle (c :: before) after (by rw [split, List.cons_append])
  · rintro ⟨head, idle⟩ before after split nonempty
    cases before with
    | nil =>
      rw [← show c :: gap = after from split]
      exact head
    | cons d before => exact idle before after (List.cons.inj split).2 nonempty

theorem idle_append {left right rest : Text} : Idle (left ++ right) rest ↔ Idle left (right ++ rest) ∧ Idle right rest := by
  induction left with
  | nil => simp [idle_nil]
  | cons c left ih => rw [List.cons_append, idle_cons, idle_cons, ih, List.append_assoc, and_assoc]

theorem idle_of_notMem {gap rest : Text} (absent : 'c' ∉ gap) : Idle gap rest := by
  intro before after split nonempty begins
  obtain ⟨c, after, rfl⟩ := List.exists_cons_of_ne_nil nonempty
  obtain ⟨quote, behind, shape, -⟩ := begins_iff.mp begins
  have first : c = 'c' := (List.cons.inj shape).1
  exact absent (split ▸ by simp [first])

theorem ofText_nil : ofText [] = ⟨[], []⟩ := by
  rw [ofText]
  rfl

theorem ofText_attribute (attr : Attribute) (rest : Text) :
    ofText (attr.text ++ rest) = ⟨([], attr) :: (ofText rest).parts, (ofText rest).tail⟩ := by
  have found : atStart? (attr.text ++ rest) = some (attr, rest) := atStart?_eq_some_iff.mpr rfl
  rw [ofText]
  split
  · next other remaining other_found =>
    cases found.symm.trans other_found
    rfl
  · next absent => cases found.symm.trans absent

theorem ofText_char {c : Char} {text : Text} (idle : ¬ Begins (c :: text)) :
    ofText (c :: text) = (ofText text).prepend c := by
  have absent : atStart? (c :: text) = none := atStart?_eq_none_iff.mpr idle
  rw [ofText]
  split
  · next other remaining found => cases absent.symm.trans found
  · rfl

theorem Cut.prepend {c : Char} {text : Text} {markup : Markup} (idle : ¬ Begins (c :: text)) (cut : Cut text markup) :
    Cut (c :: text) (markup.prepend c) := by
  cases cut with
  | tail quiet => exact .tail (idle_cons.mpr ⟨by rwa [List.append_nil], quiet⟩)
  | part quiet next => exact .part (idle_cons.mpr ⟨idle, quiet⟩) next

theorem cut_ofText (source : Text) : Cut source (ofText source) := by
  -- By length, for an attribute is passed as a whole.
  induction length : source.length using Nat.strongRecOn generalizing source with
  | ind size ih =>
    subst length
    by_cases begins : Begins source
    · obtain ⟨attr, rest, rfl⟩ := begins
      have shorter : rest.length < (attr.text ++ rest).length :=
        length_of_atStart? (atStart?_eq_some_iff.mpr rfl)
      rw [ofText_attribute]
      exact .part (idle_nil _) (ih _ shorter rest rfl)
    · cases source with
      | nil =>
        rw [ofText_nil]
        exact .tail (idle_nil _)
      | cons c text =>
        rw [ofText_char begins]
        exact (ih _ (Nat.lt_succ_self _) text rfl).prepend begins

theorem ofText_gap {gap text : Text} (idle : Idle gap text) :
    ofText (gap ++ text) = gap.foldr prepend (ofText text) := by
  induction gap with
  | nil => rfl
  | cons c gap ih =>
    obtain ⟨head, idle⟩ := idle_cons.mp idle
    rw [List.cons_append, ofText_char head, ih idle, List.foldr_cons]

private theorem foldr_prepend_tail (gap tail : Text) : gap.foldr prepend ⟨[], tail⟩ = ⟨[], gap ++ tail⟩ := by
  induction gap with
  | nil => rfl
  | cons c gap ih => rw [List.foldr_cons, ih, prepend, List.cons_append]

theorem foldr_prepend_part (gap start tail : Text) (attr : Attribute) (parts : List (Text × Attribute)) :
    gap.foldr prepend ⟨(start, attr) :: parts, tail⟩ = ⟨(gap ++ start, attr) :: parts, tail⟩ := by
  induction gap with
  | nil => rfl
  | cons c gap ih => rw [List.foldr_cons, ih, prepend, List.cons_append]

theorem Cut.ofText_eq {source : Text} {markup : Markup} (cut : Cut source markup) : ofText source = markup := by
  induction cut with
  | @tail tail idle =>
    have found := ofText_gap idle
    rwa [List.append_nil, ofText_nil, foldr_prepend_tail, List.append_nil] at found
  | part idle _ ih => rw [ofText_gap idle, ofText_attribute, ih, foldr_prepend_part, List.append_nil]

/-- Reading finds the only cut of a text. -/
theorem cut_iff {source : Text} {markup : Markup} : Cut source markup ↔ markup = ofText source :=
  ⟨fun cut => cut.ofText_eq.symm, fun same => same ▸ cut_ofText source⟩

-- An attribute inside the value of another one is part of that value, and one that is not closed is none.
example : ofText "<a className=\"x className='y'\"className='z'/>className=\"".toList =
    ⟨[("<a ".toList, ⟨.double, "x className='y'".toList, by decide⟩), ([], ⟨.single, "z".toList, by decide⟩)],
      "/>className=\"".toList⟩ := by
  decide +kernel

/-- A cut neither loses nor repeats a character. -/
theorem Cut.text_eq {source : Text} {markup : Markup} (cut : Cut source markup) : markup.text = source := by
  induction cut with
  | tail _ => rfl
  | part _ _ ih =>
    simp only [text, List.flatMap_cons, List.append_assoc] at ih ⊢
    rw [ih]

def attributes (markup : Markup) : List Attribute := markup.parts.map (·.2)

theorem attributes_foldr_prepend (gap : Text) (markup : Markup) : (gap.foldr prepend markup).attributes = markup.attributes := by
  have kept (c : Char) (markup : Markup) : (markup.prepend c).attributes = markup.attributes := by
    obtain ⟨parts, tail⟩ := markup
    cases parts <;> rfl
  induction gap with
  | nil => rfl
  | cons c gap ih => rw [List.foldr_cons, kept, ih]

theorem attributes_ofText_gap {gap rest : Text} (idle : Idle gap rest) :
    (ofText (gap ++ rest)).attributes = (ofText rest).attributes := by
  rw [ofText_gap idle, attributes_foldr_prepend]

theorem attributes_ofText_attribute (attr : Attribute) (rest : Text) :
    (ofText (attr.text ++ rest)).attributes = attr :: (ofText rest).attributes := by
  rw [ofText_attribute]
  rfl

end Markup
end InlineStyle
