import InlineStyle.Proofs.StyleRuns
import InlineStyle.Proofs.UniqueText
import Mathlib.Data.List.Forall2

/-! Equality of values and of styles. Two values are equal if they hold no NaN and are one value once all of their zeros
have lost their signs. So equality is an equivalence on what holds no NaN, and the texts of equal values differ
only where zeros of both signs face each other. -/

namespace InlineStyle

namespace Binary64

variable {x y : Binary64}

def unsignedZero (x : Binary64) : Binary64 := if x.isZero then ⟨0⟩ else x

theorem isZero_unsignedZero (x : Binary64) : x.unsignedZero.isZero = x.isZero := by
  rw [unsignedZero]
  split
  next zero => exact zero.symm
  next => rfl

theorem unsignedZero_eq_iff : x.unsignedZero = y.unsignedZero ↔ x = y ∨ x.isZero = true ∧ y.isZero = true := by
  constructor
  · intro same
    have zeros : x.isZero = y.isZero := by rw [← isZero_unsignedZero x, same, isZero_unsignedZero]
    cases zero : x.isZero with
    | true => exact .inr ⟨rfl, zeros.symm.trans zero⟩
    | false => exact .inl (by simpa [unsignedZero, ← zeros, zero] using same)
  · rintro (rfl | ⟨zero, otherZero⟩)
    · rfl
    · rw [unsignedZero, unsignedZero, if_pos zero, if_pos otherZero]

/-- Numbers are equal if they have the same bits or are both zero. -/
theorem same_iff : x.same y = true ↔ (x.isNaN = false ∧ y.isNaN = false) ∧ x.unsignedZero = y.unsignedZero := by
  obtain ⟨bits⟩ := x
  obtain ⟨others⟩ := y
  simp [same, unsignedZero_eq_iff]

theorem text_of_isZero (zero : x.isZero = true) : x.text = signed x.isNegative "0.0".toList := by
  have none : x.magnitude = 0 := eq_of_beq zero
  have finite : x.isFinite = true := by
    rw [isFinite, none]
    rfl
  have units : units 0 = 0 := rfl
  have whole : x.isWhole = true := by
    rw [isWhole, none, units, Nat.zero_mod]
    rfl
  rw [text_of_finite finite, finiteText, if_pos whole, none, units, Nat.zero_div, numeral_small (by decide)]
  rfl

theorem eq_of_isZero (zero : x.isZero = true) (otherZero : y.isZero = true) (sign : x.isNegative = y.isNegative) : x = y :=
  eq_of_sign_of_magnitude sign ((eq_of_beq zero).trans (eq_of_beq otherZero).symm)

/-- Zeros of both signs are told apart by the first characters of their texts. -/
theorem zero_text_inj {rest remaining : Text} (zero : x.isZero = true) (otherZero : y.isZero = true)
    (same : x.text ++ rest = y.text ++ remaining) : x = y ∧ rest = remaining := by
  have sign : x.isNegative = y.isNegative := by
    rw [text_of_isZero zero, text_of_isZero otherZero] at same
    cases left : x.isNegative <;> cases right : y.isNegative <;> simp [signed, left, right] at same ⊢
  obtain rfl := eq_of_isZero zero otherZero sign
  exact ⟨rfl, List.append_cancel_left same⟩

end Binary64

namespace Value

/-- A value holds what its kind shows, and an object what all of its fields hold. -/
@[elab_as_elim]
theorem inductionOn {motive : Value → Prop} (value : Value) (int : ∀ value, motive (.int value))
    (float : ∀ x, motive (.float x)) (str : ∀ text, motive (.str text))
    (map : ∀ fields : List (Text × Value), (∀ field ∈ fields, motive field.2) → motive (.map fields)) : motive value := by
  refine @Value.rec motive (fun fields => ∀ field ∈ fields, motive field.2) (fun field => motive field.2)
    int float str map (by simp) ?_ (fun _ _ holds => holds) value
  intro field fields holds more
  exact List.forall_mem_cons.mpr ⟨holds, more⟩

/-- Somewhere in the value, at any depth, stands a float of the kind. -/
inductive HasFloat (kind : Binary64 → Bool) : Value → Prop where
  | float {x : Binary64} (found : kind x = true) : HasFloat kind (.float x)
  | field {fields : List (Text × Value)} {field : Text × Value} (listed : field ∈ fields) (inside : HasFloat kind field.2) :
      HasFloat kind (.map fields)

/-- Somewhere a zero stands in one value where its opposite stands in the other. -/
inductive ZerosFace : Value → Value → Prop where
  | float {x y : Binary64} (zero : x.isZero = true) (otherZero : y.isZero = true) (opposite : x.isNegative ≠ y.isNegative) :
      ZerosFace (.float x) (.float y)
  | field {lefts rights : List (Text × Value)} {place : Nat} {left right : Text × Value} (here : lefts[place]? = some left)
      (there : rights[place]? = some right) (inside : ZerosFace left.2 right.2) : ZerosFace (.map lefts) (.map rights)

mutual

def unsignedZeros : Value → Value
  | .int value => .int value
  | .float x => .float x.unsignedZero
  | .str text => .str text
  | .map fields => .map (unsignedZerosIn fields)
termination_by structural value => value

def unsignedZerosIn : List (Text × Value) → List (Text × Value)
  | [] => []
  | (key, value) :: fields => (key, value.unsignedZeros) :: unsignedZerosIn fields
termination_by structural fields => fields

end

variable {kind : Binary64 → Bool} {left middle right : Value} {lefts rights : List (Text × Value)}

@[simp]
theorem hasFloat_int (value : Int) : ¬ HasFloat kind (.int value) := nofun

@[simp]
theorem hasFloat_str (text : Text) : ¬ HasFloat kind (.str text) := nofun

@[simp]
theorem hasFloat_float (x : Binary64) : HasFloat kind (.float x) ↔ kind x = true := by
  constructor
  · rintro ⟨found⟩
    exact found
  · exact .float

@[simp]
theorem hasFloat_map (fields : List (Text × Value)) : HasFloat kind (.map fields) ↔ ∃ field ∈ fields, field.2.HasFloat kind := by
  constructor
  · rintro (_ | ⟨listed, inside⟩)
    exact ⟨_, listed, inside⟩
  · rintro ⟨field, listed, inside⟩
    exact .field listed inside

theorem hasFloat_cons (field : Text × Value) :
    HasFloat kind (.map (field :: lefts)) ↔ field.2.HasFloat kind ∨ HasFloat kind (.map lefts) := by
  simp

theorem zerosFace_cons (field other : Text × Value) :
    (map (field :: lefts)).ZerosFace (map (other :: rights)) ↔
      field.2.ZerosFace other.2 ∨ (map lefts).ZerosFace (map rights) := by
  constructor
  · intro face
    cases face with
    | @field _ _ place left right here there inside =>
      cases place with
      | zero =>
        obtain ⟨rfl⟩ := here
        obtain ⟨rfl⟩ := there
        exact .inl inside
      | succ place => exact .inr (.field here there inside)
  · rintro (inside | face)
    · exact @ZerosFace.field _ _ 0 _ _ rfl rfl inside
    · cases face with
      | @field _ _ place left right here there inside => exact @ZerosFace.field _ _ (place + 1) _ _ here there inside

theorem ZerosFace.ne (face : left.ZerosFace right) : left ≠ right := by
  induction face with
  | float zero otherZero opposite =>
    rintro ⟨rfl⟩
    exact opposite rfl
  | field here there inside ih =>
    rintro ⟨rfl⟩
    obtain ⟨rfl⟩ := here.symm.trans there
    exact ih rfl

theorem ZerosFace.hasZero (face : left.ZerosFace right) : left.HasFloat Binary64.isZero := by
  induction face with
  | float zero otherZero opposite => exact .float zero
  | field here there inside ih => exact .field (List.mem_of_getElem? here) ih

/-- Neither value holds a NaN, and without the signs of their zeros they are one. -/
@[mk_iff]
structure Alike (left right : Value) : Prop where
  number : ¬ left.HasFloat Binary64.isNaN
  otherNumber : ¬ right.HasFloat Binary64.isNaN
  unsigned : left.unsignedZeros = right.unsignedZeros

theorem alike_self_iff (value : Value) : value.Alike value ↔ ¬ value.HasFloat Binary64.isNaN :=
  ⟨Alike.number, fun number => ⟨number, number, rfl⟩⟩

theorem Alike.symm (alike : left.Alike right) : right.Alike left :=
  ⟨alike.otherNumber, alike.number, alike.unsigned.symm⟩

theorem Alike.trans (first : left.Alike middle) (second : middle.Alike right) : left.Alike right :=
  ⟨first.number, second.otherNumber, first.unsigned.trans second.unsigned⟩

def AlikeFields (field other : Text × Value) : Prop := field.1 = other.1 ∧ field.2.Alike other.2

theorem alike_map_iff : (map lefts).Alike (map rights) ↔ List.Forall₂ AlikeFields lefts rights := by
  induction lefts generalizing rights with
  | nil => cases rights <;> simp [alike_iff, unsignedZeros, unsignedZerosIn]
  | cons field lefts ih =>
    cases rights with
    | nil => simp [alike_iff, unsignedZeros, unsignedZerosIn]
    | cons other rights =>
      rw [List.forall₂_cons, ← ih, AlikeFields]
      simp only [alike_iff, hasFloat_cons, unsignedZeros, unsignedZerosIn, not_or, map.injEq, List.cons.injEq, Prod.mk.injEq]
      tauto

private theorem sameFields_iff (each : ∀ field ∈ lefts, ∀ other, field.2.same other = true ↔ field.2.Alike other) :
    sameFields lefts rights = true ↔ List.Forall₂ AlikeFields lefts rights := by
  induction lefts generalizing rights with
  | nil => cases rights <;> simp [sameFields]
  | cons field lefts ih =>
    cases rights with
    | nil => simp [sameFields]
    | cons other rights =>
      rw [List.forall_mem_cons] at each
      rw [sameFields, Bool.and_eq_true, Bool.and_eq_true, beq_iff_eq, each.1, ih each.2, List.forall₂_cons, AlikeFields]

theorem same_iff (left right : Value) : left.same right = true ↔ left.Alike right := by
  induction left using inductionOn generalizing right with
  | int value => cases right <;> simp [same, alike_iff, unsignedZeros]
  | float x => cases right <;> simp [same, alike_iff, unsignedZeros, Binary64.same_iff, and_assoc]
  | str text => cases right <;> simp [same, alike_iff, unsignedZeros]
  | map fields ih =>
    cases right with
    | map others => rw [same, sameFields_iff ih, alike_map_iff]
    | int value | float x | str text => simp [same, alike_iff, unsignedZeros]

theorem same_comm (left right : Value) : left.same right = right.same left := by
  rw [Bool.eq_iff_iff, same_iff, same_iff]
  exact ⟨Alike.symm, Alike.symm⟩

theorem same_trans (first : left.same middle = true) (second : middle.same right = true) : left.same right = true := by
  rw [same_iff] at first second ⊢
  exact first.trans second

theorem same_self_iff (value : Value) : value.same value = true ↔ ¬ value.HasFloat Binary64.isNaN := by
  rw [same_iff, alike_self_iff]

/-- Alike values are of one kind. They are the same, or zeros, or objects with alike fields. -/
@[elab_as_elim]
theorem Alike.inductionOn {motive : Value → Value → Prop} (alike : left.Alike right) (self : ∀ value, motive value value)
    (zeros : ∀ x y : Binary64, x.isZero = true → y.isZero = true → motive (.float x) (.float y))
    (map : ∀ lefts rights, List.Forall₂ (fun field other => field.1 = other.1 ∧ motive field.2 other.2) lefts rights →
      motive (.map lefts) (.map rights)) : motive left right := by
  -- Taking signs off leaves the kinds as they are, so only one kind of value can stand on the right.
  induction left using Value.inductionOn generalizing right with
  | int value => cases right <;> cases alike.unsigned; exact self _
  | str text => cases right <;> cases alike.unsigned; exact self _
  | float x =>
    cases right with
    | float y =>
      rcases Binary64.unsignedZero_eq_iff.mp (float.inj alike.unsigned) with same | ⟨zero, otherZero⟩
      · exact same ▸ self _
      · exact zeros x y zero otherZero
    | int | str | map => cases alike.unsigned
  | map fields ih =>
    cases right with
    | map others =>
      have pairs := alike_map_iff.mp alike
      clear alike
      refine map _ _ ?_
      induction pairs with
      | nil => exact .nil
      | cons pair _ more =>
        rw [List.forall_mem_cons] at ih
        exact .cons ⟨pair.1, ih.1 pair.2⟩ (more ih.2)
    | int | str | float => cases alike.unsigned

/-- Alike values are one if no zeros of both signs face each other. -/
theorem Alike.eq (alike : left.Alike right) : ¬ left.ZerosFace right → left = right := by
  refine alike.inductionOn ?_ ?_ ?_
  · exact fun value _ => rfl
  · intro x y zero otherZero apart
    have sign : x.isNegative = y.isNegative := by
      by_contra opposite
      exact apart (.float zero otherZero opposite)
    rw [Binary64.eq_of_isZero zero otherZero sign]
  · intro fields others pairs apart
    refine congrArg map ?_
    induction pairs with
    | nil => rfl
    | cons pair _ ih =>
      rw [zerosFace_cons, not_or] at apart
      rw [Prod.ext pair.1 (pair.2 apart.1), ih apart.2]

/-- Values that are written alike in front of anything are one, and so is what follows them. -/
def ToldApart (left right : Value) : Prop :=
  ∀ rest remaining : Text, left.text ++ rest = right.text ++ remaining → left = right ∧ rest = remaining

private theorem moreFields_eq_of_toldApart
    (pairs : List.Forall₂ (fun field other => field.1 = other.1 ∧ field.2.ToldApart other.2) lefts rights)
    {rest remaining : Text} (same : moreFields (texts lefts) ++ rest = moreFields (texts rights) ++ remaining) :
    lefts = rights ∧ rest = remaining := by
  -- The texts agree up to the first pair of zeros, and that one is told apart in front of all that follows it.
  induction pairs with
  | nil => exact ⟨rfl, same⟩
  | @cons field other _ _ pair _ ih =>
    obtain ⟨key, value⟩ := field
    obtain ⟨name, content⟩ := other
    obtain ⟨rfl, toldApart⟩ := pair
    rw [texts, texts, moreFields_cons, moreFields_cons, fieldText, fieldText] at same
    simp only [List.append_assoc, List.append_cancel_left_eq] at same
    obtain ⟨rfl, behind⟩ := toldApart _ _ same
    obtain ⟨rfl, sameRest⟩ := ih behind
    exact ⟨rfl, sameRest⟩

theorem Alike.toldApart (alike : left.Alike right) : left.ToldApart right := by
  refine alike.inductionOn ?_ ?_ ?_
  · exact fun value rest remaining same => ⟨rfl, List.append_cancel_left same⟩
  · intro x y zero otherZero rest remaining same
    obtain ⟨rfl, sameRest⟩ := Binary64.zero_text_inj zero otherZero same
    exact ⟨rfl, sameRest⟩
  · intro fields others pairs rest remaining same
    cases pairs with
    | nil => exact ⟨rfl, List.append_cancel_left same⟩
    | cons pair more =>
      obtain ⟨sameFields, behind⟩ := moreFields_eq_of_toldApart (.cons pair more) (moreFields_of_objectText same)
      exact ⟨congrArg map sameFields, List.append_cancel_left behind⟩

/-- Alike values have the same text unless zeros of both signs face each other. -/
theorem Alike.text_eq_iff (alike : left.Alike right) : left.text = right.text ↔ ¬ left.ZerosFace right := by
  constructor
  · intro same face
    exact face.ne (alike.toldApart [] [] (congrArg (· ++ []) same)).1
  · intro apart
    rw [alike.eq apart]

end Value

namespace Style

variable {left right : Style}

def toMap (style : Style) : Value := .map (style.entries.map fun (property, value) => (property.name, value))

theorem hasFloat_toMap {kind : Binary64 → Bool} (style : Style) :
    style.toMap.HasFloat kind ↔ ∃ entry ∈ style.entries, entry.2.HasFloat kind := by
  simp only [toMap, Value.hasFloat_map, List.mem_map, exists_exists_and_eq_and]

private theorem sameEntries_eq (lefts rights : List (Property × Value)) :
    sameEntries lefts rights = Value.sameFields (lefts.map fun (property, value) => (property.name, value))
      (rights.map fun (property, value) => (property.name, value)) := by
  induction lefts generalizing rights with
  | nil => cases rights <;> rfl
  | cons entry lefts ih =>
    cases rights with
    | nil => rfl
    | cons other rights =>
      have names : (entry.1 == other.1) = (entry.1.name == other.1.name) := by
        rw [Bool.eq_iff_iff, beq_iff_eq, beq_iff_eq]
        exact ⟨congrArg Property.name, Property.name_injective⟩
      simp only [sameEntries, List.map_cons, Value.sameFields, names, ih]

theorem same_iff_toMap : left.same right = true ↔ left.toMap.Alike right.toMap := by
  rw [← Value.same_iff, toMap, toMap, Value.same, ← sameEntries_eq, same]

theorem literal_eq_iff_toMap (same : left.same right = true) (format : Format) :
    left.literal format = right.literal format ↔ ¬ left.toMap.ZerosFace right.toMap := by
  rw [literal_inj, text_eq_map, text_eq_map]
  exact (same_iff_toMap.mp same).text_eq_iff

theorem same_self_iff (style : Style) :
    style.same style = true ↔ ∀ entry ∈ style.entries, ¬ entry.2.HasFloat Binary64.isNaN := by
  rw [same_iff_toMap, Value.alike_self_iff, hasFloat_toMap]
  simp only [not_exists, not_and]

end Style

/-- Equality of values is symmetric and transitive, and a value equals itself exactly if no NaN stands in it at any depth.
Besides the signs of zeros equality leaves nothing open: equal values are written alike up to these signs, and wholly alike
exactly if no zeros of both signs face each other. So a style that any operations made equals what its entries make of an
empty one exactly if they hold no NaN, and equal styles without zeros have one literal. -/
theorem equality_up_to_zeros :
    (∀ left right : Value, left.same right = right.same left) ∧
    (∀ left middle right : Value, left.same middle = true → middle.same right = true → left.same right = true) ∧
    (∀ value : Value, value.same value = true ↔ ¬ value.HasFloat Binary64.isNaN) ∧
    (∀ left right : Value, left.same right = true ↔ left.Alike right) ∧
    (∀ left right : Value, left.same right = true →
      left.unsignedZeros.text = right.unsignedZeros.text ∧ (left.text = right.text ↔ ¬ left.ZerosFace right)) ∧
    (∀ operations : List Style.Operation, let style := Style.Operation.run operations
      style.same (({} : Style).merge style.entries) = true ↔ ∀ entry ∈ style.entries, ¬ entry.2.HasFloat Binary64.isNaN) ∧
    ∀ (left right : Style) (format : Format), left.same right = true →
      (∀ entry ∈ left.entries, ¬ entry.2.HasFloat Binary64.isZero) → left.literal format = right.literal format := by
  refine ⟨Value.same_comm, fun left middle right => Value.same_trans, Value.same_self_iff, Value.same_iff, ?_, ?_, ?_⟩
  · intro left right same
    have alike := (Value.same_iff left right).mp same
    exact ⟨congrArg Value.text alike.unsigned, alike.text_eq_iff⟩
  · intro operations style
    have rebuilt : ({} : Style).merge style.entries = style := by
      rw [show style = _ from Style.Operation.run_eq operations, Style.merge_compact]
    rw [rebuilt, Style.same_self_iff]
  · intro left right format same nonzero
    rw [Style.literal_eq_iff_toMap same]
    intro face
    obtain ⟨entry, listed, zero⟩ := (Style.hasFloat_toMap left).mp face.hasZero
    exact nonzero entry listed zero

/-- Zeros that face each other two levels down, a NaN at that depth, and a style that was written twice. -/
theorem equality_of_facing_zeros :
    let deep (x : Binary64) : Value := .map [("a".toList, .map [("b".toList, .float x), ("c".toList, .float ⟨0x7ff0000000000000⟩)])]
    let positive := deep ⟨0⟩
    let negative := deep ⟨0x8000000000000000⟩
    let undefined := deep ⟨0x7ff8000000000001⟩
    let style := Style.Operation.run [.set .shadowOffset undefined, .set .flex (.int 1)]
    let once := Style.Operation.run [.set .shadowOpacity (.float ⟨0x3fb999999999999a⟩)]
    let twice := Style.Operation.run [.merge [(.shadowOpacity, positive), (.shadowOpacity, .float ⟨0x3fb999999999999a⟩)]]
    positive.same negative = true ∧ negative.same positive = true ∧ positive.same positive = true ∧
      positive.unsignedZeros.text = negative.unsignedZeros.text ∧ positive.text ≠ negative.text ∧
      undefined.same undefined ≠ true ∧ style.same (({} : Style).merge style.entries) ≠ true ∧
      once.same twice = true ∧ once.literal .jsx = twice.literal .jsx := by
  intro deep positive negative undefined style once twice
  obtain ⟨symmetric, transitive, reflexive, -, texts, rebuilt, literals⟩ := equality_up_to_zeros
  have equal : positive.same negative = true := by decide +kernel
  have converse : negative.same positive = true := (symmetric negative positive).trans equal
  have face : positive.ZerosFace negative := by
    refine @Value.ZerosFace.field _ _ 0 _ _ rfl rfl (@Value.ZerosFace.field _ _ 0 _ _ rfl rfl ?_)
    exact .float (by decide +kernel) (by decide +kernel) (by decide +kernel)
  have hidden : undefined.HasFloat Binary64.isNaN := by
    refine .field (List.mem_singleton_self _) (.field List.mem_cons_self (.float ?_))
    decide +kernel
  have written : once.same twice = true := by decide +kernel
  have nonzero : ∀ entry ∈ once.entries, ¬ entry.2.HasFloat Binary64.isZero := by
    have entries : once.entries = [(.shadowOpacity, .float ⟨0x3fb999999999999a⟩)] := rfl
    simp only [entries, List.forall_mem_singleton, Value.hasFloat_float]
    decide +kernel
  refine ⟨equal, converse, transitive positive negative positive equal converse, (texts positive negative equal).1, ?_, ?_, ?_,
    written, literals once twice .jsx written nonzero⟩
  · exact fun same => (texts positive negative equal).2.mp same face
  · exact fun same => (reflexive undefined).mp same hidden
  · exact fun same => (rebuilt _).mp same (.shadowOffset, undefined) List.mem_cons_self hidden

end InlineStyle
