/-! A text is a list of characters. Words are the maximal runs of characters that are not blank,
where blank means the Unicode property White_Space. -/

namespace InlineStyle

abbrev Text := List Char

namespace Text

/-- The Unicode property White_Space, which has 25 members. -/
def isBlank (c : Char) : Bool :=
  let code := c.toNat
  (0x9 ≤ code && code ≤ 0xd) || code == 0x20 || code == 0x85 || code == 0xa0 || code == 0x1680 ||
    (0x2000 ≤ code && code ≤ 0x200a) || code == 0x2028 || code == 0x2029 || code == 0x202f ||
    code == 0x205f || code == 0x3000

def inRanges (ranges : List (Nat × Nat)) (c : Char) : Bool :=
  ranges.any fun (low, high) => low ≤ c.toNat && c.toNat ≤ high

/-- Puts a character in front of the first piece if that piece starts at once, and else in a piece of its own. -/
def attach (isGap : Char → Bool) (c : Char) (rest : Text) (pieces : List Text) : List Text :=
  match rest, pieces with
  | next :: _, piece :: others => if isGap next then [c] :: piece :: others else (c :: piece) :: others
  | _, pieces => [c] :: pieces

/-- The maximal pieces of a text without a gap, in order. None of them is empty. -/
def pieces (isGap : Char → Bool) : Text → List Text
  | [] => []
  | c :: rest => if isGap c then pieces isGap rest else attach isGap c rest (pieces isGap rest)

/-- The words of a text in order. None of them is empty or holds a blank. -/
def words (text : Text) : List Text := text.pieces isBlank

def trimmed (text : Text) : Text := ((text.dropWhile isBlank).reverse.dropWhile isBlank).reverse

/-- What follows `lead` in a text that starts with it. -/
def after? : Text → Text → Option Text
  | [], text => some text
  | _ :: _, [] => none
  | expected :: lead, c :: text => if expected = c then after? lead text else none

/-- What precedes `tail` in a text that ends with it. -/
def before? (tail text : Text) : Option Text :=
  (after? tail.reverse text.reverse).map List.reverse

def holds (piece : Text) : Text → Bool
  | [] => piece.isEmpty
  | c :: text => (after? piece (c :: text)).isSome || holds piece text

/-- What follows the last `mark`, or the whole text when there is none. -/
def afterLast (mark : Char) (text : Text) : Text :=
  (text.reverse.takeWhile (· != mark)).reverse

theorem after?_eq_some_iff {lead text rest : Text} : after? lead text = some rest ↔ text = lead ++ rest := by
  induction lead generalizing text with
  | nil => simp [after?]
  | cons expected lead ih =>
    cases text with
    | nil => simp [after?]
    | cons c text =>
      by_cases same : expected = c
      · simp [after?, same, ih]
      · simp [after?, same, Ne.symm same]

theorem before?_eq_some_iff {tail text rest : Text} : before? tail text = some rest ↔ text = rest ++ tail := by
  simp only [before?, Option.map_eq_some_iff, after?_eq_some_iff]
  constructor
  · rintro ⟨back, shape, rfl⟩
    simpa using congrArg List.reverse shape
  · rintro rfl
    exact ⟨rest.reverse, by simp, by simp⟩

theorem after?_isSome_iff {lead text : Text} : (after? lead text).isSome = true ↔ lead <+: text := by
  simp only [Option.isSome_iff_exists, after?_eq_some_iff]
  exact ⟨fun ⟨rest, shape⟩ => ⟨rest, shape.symm⟩, fun ⟨rest, shape⟩ => ⟨rest, shape.symm⟩⟩

theorem holds_iff {piece text : Text} : holds piece text = true ↔ piece <:+: text := by
  induction text with
  | nil => simp [holds]
  | cons c text ih => rw [holds, Bool.or_eq_true, after?_isSome_iff, ih, List.infix_cons_iff]

/-- A text can be checked character by character. -/
theorem forall_of_all {holds : Char → Prop} [DecidablePred holds] {text : Text} (checked : text.all (holds ·) = true) :
    ∀ c ∈ text, holds c := by
  simpa using checked

/-- A character that passes a test is none of those that fail it. -/
theorem notMem_of_passes {test : Char → Bool} {marks : Text} {c : Char} (passes : test c = true)
    (fail : marks.any test = false) : c ∉ marks := by
  intro member
  have passed : marks.any test = true := List.any_eq_true.mpr ⟨c, member, passes⟩
  exact Bool.false_ne_true (fail.symm.trans passed)

/-- A solid text that ends at a gap can be told from what follows it. -/
theorem append_inj_of_solid {isSolid : Char → Bool} {left right after behind : Text} (same : left ++ after = right ++ behind)
    (solid : ∀ c ∈ left, isSolid c = true) (otherSolid : ∀ c ∈ right, isSolid c = true)
    (bounded : ∀ c ∈ after.head?, isSolid c = false) (otherBounded : ∀ c ∈ behind.head?, isSolid c = false) :
    left = right ∧ after = behind := by
  have ends {text : Text} (bounded : ∀ c ∈ text.head?, isSolid c = false) : text.takeWhile isSolid = [] := by
    cases text with
    | nil => rfl
    | cons c text => simp [bounded c rfl]
  have taken := congrArg (List.takeWhile isSolid) same
  rw [List.takeWhile_append_of_pos solid, List.takeWhile_append_of_pos otherSolid, ends bounded, ends otherBounded,
    List.append_nil, List.append_nil] at taken
  subst taken
  exact ⟨rfl, List.append_cancel_left same⟩

theorem append_cons_inj {mark : Char} {left right after behind : Text} (absent : mark ∉ left) (otherAbsent : mark ∉ right)
    (same : left ++ mark :: after = right ++ mark :: behind) : left = right ∧ after = behind := by
  have solid {text : Text} (absent : mark ∉ text) : ∀ c ∈ text, (c != mark) = true := by
    intro c member
    have different : c ≠ mark := fun equal => absent (equal ▸ member)
    simpa using different
  obtain ⟨left_eq, rest_eq⟩ := append_inj_of_solid same (solid absent) (solid otherAbsent) (by simp) (by simp)
  exact ⟨left_eq, (List.cons.inj rest_eq).2⟩

theorem afterLast_append {mark : Char} (before : Text) {tail : Text} (absent : mark ∉ tail) :
    afterLast mark (before ++ mark :: tail) = tail := by
  have through : ∀ c ∈ tail.reverse, (c != mark) = true := by
    intro c member
    have different : c ≠ mark := fun same => absent (same ▸ List.mem_reverse.mp member)
    simpa using different
  simp [afterLast, List.takeWhile_append_of_pos through]

/-- Behind the last mark the text holds no other. -/
theorem suffix_and_notMem_iff {mark : Char} {tail text : Text} :
    mark :: tail <:+ text ∧ mark ∉ tail ↔ mark ∈ text ∧ afterLast mark text = tail := by
  constructor
  · rintro ⟨⟨before, rfl⟩, absent⟩
    exact ⟨by simp, afterLast_append before absent⟩
  · rintro ⟨present, rfl⟩
    obtain ⟨back, front, shape, absent⟩ := List.eq_append_cons_of_mem (List.mem_reverse.mpr present)
    have split : text = front.reverse ++ mark :: back.reverse := by
      simpa using congrArg List.reverse shape
    have unmarked : mark ∉ back.reverse := by simpa using absent
    rw [split, afterLast_append _ unmarked]
    exact ⟨List.suffix_append _ _, unmarked⟩

end Text
end InlineStyle
