import InlineStyle.Text

/-! A text can be read in one way only as pieces with gaps between them, and the pieces of a text are that
reading. Words are the pieces between blanks. -/

namespace InlineStyle

def Letters (word : Text) : Prop := word ≠ [] ∧ ∀ c ∈ word, c.isAlpha = true

instance : DecidablePred Letters := fun word =>
  decidable_of_iff (word ≠ [] ∧ word.all Char.isAlpha = true) (by rw [Letters, List.all_eq_true])

namespace Text

/-- The text consists of the pieces in order, each as long as it can be, with gaps between and around them. -/
inductive Laid (isGap : Char → Bool) : Text → List Text → Prop where
  | done : Laid isGap [] []
  | gap {c : Char} {text : Text} {found : List Text} (gap : isGap c = true) (rest : Laid isGap text found) :
      Laid isGap (c :: text) found
  | piece {piece text : Text} {found : List Text} (nonempty : piece ≠ []) (solid : ∀ c ∈ piece, isGap c = false)
      (bounded : ∀ c ∈ text.head?, isGap c = true) (rest : Laid isGap text found) :
      Laid isGap (piece ++ text) (piece :: found)

variable {isGap : Char → Bool}

theorem pieces_gap {c : Char} (text : Text) (gap : isGap c = true) :
    pieces isGap (c :: text) = pieces isGap text := by
  simp [pieces, gap]

private theorem attach_apart {text : Text} (c : Char) (found : List Text)
    (bounded : ∀ next ∈ text.head?, isGap next = true) : attach isGap c text found = [c] :: found := by
  cases text with
  | nil => cases found <;> rfl
  | cons next text =>
    have gap : isGap next = true := bounded next rfl
    cases found <;> simp [attach, gap]

theorem pieces_piece {piece text : Text} (nonempty : piece ≠ []) (solid : ∀ c ∈ piece, isGap c = false)
    (bounded : ∀ c ∈ text.head?, isGap c = true) :
    pieces isGap (piece ++ text) = piece :: pieces isGap text := by
  induction piece with
  | nil => exact absurd rfl nonempty
  | cons c piece ih =>
    have head : isGap c = false := solid c (by simp)
    have tail : ∀ d ∈ piece, isGap d = false := fun d member => solid d (by simp [member])
    cases piece with
    | nil => simp [pieces, head, attach_apart c _ bounded]
    | cons next piece =>
      have joined := ih (by simp) tail
      have close : isGap next = false := tail next (by simp)
      simp only [List.cons_append] at joined ⊢
      rw [pieces, joined]
      simp [head, attach, close]

theorem pieces_laid (isGap : Char → Bool) (text : Text) : Laid isGap text (pieces isGap text) := by
  induction text with
  | nil => exact .done
  | cons c text ih =>
    by_cases gap : isGap c = true
    · rw [pieces_gap text gap]
      exact .gap gap ih
    · have alone : ∀ d ∈ [c], isGap d = false := by simpa using gap
      by_cases ends : ∀ next ∈ text.head?, isGap next = true
      · rw [← List.singleton_append, pieces_piece (by simp) alone ends]
        exact .piece (by simp) alone ends ih
      · -- The rest starts inside a piece, and its reading starts with what is left of that piece.
        generalize shape : pieces isGap text = found at ih
        cases ih with
        | done => simp at ends
        | gap head _ => simp [head] at ends
        | @piece piece text found nonempty solid bounded rest =>
          have longer : ∀ d ∈ c :: piece, isGap d = false := by
            intro d member
            rcases List.mem_cons.mp member with rfl | inside
            · simpa using gap
            · exact solid d inside
          have same : pieces isGap text = found :=
            (List.cons.inj ((pieces_piece nonempty solid bounded).symm.trans shape)).2
          rw [← List.cons_append, pieces_piece (by simp) longer bounded, same]
          exact .piece (by simp) longer bounded rest

theorem Laid.pieces_eq {text : Text} {found : List Text} (laid : Laid isGap text found) :
    pieces isGap text = found := by
  induction laid with
  | done => rfl
  | gap gap _ ih => rw [pieces_gap _ gap, ih]
  | piece nonempty solid bounded _ ih => rw [pieces_piece nonempty solid bounded, ih]

/-- The pieces of a text are the only ones it can be read as. -/
theorem pieces_eq_iff {text : Text} {found : List Text} : pieces isGap text = found ↔ Laid isGap text found :=
  ⟨fun same => same ▸ pieces_laid isGap text, Laid.pieces_eq⟩

theorem Laid.solid {piece text : Text} {found : List Text} (laid : Laid isGap text found) (listed : piece ∈ found) :
    ∀ c ∈ piece, isGap c = false := by
  induction laid with
  | done => cases listed
  | gap _ _ ih => exact ih listed
  | piece _ solid _ _ ih =>
    rcases List.mem_cons.mp listed with rfl | behind
    · exact solid
    · exact ih behind

variable {left right : Text}

/-- Where the texts meet no piece goes on: one side has a gap there, or nothing at all. -/
def Parted (isGap : Char → Bool) (left right : Text) : Prop :=
  (∀ c ∈ left.getLast?, isGap c = true) ∨ ∀ c ∈ right.head?, isGap c = true

instance : Decidable (Parted isGap left right) :=
  decidable_of_iff (left.getLast?.all isGap = true ∨ right.head?.all isGap = true) <| by
    simp only [Parted, Option.all_eq_true, Option.mem_def]

private theorem Parted.of_append (front : Text) {text : Text} (parted : Parted isGap (front ++ text) right) :
    Parted isGap text right := by
  refine parted.imp_left fun closed c last => closed c ?_
  rw [List.getLast?_append, Option.mem_def.mp last]
  rfl

theorem Parted.prepend (front : Text) {text : Text} (nonempty : text ≠ []) (parted : Parted isGap text right) :
    Parted isGap (front ++ text) right := by
  refine parted.imp_left fun closed c last => closed c ?_
  rw [List.getLast?_append, List.getLast?_eq_some_getLast nonempty] at last
  rw [List.getLast?_eq_some_getLast nonempty]
  exact last

theorem Laid.append {found more : List Text} (laid : Laid isGap left found) (others : Laid isGap right more)
    (parted : Parted isGap left right) : Laid isGap (left ++ right) (found ++ more) := by
  induction laid with
  | done => exact others
  | @gap c text found gap _ ih => exact .gap gap (ih (Parted.of_append [c] parted))
  | @piece piece text found nonempty solid bounded _ ih =>
    rw [List.append_assoc]
    refine .piece nonempty solid ?_ (ih (parted.of_append piece))
    cases text with
    | cons next text => exact bounded
    | nil =>
      -- The piece ends the left text, so the gap is on the right.
      refine parted.resolve_left fun closed => ?_
      rw [List.append_nil] at closed
      have last : piece.getLast nonempty ∈ piece.getLast? := List.getLast?_eq_some_getLast nonempty
      exact Bool.false_ne_true ((solid _ (List.getLast_mem nonempty)).symm.trans (closed _ last))

theorem pieces_append (parted : Parted isGap left right) :
    pieces isGap (left ++ right) = pieces isGap left ++ pieces isGap right :=
  ((pieces_laid isGap left).append (pieces_laid isGap right) parted).pieces_eq

theorem exists_solid_prefix (isGap : Char → Bool) (text : Text) :
    ∃ back last, text = back ++ last ∧ (∀ c ∈ back, isGap c = false) ∧ ∀ c ∈ last.head?, isGap c = true := by
  refine ⟨text.takeWhile (!isGap ·), text.dropWhile (!isGap ·), List.takeWhile_append_dropWhile.symm, ?_, ?_⟩
  · intro c member
    simpa using List.all_eq_true.mp List.all_takeWhile c member
  · intro c head
    have stopped := List.head?_dropWhile_not (!isGap ·) text
    rw [Option.mem_def.mp head] at stopped
    simpa using stopped

theorem exists_solid_suffix (isGap : Char → Bool) (text : Text) :
    ∃ first front, text = first ++ front ∧ (∀ c ∈ front, isGap c = false) ∧ ∀ c ∈ first.getLast?, isGap c = true := by
  obtain ⟨back, last, split, solid, bounded⟩ := exists_solid_prefix isGap text.reverse
  refine ⟨last.reverse, back.reverse, ?_, by simpa using solid, by simpa using bounded⟩
  simpa using congrArg List.reverse split

/-- A character that is no gap stands in the piece of what is solid in front of it and behind it. -/
theorem exists_piece_around {c : Char} (solid : isGap c = false) (left right : Text) :
    ∃ first front back last, left = first ++ front ∧ right = back ++ last ∧
      pieces isGap (left ++ c :: right) = pieces isGap first ++ (front ++ c :: back) :: pieces isGap last := by
  obtain ⟨first, front, rfl, solidFront, closed⟩ := exists_solid_suffix isGap left
  obtain ⟨back, last, rfl, solidBack, bounded⟩ := exists_solid_prefix isGap right
  refine ⟨first, front, back, last, rfl, rfl, ?_⟩
  have middle : ∀ d ∈ front ++ c :: back, isGap d = false := by
    intro d member
    rcases List.mem_append.mp member with inside | behind
    · exact solidFront d inside
    · rcases List.mem_cons.mp behind with rfl | inside
      · exact solid
      · exact solidBack d inside
  have regrouped : first ++ front ++ c :: (back ++ last) = first ++ ((front ++ c :: back) ++ last) := by simp
  rw [regrouped, pieces_append (.inl closed), pieces_piece (by simp) middle bounded]

def Blank (gap : Text) : Prop := gap ≠ [] ∧ ∀ c ∈ gap, isBlank c = true

instance : DecidablePred Blank := fun gap =>
  decidable_of_iff (gap ≠ [] ∧ gap.all isBlank = true) (by rw [Blank, List.all_eq_true])

theorem isBlank_of_mem_words {word input : Text} (member : word ∈ input.words) : ∀ c ∈ word, isBlank c = false :=
  (pieces_laid isBlank input).solid member

theorem words_append (parted : Parted isBlank left right) : (left ++ right).words = left.words ++ right.words :=
  pieces_append parted

theorem words_around {middle : Text} (nonempty : middle ≠ []) (before : Parted isBlank left middle)
    (behind : Parted isBlank middle right) : (left ++ middle ++ right).words = left.words ++ middle.words ++ right.words := by
  rw [words_append (behind.prepend left nonempty), words_append before]

theorem words_of_blanks {gap : Text} (blanks : ∀ c ∈ gap, isBlank c = true) : gap.words = [] := by
  induction gap with
  | nil => rfl
  | cons c gap ih =>
    rw [words, pieces_gap gap (blanks c (by simp))]
    exact ih fun d member => blanks d (by simp [member])

theorem words_append_blank {gap : Text} (blank : Blank gap) (left right : Text) :
    (left ++ gap ++ right).words = left.words ++ right.words := by
  obtain ⟨nonempty, blanks⟩ := blank
  have before : Parted isBlank left gap := .inr fun c head => blanks c (List.mem_of_head? head)
  have behind : Parted isBlank gap right := .inl fun c last => blanks c (List.mem_of_getLast? last)
  rw [words_around nonempty before behind, words_of_blanks blanks, List.append_nil]

/-- Some of the words of a text, in their order, are the words of a text. -/
theorem exists_words_filter (keep : Text → Bool) (input : Text) :
    ∃ other : Text, other.words = input.words.filter keep := by
  have laid := pieces_laid isBlank input
  rw [words]
  generalize pieces isBlank input = found at laid
  suffices kept : ∃ other, Laid isBlank other (found.filter keep) from kept.imp fun _ laid => laid.pieces_eq
  induction laid with
  | done => exact ⟨[], .done⟩
  | gap _ _ ih => exact ih
  | @piece piece _ found nonempty solid _ _ ih =>
    obtain ⟨other, rest⟩ := ih
    have spaced : Laid isBlank (' ' :: other) (found.filter keep) := .gap rfl rest
    have bounded : ∀ c ∈ (' ' :: other).head?, isBlank c = true := by
      rintro c ⟨⟩
      rfl
    rw [List.filter_cons]
    split
    · exact ⟨piece ++ ' ' :: other, .piece nonempty solid bounded spaced⟩
    · exact ⟨other, rest⟩

end Text
end InlineStyle
