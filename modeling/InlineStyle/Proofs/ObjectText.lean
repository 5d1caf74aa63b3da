import InlineStyle.Style

/-! The text of an object literal, read from the left: the first field, and the other fields each with a comma in
front. What is well nested in the keys and values is well nested in the literal. -/

namespace InlineStyle

def fieldText (field : Text × Text) : Text := field.1 ++ ": ".toList ++ field.2

def moreFields (fields : List (Text × Text)) : Text := fields.flatMap fun field => ", ".toList ++ fieldText field

theorem objectText_nil : objectText [] = "\x7b  \x7d".toList := rfl

theorem moreFields_cons (field : Text × Text) (fields : List (Text × Text)) :
    moreFields (field :: fields) = ", ".toList ++ fieldText field ++ moreFields fields := by
  rw [moreFields, List.flatMap_cons, moreFields]

theorem objectText_cons (field : Text × Text) (fields : List (Text × Text)) :
    objectText (field :: fields) = "\x7b ".toList ++ (fieldText field ++ (moreFields fields ++ " \x7d".toList)) := by
  have joined : ", ".toList.intercalate ((field :: fields).map fieldText) = fieldText field ++ moreFields fields := by
    induction fields generalizing field with
    | nil => exact List.intercalate_singleton.trans (List.append_nil _).symm
    | cons next fields ih =>
      rw [List.map_cons, List.map_cons, List.intercalate_cons_cons, ← List.map_cons, ih, moreFields_cons, List.append_assoc,
        List.append_assoc]
  have shape : objectText (field :: fields) =
      "\x7b ".toList ++ ", ".toList.intercalate ((field :: fields).map fieldText) ++ " \x7d".toList := rfl
  rw [shape, joined, List.append_assoc, List.append_assoc]

/-- Objects that both have fields can be compared from their first fields on. -/
theorem moreFields_of_objectText {field other : Text × Text} {fields others : List (Text × Text)} {rest remaining : Text}
    (same : objectText (field :: fields) ++ rest = objectText (other :: others) ++ remaining) :
    moreFields (field :: fields) ++ (" \x7d".toList ++ rest) =
      moreFields (other :: others) ++ (" \x7d".toList ++ remaining) := by
  rw [objectText_cons, objectText_cons] at same
  rw [moreFields_cons, moreFields_cons]
  simp only [List.append_assoc] at same ⊢
  exact congrArg (", ".toList ++ ·) (List.append_cancel_left same)

/-- Every single quote is closed by the next one, and outside of quotes every brace has its partner. -/
inductive Balanced : Text → Prop where
  | nil : Balanced []
  | char {c : Char} {text : Text} (unmarked : c ∉ "'\x7b\x7d".toList) (rest : Balanced text) : Balanced (c :: text)
  | quoted {inside text : Text} (closed : '\'' ∉ inside) (rest : Balanced text) :
      Balanced ('\'' :: (inside ++ '\'' :: text))
  | braced {inside text : Text} (nested : Balanced inside) (rest : Balanced text) :
      Balanced ('\x7b' :: (inside ++ '\x7d' :: text))

namespace Balanced

variable {left right : Text}

theorem append (first : Balanced left) (second : Balanced right) : Balanced (left ++ right) := by
  induction first with
  | nil => exact second
  | char unmarked _ ih => exact .char unmarked ih
  | quoted closed _ ih => simpa using Balanced.quoted closed ih
  | braced nested _ _ ih => simpa using Balanced.braced nested ih

theorem of_unmarked (unmarked : ∀ c ∈ left, c ∉ "'\x7b\x7d".toList) : Balanced left := by
  induction left with
  | nil => exact .nil
  | cons c text ih =>
    exact .char (unmarked c (by simp)) (ih fun d member => unmarked d (by simp [member]))

theorem inQuotes (closed : '\'' ∉ left) : Balanced (['\''] ++ left ++ ['\'']) := by
  simpa using Balanced.quoted closed .nil

theorem inBraces (nested : Balanced left) : Balanced ("\x7b ".toList ++ (left ++ " \x7d".toList)) := by
  have blank : Balanced " ".toList := of_unmarked (Text.forall_of_all (by decide))
  simpa using Balanced.braced (blank.append (nested.append blank)) .nil

theorem field {field : Text × Text} (key : Balanced field.1) (value : Balanced field.2) : Balanced (fieldText field) :=
  (key.append (of_unmarked (Text.forall_of_all (by decide)))).append value

theorem object {fields : List (Text × Text)} (each : ∀ field ∈ fields, Balanced (fieldText field)) :
    Balanced (objectText fields) := by
  have more (fields : List (Text × Text)) (each : ∀ field ∈ fields, Balanced (fieldText field)) :
      Balanced (moreFields fields) := by
    induction fields with
    | nil => exact .nil
    | cons field fields ih =>
      have comma : Balanced ", ".toList := of_unmarked (Text.forall_of_all (by decide))
      rw [moreFields_cons]
      exact (comma.append (each field (by simp))).append (ih fun other member => each other (by simp [member]))
  cases fields with
  | nil => exact Balanced.nil.inBraces
  | cons field fields =>
    rw [objectText_cons, ← List.append_assoc (fieldText field)]
    exact ((each field (by simp)).append (more fields fun other member => each other (by simp [member]))).inBraces

end Balanced

/-- Besides its fields an object literal holds blanks, braces, commas and colons. -/
theorem mem_objectText {fields : List (Text × Text)} {c : Char} (member : c ∈ objectText fields) :
    c ∈ " \x7b\x7d,:".toList ∨ ∃ field ∈ fields, c ∈ field.1 ∨ c ∈ field.2 := by
  have inField {field : Text × Text} (inside : c ∈ fieldText field) :
      c ∈ " \x7b\x7d,:".toList ∨ c ∈ field.1 ∨ c ∈ field.2 := by
    rcases List.mem_append.mp inside with front | value
    · rcases List.mem_append.mp front with key | colon
      · exact .inr (.inl key)
      · have marks : ∀ c ∈ ": ".toList, c ∈ " \x7b\x7d,:".toList := Text.forall_of_all (by decide)
        exact .inl (marks c colon)
    · exact .inr (.inr value)
  cases fields with
  | nil =>
    have marks : ∀ c ∈ objectText [], c ∈ " \x7b\x7d,:".toList := Text.forall_of_all (by decide)
    exact .inl (marks c member)
  | cons field fields =>
    rw [objectText_cons] at member
    simp only [List.mem_append, moreFields, List.mem_flatMap] at member
    have opening : ∀ c ∈ "\x7b ".toList, c ∈ " \x7b\x7d,:".toList := Text.forall_of_all (by decide)
    have comma : ∀ c ∈ ", ".toList, c ∈ " \x7b\x7d,:".toList := Text.forall_of_all (by decide)
    have closing : ∀ c ∈ " \x7d".toList, c ∈ " \x7b\x7d,:".toList := Text.forall_of_all (by decide)
    rcases member with mark | inside | ⟨other, listed, mark | inside⟩ | mark
    · exact .inl (opening c mark)
    · exact (inField inside).imp_right fun found => ⟨field, by simp, found⟩
    · exact .inl (comma c mark)
    · exact (inField inside).imp_right fun found => ⟨other, by simp [listed], found⟩
    · exact .inl (closing c mark)

end InlineStyle
