import InlineStyle.Proofs.Utf8RoundTrip

/-! A lossy reading starts afresh at every character. Bytes that break off or make no character never reach into the bytes
of a text behind them, and take nothing from the bytes before it. -/

namespace InlineStyle.Text.Utf8

variable {code first : Nat} {ranges : List (Nat × Nat)} {left right bytes : List UInt8}

def Continues (byte : UInt8) : Prop := 0x80 ≤ byte.toNat ∧ byte.toNat ≤ 0xbf

/-- No character can go on with these bytes. -/
def Fresh (bytes : List UInt8) : Prop := ∀ byte ∈ bytes.head?, ¬ Continues byte

theorem announced_of_continues {byte : UInt8} (continues : Continues byte) : announced byte.toNat = none := by
  obtain ⟨above, below⟩ := continues
  simp only [announced]
  repeat rw [if_neg (by omega)]

/-- Whatever the first byte announces, only continuing bytes are taken for it. -/
theorem continues_of_announced (announces : announced first = some (code, ranges)) :
    ∀ range ∈ ranges, 0x80 ≤ range.1 ∧ range.2 ≤ 0xbf := by
  have listed : (announced first).map Prod.snd = some ranges := congrArg (Option.map Prod.snd) announces
  simp only [announced, apply_ite (Option.map Prod.snd), Option.map_some, Option.map_none] at listed
  repeat' split at listed
  all_goals cases listed
  all_goals decide

/-- Bytes that are announced but do not come are not looked for in a fresh start. -/
theorem continued_append (fresh : Fresh right) (continuing : ∀ range ∈ ranges, 0x80 ≤ range.1 ∧ range.2 ≤ 0xbf) :
    continued code ranges (left ++ right) =
      ((continued code ranges left).1, (continued code ranges left).2 ++ right) := by
  induction ranges generalizing code left with
  | nil => rfl
  | cons range ranges ih =>
    obtain ⟨low, high⟩ := range
    obtain ⟨above, below⟩ := continuing (low, high) List.mem_cons_self
    cases left with
    | nil =>
      cases right with
      | nil => rfl
      | cons byte right =>
        have outside : ¬ (low ≤ byte.toNat ∧ byte.toNat ≤ high) := fun inside =>
          fresh byte rfl ⟨Nat.le_trans above inside.1, Nat.le_trans inside.2 below⟩
        have stopped : continued code ((low, high) :: ranges) (byte :: right) = (none, byte :: right) := by
          rw [continued, if_neg outside]
        exact stopped
    | cons byte left =>
      rw [List.cons_append, continued, continued]
      split
      · exact ih fun range member => continuing range (List.mem_cons_of_mem _ member)
      · rfl

/-- A piece ends where a fresh start is made, so both sides are read on their own. -/
theorem pieces_append (fresh : Fresh right) (left : List UInt8) : pieces (left ++ right) = pieces left ++ pieces right := by
  fun_induction pieces left with
  | case1 => rfl
  | case2 first left unannounced ih =>
    rw [List.cons_append, pieces, unannounced]
    exact congrArg _ ih
  | case3 first left code ranges announces ih =>
    rw [List.cons_append, pieces, announces]
    simp only [continued_append fresh (continues_of_announced announces), ih, List.cons_append]

theorem fresh_encode_append {text : Text} (nonempty : text ≠ []) (bytes : List UInt8) : Fresh (encode text ++ bytes) := by
  obtain ⟨c, text, rfl⟩ := List.exists_cons_of_ne_nil nonempty
  have read := pieces_encode_append (c :: text) bytes
  generalize encode (c :: text) ++ bytes = encoded at read
  rintro byte first continues
  obtain ⟨rest, rfl⟩ := List.head?_eq_some_iff.mp first
  -- A continuing byte in front would be a piece of its own.
  rw [pieces, announced_of_continues continues] at read
  cases read

/-- Text among any bytes is read as it is, and what stands before and behind it as if the text were not there. Every piece
that is no text shows as one replacement character, so there are no more of them than on both sides alone. -/
theorem lossy_around (before after : List UInt8) (text : Text) :
    (text ≠ [] →
      lossy (before ++ encode text ++ after) = lossy before ++ text ++ lossy after ∧
      pieces (before ++ encode text ++ after) = pieces before ++ text.map some ++ pieces after) ∧
    lossy (encode text) = text := by
  refine ⟨fun nonempty => ?_, lossy_encode text⟩
  have read : pieces (before ++ encode text ++ after) = pieces before ++ text.map some ++ pieces after := by
    rw [List.append_assoc, pieces_append (fresh_encode_append nonempty after), pieces_encode_append, ← List.append_assoc]
  refine ⟨?_, read⟩
  have shown : (text.map some).map (·.getD '\ufffd') = text := by
    rw [List.map_map]
    exact List.map_id text
  rw [lossy, read, List.map_append, List.map_append, shown, lossy, lossy]

/-- A quote and a character of three bytes between one that breaks off behind its second byte and a byte that it lacks. -/
theorem lossy_around_quote :
    let text : Text := ['"', '€']
    text ≠ [] ∧
      lossy ([0xf0, 0x9f] ++ encode text ++ [0x98, 0x41]) = ['\ufffd', '"', '€', '\ufffd', 'A'] := by
  intro text
  have nonempty : text ≠ [] := by decide
  obtain ⟨around, -⟩ := lossy_around [0xf0, 0x9f] [0x98, 0x41] text
  have sides : lossy [0xf0, 0x9f] = ['\ufffd'] ∧ lossy [0x98, 0x41] = ['\ufffd', 'A'] := by decide +kernel
  have read := (around nonempty).1
  rw [sides.1, sides.2] at read
  exact ⟨nonempty, read⟩

-- With nothing between them two broken sides can make a character.
example : lossy [0xc3] ++ lossy [0xa9] = ['\ufffd', '\ufffd'] ∧ lossy ([0xc3] ++ [0xa9]) = ['é'] := by decide +kernel

end InlineStyle.Text.Utf8
