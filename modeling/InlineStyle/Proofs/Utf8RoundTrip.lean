import InlineStyle.Text.Utf8

/-! Reading the UTF-8 of a text gives the text. Each character is read back from its own bytes, whatever follows them. -/

namespace InlineStyle.Text.Utf8

variable {code first low high digit : Nat} {ranges : List (Nat × Nat)} {bytes rest : List UInt8}

private theorem pieces_of_announced {byte : UInt8} (announces : announced byte.toNat = some (code, ranges)) {value : Nat}
    (taken : continued code ranges bytes = (some value, rest)) :
    pieces (byte :: bytes) = some (Char.ofNat value) :: pieces rest := by
  rw [pieces, announces]
  simp only [taken, Option.map_some]

/-- A byte behind the first one has six bits of the code. -/
private theorem continued_byte (above : low ≤ digit + 128) (below : digit + 128 ≤ high) (small : digit < 64) :
    continued code ((low, high) :: ranges) (UInt8.ofNat (digit + 128) :: bytes) =
      continued (code * 64 + digit) ranges bytes := by
  have value : (UInt8.ofNat (digit + 128)).toNat = digit + 128 := by
    rw [UInt8.toNat_ofNat']
    omega
  rw [continued, value, if_pos ⟨above, below⟩, Nat.add_sub_cancel]

private theorem continued_any (small : digit < 64) :
    continued code ((0x80, 0xbf) :: ranges) (UInt8.ofNat (digit + 128) :: bytes) =
      continued (code * 64 + digit) ranges bytes :=
  continued_byte (by omega) (by omega) small

private theorem announced_byte (small : first < 256) : announced (UInt8.ofNat first).toNat = announced first := by
  rw [UInt8.toNat_ofNat', Nat.mod_eq_of_lt small]

private theorem announced_two (above : 0xc2 ≤ first) (below : first ≤ 0xdf) :
    announced first = some (first - 0xc0, [(0x80, 0xbf)]) := by
  rw [announced, if_neg (by omega), if_pos ⟨above, below⟩]

/-- The second byte excludes codes that are too small for three bytes, and surrogates. -/
private theorem announced_three (above : 0xe0 ≤ first) (below : first ≤ 0xef) :
    announced first =
      some (first - 0xe0, [(if first = 0xe0 then 0xa0 else 0x80, if first = 0xed then 0x9f else 0xbf), (0x80, 0xbf)]) := by
  simp only [announced]
  rw [if_neg (by omega), if_neg (by omega)]
  by_cases lowest : first = 0xe0
  · simp [lowest]
  · by_cases surrogate : first = 0xed
    · simp [surrogate]
    · rw [if_neg lowest, if_neg surrogate, if_pos (by omega), if_neg lowest, if_neg surrogate]

/-- The second byte excludes codes that are too small for four bytes, and those beyond the last one. -/
private theorem announced_four (above : 0xf0 ≤ first) (below : first ≤ 0xf4) :
    announced first =
      some (first - 0xf0,
        [(if first = 0xf0 then 0x90 else 0x80, if first = 0xf4 then 0x8f else 0xbf), (0x80, 0xbf), (0x80, 0xbf)]) := by
  simp only [announced]
  rw [if_neg (by omega), if_neg (by omega), if_neg (by omega), if_neg (by omega), if_neg (by omega)]
  by_cases lowest : first = 0xf0
  · simp [lowest]
  · by_cases highest : first = 0xf4
    · simp [highest]
    · rw [if_neg lowest, if_pos (by omega), if_neg lowest, if_neg highest]

private theorem pieces_one (below : code ≤ 0x7f) :
    pieces (UInt8.ofNat code :: bytes) = some (Char.ofNat code) :: pieces bytes := by
  have announces : announced (UInt8.ofNat code).toNat = some (code, []) := by
    rw [announced_byte (by omega), announced, if_pos (by omega)]
  exact pieces_of_announced announces rfl

private theorem pieces_two (above : 0x7f < code) (below : code ≤ 0x7ff) :
    pieces (UInt8.ofNat (code / 64 % 32 + 192) :: UInt8.ofNat (code % 64 + 128) :: bytes) =
      some (Char.ofNat code) :: pieces bytes := by
  have announces := (announced_byte (by omega)).trans
    (announced_two (by omega : 0xc2 ≤ code / 64 % 32 + 192) (by omega))
  have whole : (code / 64 % 32 + 192 - 0xc0) * 64 + code % 64 = code := by omega
  refine pieces_of_announced announces ?_
  rw [continued_any (by omega), whole, continued]

private theorem pieces_three (above : 0x7ff < code) (below : code ≤ 0xffff) (scalar : code < 0xd800 ∨ 0xdfff < code) :
    pieces (UInt8.ofNat (code / 4096 % 16 + 224) :: UInt8.ofNat (code / 64 % 64 + 128) :: UInt8.ofNat (code % 64 + 128) ::
      bytes) = some (Char.ofNat code) :: pieces bytes := by
  have announces := (announced_byte (by omega)).trans
    (announced_three (by omega : 0xe0 ≤ code / 4096 % 16 + 224) (by omega))
  have least : (if code / 4096 % 16 + 224 = 0xe0 then 0xa0 else 0x80) ≤ code / 64 % 64 + 128 := by
    split <;> omega
  have most : code / 64 % 64 + 128 ≤ if code / 4096 % 16 + 224 = 0xed then 0x9f else 0xbf := by
    split <;> omega
  have whole : ((code / 4096 % 16 + 224 - 0xe0) * 64 + code / 64 % 64) * 64 + code % 64 = code := by omega
  refine pieces_of_announced announces ?_
  rw [continued_byte least most (by omega), continued_any (by omega), whole, continued]

private theorem pieces_four (above : 0xffff < code) (below : code < 0x110000) :
    pieces (UInt8.ofNat (code / 262144 % 8 + 240) :: UInt8.ofNat (code / 4096 % 64 + 128) ::
      UInt8.ofNat (code / 64 % 64 + 128) :: UInt8.ofNat (code % 64 + 128) :: bytes) =
      some (Char.ofNat code) :: pieces bytes := by
  have announces := (announced_byte (by omega)).trans
    (announced_four (by omega : 0xf0 ≤ code / 262144 % 8 + 240) (by omega))
  have least : (if code / 262144 % 8 + 240 = 0xf0 then 0x90 else 0x80) ≤ code / 4096 % 64 + 128 := by
    split <;> omega
  have most : code / 4096 % 64 + 128 ≤ if code / 262144 % 8 + 240 = 0xf4 then 0x8f else 0xbf := by
    split <;> omega
  have whole : (((code / 262144 % 8 + 240 - 0xf0) * 64 + code / 4096 % 64) * 64 + code / 64 % 64) * 64 + code % 64 =
      code := by omega
  refine pieces_of_announced announces ?_
  rw [continued_byte least most (by omega), continued_any (by omega), continued_any (by omega), whole, continued]

theorem pieces_encoded (c : Char) (bytes : List UInt8) :
    pieces (String.utf8EncodeChar c ++ bytes) = some c :: pieces bytes := by
  have scalar : c.val.toNat < 0xd800 ∨ 0xdfff < c.val.toNat ∧ c.val.toNat < 0x110000 := c.valid
  have read : Char.ofNat c.val.toNat = c := Char.ofNat_toNat c
  have encoded := String.utf8EncodeChar.eq_1 c
  generalize String.utf8EncodeChar c = front at encoded ⊢
  generalize c.val.toNat = code at scalar read encoded
  subst read encoded
  split
  next one => exact pieces_one one
  next more =>
    split
    next two => exact pieces_two (by omega) two
    next more =>
      split
      next three => exact pieces_three (by omega) three (by omega)
      next => exact pieces_four (by omega) (by omega)

/-- A text is read back from its own bytes, whatever follows them. -/
theorem pieces_encode_append (text : Text) (bytes : List UInt8) :
    pieces (encode text ++ bytes) = text.map some ++ pieces bytes := by
  induction text with
  | nil => rw [encode, List.flatMap_nil, List.nil_append, List.map_nil, List.nil_append]
  | cons c text ih =>
    rw [encode] at ih ⊢
    rw [List.flatMap_cons, List.append_assoc, pieces_encoded, ih, List.map_cons, List.cons_append]

theorem pieces_encode (text : Text) : pieces (encode text) = text.map some := by
  have alone := pieces_encode_append text []
  rwa [List.append_nil, pieces, List.append_nil] at alone

theorem lossy_encode (text : Text) : lossy (encode text) = text := by
  rw [lossy, pieces_encode, List.map_map]
  exact List.map_id text

theorem strict?_encode (text : Text) : strict? (encode text) = some text := by
  rw [strict?, pieces_encode]
  induction text with
  | nil => rfl
  | cons c text ih =>
    rw [List.map_cons, List.mapM_cons, ih]
    rfl

end InlineStyle.Text.Utf8
