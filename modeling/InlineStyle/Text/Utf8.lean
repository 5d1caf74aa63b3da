import InlineStyle.Text

/-! UTF-8 bytes as characters. A byte sequence is cut into well-formed characters and maximal
ill-formed pieces: a piece is the longest start of some character that stands there, or one byte.
The lossy reading shows each piece as U+FFFD, the strict reading refuses it. -/

namespace InlineStyle.Text.Utf8

/-- What a first byte announces: its share of the character's code and the range of each byte to come. -/
def announced (first : Nat) : Option (Nat × List (Nat × Nat)) :=
  let any := (0x80, 0xbf)
  if first < 0x80 then some (first, [])
  else if 0xc2 ≤ first ∧ first ≤ 0xdf then some (first - 0xc0, [any])
  else if first = 0xe0 then some (first - 0xe0, [(0xa0, 0xbf), any])
  else if first = 0xed then some (first - 0xe0, [(0x80, 0x9f), any])
  else if 0xe1 ≤ first ∧ first ≤ 0xef then some (first - 0xe0, [any, any])
  else if first = 0xf0 then some (first - 0xf0, [(0x90, 0xbf), any, any])
  else if 0xf1 ≤ first ∧ first ≤ 0xf3 then some (first - 0xf0, [any, any, any])
  else if first = 0xf4 then some (first - 0xf0, [(0x80, 0x8f), any, any])
  else none

/-- Takes the announced bytes as far as they come. The code is present when all of them did. -/
def continued (code : Nat) : List (Nat × Nat) → List UInt8 → Option Nat × List UInt8
  | [], bytes => (some code, bytes)
  | _ :: _, [] => (none, [])
  | (low, high) :: ranges, byte :: bytes =>
    if low ≤ byte.toNat ∧ byte.toNat ≤ high then continued (code * 64 + (byte.toNat - 0x80)) ranges bytes
    else (none, byte :: bytes)

theorem length_continued_le (code : Nat) (ranges : List (Nat × Nat)) (bytes : List UInt8) :
    (continued code ranges bytes).2.length ≤ bytes.length := by
  fun_induction continued code ranges bytes with
  | case1 => simp
  | case2 => simp
  | case3 _ _ _ _ _ _ _ ih => exact Nat.le_succ_of_le ih
  | case4 => simp

/-- The characters of the bytes in order, with `none` for each ill-formed piece. -/
def pieces : List UInt8 → List (Option Char)
  | [] => []
  | first :: bytes =>
    match announced first.toNat with
    | none => none :: pieces bytes
    | some (code, ranges) =>
      (continued code ranges bytes).1.map Char.ofNat :: pieces (continued code ranges bytes).2
termination_by bytes => bytes.length
decreasing_by
  · simp
  · exact Nat.lt_succ_of_le (length_continued_le ..)

/-- Every ill-formed piece becomes one replacement character. -/
def lossy (bytes : List UInt8) : Text := (pieces bytes).map (·.getD '\ufffd')

/-- The text that the bytes encode, if they are well formed. -/
def strict? (bytes : List UInt8) : Option Text := (pieces bytes).mapM id

def encode (text : Text) : List UInt8 := text.flatMap String.utf8EncodeChar

end InlineStyle.Text.Utf8
