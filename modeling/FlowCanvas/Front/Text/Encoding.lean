/-!
# Encodings of text

Text as bytes in UTF-8, UTF-16 and UTF-32. Two surrogates in sequence make one character, and a
lone one is replaced by U+FFFD, as are malformed sequences in UTF-8. Where a text is known to start
with ASCII characters, as JSON text does, the zeros among its first bytes tell the encoding
(`Encoding.ofBytes`).
-/

namespace FlowCanvas.Text

/-! ### UTF-8 -/

/-- The bytes of a character in UTF-8. -/
def utf8Bytes (c : Char) : List Nat := (String.utf8EncodeChar c).map UInt8.toNat

/-- What a first byte says about its sequence: the bits it contributes, and the range of each
byte that has to follow. The second byte's range keeps out overlong forms, surrogates and numbers
beyond the last code point. -/
def leadByte? (b : Nat) : Option (Nat × List (Nat × Nat)) :=
  let more : Nat × Nat := (0x80, 0xBF)
  if b < 0x80 then some (b, [])
  else if b < 0xC2 then none
  else if b < 0xE0 then some (b - 0xC0, [more])
  else if b = 0xE0 then some (0, [(0xA0, 0xBF), more])
  else if b = 0xED then some (0x0D, [(0x80, 0x9F), more])
  else if b < 0xF0 then some (b - 0xE0, [more, more])
  else if b = 0xF0 then some (0, [(0x90, 0xBF), more, more])
  else if b < 0xF4 then some (b - 0xF0, [more, more, more])
  else if b = 0xF4 then some (4, [(0x80, 0x8F), more, more])
  else none

/-- Follows a sequence through the ranges of its bytes: its number, unless it breaks off, and the
bytes after it. -/
def follow (bits : Nat) : List (Nat × Nat) → List Nat → Option Nat × List Nat
  | [], bytes => (some bits, bytes)
  | _ :: _, [] => (none, [])
  | range :: ranges, b :: bytes =>
    if range.1 ≤ b ∧ b ≤ range.2 then follow (64 * bits + b % 64) ranges bytes
    else (none, b :: bytes)

theorem length_follow (bits : Nat) (ranges : List (Nat × Nat)) (bytes : List Nat) :
    (follow bits ranges bytes).2.length ≤ bytes.length := by
  fun_induction follow bits ranges bytes with
  | case1 bits bytes => exact Nat.le_refl _
  | case2 bits range ranges => exact Nat.le_refl _
  | case3 bits range ranges b bytes h ih => exact Nat.le_succ_of_le ih
  | case4 bits range ranges b bytes h => exact Nat.le_refl _

/-- UTF-8 text, with a replacement character for each sequence that breaks off. -/
def utf8Decode : List Nat → List Char
  | [] => []
  | b :: bytes =>
    match leadByte? b with
    | none => '\uFFFD' :: utf8Decode bytes
    | some lead =>
      let followed := follow lead.1 lead.2 bytes
      have := length_follow lead.1 lead.2 bytes
      (followed.1.map Char.ofNat).getD '\uFFFD' :: utf8Decode followed.2
termination_by bytes => bytes.length
decreasing_by
  · exact Nat.lt_succ_self _
  · exact Nat.lt_succ_of_le this

/-! ### UTF-16 and UTF-32 -/

/-- The character of a code point; a surrogate has none. -/
def ofCodePoint (n : Nat) : Char :=
  if 0xD800 ≤ n ∧ n < 0xE000 then '\uFFFD' else Char.ofNat n

/-- The text of UTF-16 units, in which characters beyond the basic plane may also stand
unsplit. -/
def ofUnits : List Nat → List Char
  | [] => []
  | [u] => [ofCodePoint u]
  | u :: v :: rest =>
    if (0xD800 ≤ u ∧ u < 0xDC00) ∧ (0xDC00 ≤ v ∧ v < 0xE000) then
      Char.ofNat (0x10000 + (u - 0xD800) * 0x400 + (v - 0xDC00)) :: ofUnits rest
    else ofCodePoint u :: ofUnits (v :: rest)

/-- A number from its bytes, of which the last one counts least. -/
def ofBytes (bytes : List Nat) : Nat := bytes.foldl (fun n b ↦ 256 * n + b) 0

/-- Two bytes after two; none if one is left over. -/
def inPairs : List Nat → Option (List (List Nat))
  | [] => some []
  | a :: b :: rest => (inPairs rest).map ([a, b] :: ·)
  | [_] => none

/-- Four bytes after four; none if some are left over. -/
def inFours : List Nat → Option (List (List Nat))
  | [] => some []
  | a :: b :: c :: d :: rest => (inFours rest).map ([a, b, c, d] :: ·)
  | _ => none

/-- The code point of a number, if it is small enough. -/
def codePoint? (n : Nat) : Option Char := if n < 0x110000 then some (ofCodePoint n) else none

/-! ### Telling the encoding -/

/-- How text is written in bytes. In UTF-16 and UTF-32 the byte that counts most comes first or
last. -/
inductive Encoding where
  | utf8
  | utf16 (mostFirst : Bool)
  | utf32 (mostFirst : Bool)
  deriving DecidableEq

/-- The encoding of text that starts with ASCII characters. -/
def Encoding.ofBytes : List Nat → Encoding
  | [0, _] => .utf16 true
  | [_, 0] => .utf16 false
  | 0 :: 0 :: _ :: _ :: _ => .utf32 true
  | 0 :: _ :: _ :: _ :: _ => .utf16 true
  | _ :: 0 :: 0 :: 0 :: _ => .utf32 false
  | _ :: 0 :: _ :: _ :: _ => .utf16 false
  | _ => .utf8

/-- The text that bytes write. -/
def Encoding.decode? (e : Encoding) (bytes : List Nat) : Option (List Char) :=
  let arranged := fun (mostFirst : Bool) (group : List Nat) ↦
    Text.ofBytes (if mostFirst then group else group.reverse)
  match e with
  | utf8 => some (utf8Decode bytes)
  | utf16 mostFirst => (inPairs bytes).map fun groups ↦ ofUnits (groups.map (arranged mostFirst))
  | utf32 mostFirst => (inFours bytes).bind fun groups ↦
    (groups.map (arranged mostFirst)).mapM codePoint?

end FlowCanvas.Text
