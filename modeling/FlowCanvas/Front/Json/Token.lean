import FlowCanvas.Front.Text.Encoding
import FlowCanvas.Json.Basic
import FlowCanvas.Number.Reading

/-!
# Tokens of JSON text

`Token.scan` cuts a text into the six punctuation marks and the values that are not containers, up
to the first place where neither stands, which makes a last token of its own.
Numbers are written in ASCII without leading zeros; `NaN`, `Infinity` and `-Infinity` are numbers
too. Inside a string no control character stands unescaped. Two escaped surrogates in sequence
make one character; a lone one is replaced.

Each piece that is read leaves a shorter text (`length_scanUnits`, `length_scanNumber`), which is
why scanning ends.
-/

namespace FlowCanvas.Json

open Number (isDigit takeDigits ofDigits digitLimit Decimal)

/-- A punctuation mark, or a value that is not a container. -/
inductive Token where
  /-- The text from here on starts with no token. -/
  | broken
  | openArray
  | closeArray
  | openObject
  | closeObject
  | comma
  | colon
  | scalar (value : Json)

namespace Token

/-- The character of an escape by one letter. -/
def simpleEscape? (c : Char) : Option Char :=
  if c = '"' ∨ c = '\\' ∨ c = '/' then some c
  else if c = 'b' then some '\x08'
  else if c = 'f' then some '\x0c'
  else if c = 'n' then some '\n'
  else if c = 'r' then some '\r'
  else if c = 't' then some '\t'
  else none

/-- The number that four hexadecimal digits write. -/
def fourHex? (a b c d : Char) : Option Nat :=
  match Text.hexDigit? a, Text.hexDigit? b, Text.hexDigit? c, Text.hexDigit? d with
  | some a, some b, some c, some d => some (((a * 16 + b) * 16 + c) * 16 + d)
  | _, _, _, _ => none

/-- The code points and surrogates of a string up to its closing mark, and the text after it.
`done` holds those already read, last one first. -/
def scanUnits (done : List Nat) : List Char → Option (List Nat × List Char)
  | [] => none
  | c :: rest =>
    if c = '"' then some (done.reverse, rest)
    else if c = '\\' then
      match rest with
      | [] => none
      | e :: after =>
        if e = 'u' then
          match after with
          | h₁ :: h₂ :: h₃ :: h₄ :: after =>
            match fourHex? h₁ h₂ h₃ h₄ with
            | some n => scanUnits (n :: done) after
            | none => none
          | _ => none
        else
          match simpleEscape? e with
          | some c => scanUnits (c.toNat :: done) after
          | none => none
    else if c.toNat < 0x20 then none
    else scanUnits (c.toNat :: done) rest

/-- The digits of a number before its point, and the rest: a single zero, or digits that do not
start with one. -/
def takeWhole : List Char → List Char × List Char
  | '0' :: rest => (['0'], rest)
  | cs => takeDigits cs

/-- The digits after a point, if a point with digits follows. -/
def takeFraction (cs : List Char) : List Char × List Char :=
  match cs with
  | '.' :: after => if (takeDigits after).1.isEmpty then ([], cs) else takeDigits after
  | _ => ([], cs)

/-- The exponent, if one with digits follows. -/
def takeExponent (cs : List Char) : Option Int × List Char :=
  match cs with
  | e :: after =>
    if e = 'e' ∨ e = 'E' then
      let signed := Number.takeSign after
      let digits := takeDigits signed.2
      if digits.1.isEmpty then (none, cs)
      else
        let n : Int := (ofDigits digits.1 : Int)
        (some (if signed.1 then -n else n), digits.2)
    else (none, cs)
  | [] => (none, cs)

/-- A number without its sign, and the text after it. -/
def scanNumber (negative : Bool) (cs : List Char) : Option (Json × List Char) :=
  let whole := takeWhole cs
  if whole.1.isEmpty then none
  else
    let fraction := takeFraction whole.2
    let exponent := takeExponent fraction.2
    if fraction.1.isEmpty && exponent.1.isNone then
      if digitLimit < whole.1.length then none
      else
        let n : Int := (ofDigits whole.1 : Int)
        some (.int (if negative then -n else n), exponent.2)
    else
      let decimal : Decimal := ⟨negative, ofDigits (whole.1 ++ fraction.1),
        exponent.1.getD 0 - (fraction.1.length : Int)⟩
      some (.float decimal.toFloat, exponent.2)

/-! ### Each piece leaves a shorter text -/

theorem length_scanUnits {done : List Nat} {cs : List Char} {p : List Nat × List Char}
    (h : scanUnits done cs = some p) : p.2.length < cs.length := by
  fun_induction scanUnits done cs generalizing p with
  | case2 done rest =>
    injection h with h
    simp [← h]
  | case4 done h₁ h₂ h₃ h₄ after n hn hc ih =>
    have := ih h
    simp only [List.length_cons]
    omega
  | case7 done e after he c hc hq ih =>
    have := ih h
    simp only [List.length_cons]
    omega
  | case10 done c rest hq hb hs ih =>
    have := ih h
    simp only [List.length_cons]
    omega
  | _ => simp at h

theorem length_takeDigits (cs : List Char) : (takeDigits cs).2.length ≤ cs.length :=
  List.Sublist.length_le (List.dropWhile_sublist _)

theorem length_takeDigits_lt {cs : List Char} (h : (takeDigits cs).1.isEmpty = false) :
    (takeDigits cs).2.length < cs.length := by
  cases cs with
  | nil => simp [takeDigits] at h
  | cons c rest =>
    by_cases hc : isDigit c = true
    · have := List.Sublist.length_le (List.dropWhile_sublist (l := rest) isDigit)
      simp only [takeDigits, List.dropWhile_cons, hc, if_true, List.length_cons]
      omega
    · simp [takeDigits, hc] at h

theorem length_takeWhole_lt {cs : List Char} (h : (takeWhole cs).1.isEmpty = false) :
    (takeWhole cs).2.length < cs.length := by
  unfold takeWhole at h ⊢
  split at h
  · simp
  · exact length_takeDigits_lt h

theorem length_takeFraction (cs : List Char) : (takeFraction cs).2.length ≤ cs.length := by
  unfold takeFraction
  split
  · next after =>
    split
    · exact Nat.le_refl _
    · have := length_takeDigits after
      simp only [List.length_cons]
      omega
  · exact Nat.le_refl _

theorem length_takeSign (cs : List Char) : (Number.takeSign cs).2.length ≤ cs.length := by
  unfold Number.takeSign
  split <;> simp

theorem length_takeExponent (cs : List Char) : (takeExponent cs).2.length ≤ cs.length := by
  unfold takeExponent
  split
  · next e after =>
    split
    · have h₁ := length_takeSign after
      have h₂ := length_takeDigits (Number.takeSign after).2
      simp only
      split
      · exact Nat.le_refl _
      · simp only [List.length_cons]
        omega
    · exact Nat.le_refl _
  · exact Nat.le_refl _

theorem length_scanNumber {negative : Bool} {cs : List Char} {p : Json × List Char}
    (h : scanNumber negative cs = some p) : p.2.length < cs.length := by
  unfold scanNumber at h
  simp only at h
  split at h
  · exact absurd h (by simp)
  · next hw =>
    have h₁ := length_takeWhole_lt (Bool.eq_false_iff.2 hw)
    have h₂ := length_takeFraction (takeWhole cs).2
    have h₃ := length_takeExponent (takeFraction (takeWhole cs).2).2
    split at h
    · split at h
      · exact absurd h (by simp)
      · injection h with h
        rw [← h]
        exact Nat.lt_of_le_of_lt (Nat.le_trans h₃ h₂) h₁
    · injection h with h
      rw [← h]
      exact Nat.lt_of_le_of_lt (Nat.le_trans h₃ h₂) h₁

/-! ### Scanning -/

/-- The mark of a punctuation character. -/
def mark? (c : Char) : Option Token :=
  if c = '[' then some openArray
  else if c = ']' then some closeArray
  else if c = '\x7b' then some openObject
  else if c = '\x7d' then some closeObject
  else if c = ',' then some comma
  else if c = ':' then some colon
  else none

/-- May the character stand between tokens? -/
def isSpace (c : Char) : Bool := c == ' ' || c == '\t' || c == '\n' || c == '\r'

/-- The words that are values. -/
def words : List (List Char × Json) := [
  ("null".toList, .null), ("true".toList, .bool true), ("false".toList, .bool false),
  ("NaN".toList, .float Number.nan),
  ("Infinity".toList, .float (Number.ofMagnitude false Number.infinityBits)),
  ("-Infinity".toList, .float (Number.ofMagnitude true Number.infinityBits))]

/-- The word at the front of a text: its value, and how many characters follow its first. -/
def word? (cs : List Char) : Option (Json × Nat) :=
  (words.find? fun w ↦ w.1.isPrefixOf cs).map fun w ↦ (w.2, w.1.length - 1)

/-- The tokens of a text. `done` holds the tokens already read, last one first. -/
def scanFrom (done : List Token) : List Char → List Token
  | [] => done.reverse
  | c :: rest =>
    if isSpace c then scanFrom done rest
    else if let some mark := mark? c then scanFrom (mark :: done) rest
    else if c = '"' then
      match h : scanUnits [] rest with
      | some p =>
        have := length_scanUnits h
        scanFrom (scalar (.str (String.ofList (Text.ofUnits p.1))) :: done) p.2
      | none => (broken :: done).reverse
    else
      match word? (c :: rest) with
      | some w =>
        have := List.Sublist.length_le (List.drop_sublist w.2 rest)
        scanFrom (scalar w.1 :: done) (rest.drop w.2)
      | none =>
        if c = '-' then
          match h : scanNumber true rest with
          | some p =>
            have := length_scanNumber h
            scanFrom (scalar p.1 :: done) p.2
          | none => (broken :: done).reverse
        else
          match h : scanNumber false (c :: rest) with
          | some p =>
            have := length_scanNumber h
            scanFrom (scalar p.1 :: done) p.2
          | none => (broken :: done).reverse
termination_by cs => cs.length
decreasing_by all_goals simp only [List.length_cons] at *; omega

/-- The tokens of a text. -/
def scan (cs : List Char) : List Token := scanFrom [] cs

end Token

end FlowCanvas.Json
