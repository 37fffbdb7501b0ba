import FlowCanvas.Text.Quoted

/-!
# Faults of labels

What can be wrong with a label of a host's name, when it is encoded or decoded, and the wording of
each cause.
-/

namespace FlowCanvas.Front.Host

/-- Why a label cannot be encoded or decoded. -/
inductive LabelFault where
  /-- The label is empty, or has too many characters. -/
  | emptyOrLong
  /-- The last label of a plain name has too many characters. -/
  | long
  /-- A code point that no name may hold. -/
  | prohibited (n : Nat)
  /-- Letters of both directions. -/
  | mixedDirections
  /-- A label that is written from right to left has something else at an end. -/
  | looseEnd
  /-- A label with characters beyond ASCII looks as if it were encoded already. -/
  | prefixed
  /-- An encoded number breaks off. -/
  | cutShort
  /-- A character that is no digit of an encoded number. -/
  | notDigit (c : Char)
  /-- An encoded number beyond the last code point. -/
  | beyondLast (n : Nat)
  deriving DecidableEq

/-- A code point between quotation marks. Surrogates are escaped. -/
def quotedCode (n : Nat) : String :=
  if 0xD800 ≤ n ∧ n < 0xE000 then "'\\u" ++ Text.hex 4 n ++ "'"
  else Text.quoted (String.singleton (Char.ofNat n))

/-- The wording of a fault in the numbers of an encoded label. -/
def LabelFault.undecodable (text : String) : String :=
  "decoding with 'punycode' codec failed (UnicodeError: " ++ text ++ ")"

/-- The wording of a label's fault. -/
def LabelFault.message : LabelFault → String
  | emptyOrLong => "label empty or too long"
  | long => "label too long"
  | prohibited n => "Invalid character " ++ quotedCode n
  | mixedDirections => "Violation of BIDI requirement 2"
  | looseEnd => "Violation of BIDI requirement 3"
  | prefixed => "Label starts with ACE prefix"
  | cutShort => undecodable "incomplete punicode string"
  | notDigit c => undecodable ("Invalid extended code point '" ++ String.singleton c ++ "'")
  | beyondLast n => undecodable ("Invalid character U+" ++ Text.hex 0 n)

end FlowCanvas.Front.Host
