import FlowCanvas.Front.Host.Punycode
import FlowCanvas.Front.Host.Script
import FlowCanvas.Front.Obstacle
import FlowCanvas.Front.Text.Composition
import FlowCanvas.Front.Text.Folding
import FlowCanvas.Text.Case
import FlowCanvas.Text.Occurrence

/-!
# Names of hosts

The name of a host consists of labels between full stops. In ASCII it stands for itself. A label
with other characters is prepared, so that spellings that look alike become the same, and encoded in
ASCII behind a prefix (`encodeName`). Decoding a name accepts only labels that encoding gives back
(`decodeName`).
-/

namespace FlowCanvas.Front.Host

/-- The length that no label reaches. -/
def labelLimit : Nat := 64

/-- What stands in front of an encoded label. -/
def labelPrefix : List Char := "xn--".toList

/-- Is the code point in ASCII? -/
def isPlain (n : Nat) : Bool := decide (n < 0x80)

/-! ### Labels -/

/-- The form of a label in which letter case and compatible characters make no difference. -/
def prepared (label : List Nat) : Except LabelFault (List Nat) :=
  let text := Text.composed (label.flatMap Text.fold)
  match text.find? isProhibited with
  | some n => .error (.prohibited n)
  | none =>
    if text.any isRightToLeft then
      if text.any isLeftToRight then .error .mixedDirections
      else if text.head?.any isRightToLeft && text.getLast?.any isRightToLeft then .ok text
      else .error .looseEnd
    else .ok text

/-- A label of a length that labels may have. -/
def measured (label : List Char) : Except LabelFault (List Char) :=
  if label.isEmpty || decide (labelLimit ≤ label.length) then .error .emptyOrLong else .ok label

/-- A label in ASCII. -/
def encodeLabel (label : List Nat) : Except LabelFault (List Char) :=
  if label.all isPlain then measured (label.map Char.ofNat)
  else do
    let text ← prepared label
    if text.all isPlain then measured (text.map Char.ofNat)
    else if labelPrefix.isPrefixOf (text.map Char.ofNat) then .error .prefixed
    else measured (labelPrefix ++ Punycode.encode text)

/-- The code points of a label in ASCII. -/
def decodeLabel (label : List Char) : Except Obstacle (List Nat) :=
  if labelPrefix.isPrefixOf label then do
    let text ← (Punycode.decode (label.drop labelPrefix.length)).mapError .unreadableLabel
    let encoded ← (encodeLabel text).mapError .unreadableLabel
    if encoded = label then .ok text
    else .error (.unstableLabel (String.ofList label) (String.ofList encoded))
  else .ok (label.map Char.toNat)

/-! ### Names -/

/-- Is the character a full stop? Some scripts have their own. -/
def isStop (c : Char) : Bool := c = '.' || c = '\u3002' || c = '\uFF0E' || c = '\uFF61'

/-- The labels of a name, and whether a full stop ends it. -/
def labels (name : List Char) : List (List Char) × Bool :=
  let parts := Text.splitOn '.' (name.map fun c ↦ if isStop c then '.' else c)
  if (parts.getLastD []).isEmpty then (parts.dropLast, true) else (parts, false)

/-- The name that labels make. -/
def joined (labels : List (List Char)) (isEnded : Bool) : List Char :=
  ['.'].intercalate labels ++ (if isEnded then ['.'] else [])

/-- What is wrong with the labels of a name in ASCII. The last one may be empty. -/
def plainFault? (name : List Char) : Option LabelFault :=
  let parts := Text.splitOn '.' name
  if parts.dropLast.any fun l ↦ l.isEmpty || decide (labelLimit ≤ l.length) then some .emptyOrLong
  else if labelLimit ≤ (parts.getLastD []).length then some .long
  else none

/-- A name in ASCII. -/
def encodeName (name : List Char) : Except LabelFault (List Char) :=
  if name.all fun c ↦ isPlain c.toNat then
    match plainFault? name with
    | some f => .error f
    | none => .ok name
  else do
    let parts := labels name
    return joined (← parts.1.mapM fun l ↦ encodeLabel (l.map Char.toNat)) parts.2

/-- The name that a name in ASCII encodes. A name without any encoded label is not looked at. -/
def decodeName (name : List Char) : Except Obstacle (List Char) :=
  if Text.occursIn labelPrefix name then do
    let parts := labels name
    let texts ← parts.1.mapM decodeLabel
    return joined (texts.map fun text ↦ text.map Char.ofNat) parts.2
  else .ok name

end FlowCanvas.Front.Host
