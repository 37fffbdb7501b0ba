import FlowCanvas.Front.Obstacle
import FlowCanvas.Front.Text.Part
import FlowCanvas.Number.Reading

/-!
# Numbers of hosts

A host may be given by its number in brackets: eight groups of hexadecimal digits with colons
between them, of which one row of zeros may be left out, and the last two of which may be written as
four decimal numbers. A zone may follow behind a percent sign. Later notations start with a letter
and a version.
-/

namespace FlowCanvas.Front.Host

/-- Is this a number below 256 without needless zeros? -/
def isOctet (cs : List Char) : Bool :=
  !cs.isEmpty && cs.all Number.isDigit && decide (cs.length ≤ 3) &&
    (cs == ['0'] || cs.head? != some '0') && decide (Number.ofDigits cs ≤ 255)

/-- Are these four decimal numbers with points between them? -/
def isDotted (cs : List Char) : Bool :=
  let octets := Text.splitOn '.' cs
  octets.length == 4 && octets.all isOctet

/-- Is the character a hexadecimal digit? -/
def isHexDigit (c : Char) : Bool := (Text.hexDigit? c).isSome

/-- Are these one to four hexadecimal digits? -/
def isGroup (cs : List Char) : Bool :=
  !cs.isEmpty && cs.all isHexDigit && decide (cs.length ≤ 4)

/-- The groups of a host's number, where the last two may be four decimal numbers. -/
def groups (cs : List Char) : List (List Char) :=
  let parts := Text.splitOn ':' cs
  if isDotted (parts.getLastD []) then parts.dropLast ++ [['0'], ['0']] else parts

/-- Are these eight groups, or fewer with one gap in place of the others? A gap at either end is
written by two empty groups. -/
def areGroups (parts : List (List Char)) : Bool :=
  match (parts.drop 1).dropLast.idxOf? [] with
  | none => parts.length == 8 && parts.all isGroup
  | some i =>
    let front := parts.take (i + 1)
    let back := parts.drop (i + 2)
    let front := if front == [[]] then [] else front
    let back := if back == [[]] then [] else back
    decide (front.length + back.length ≤ 7) && front.all isGroup && back.all isGroup

/-- Is this the number of a host in groups, perhaps with a zone? -/
def isGrouped (cs : List Char) : Bool :=
  let parts := Text.cutAt '%' cs
  (!cs.contains '%' || (!parts.2.isEmpty && !parts.2.contains '%')) &&
    decide (3 ≤ (Text.splitOn ':' parts.1).length) && areGroups (groups parts.1)

/-- Is this a number in a later notation: a letter, the version, a point, and anything? -/
def isLater (cs : List Char) : Bool :=
  let version := (cs.drop 1).takeWhile isHexDigit
  !version.isEmpty &&
    match cs.drop (1 + version.length) with
    | '.' :: _ :: _ => true
    | _ => false

/-- What is wrong with a number between brackets. -/
def literalFault? (cs : List Char) : Option Obstacle :=
  if cs.head? = some 'v' then if isLater cs then none else some .unreadableLaterNumber
  else if isDotted cs then some .bracketedDotted
  else if isGrouped cs then none
  else some (.notHostNumber (String.ofList cs))

end FlowCanvas.Front.Host
