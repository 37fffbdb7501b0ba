import FlowCanvas.Front.Text.Part
import FlowCanvas.Text.Digit

/-!
# Runs of code points

Data about characters comes in runs of neighbouring code points. A table of runs is written as
words between blanks: the first code point, a hyphen and the last one if there are several, and
behind a colon the numbers that the run maps to, with points between them. All numbers are
hexadecimal.

A run means the same numbers for all of its code points, or, where its image is text, one text for
each: the first number counts along with the code point (`CodeRun.advance`).
-/

namespace FlowCanvas.Text

/-- A run of code points and what its first one maps to. -/
structure CodeRun where
  first : Nat
  last : Nat
  image : List Nat
  deriving DecidableEq

namespace CodeRun

/-- The number that hexadecimal digits write. -/
def readHex (cs : List Char) : Nat := cs.foldl (fun n c ↦ 16 * n + (hexDigit? c).getD 0) 0

/-- The run that a word writes. -/
def ofWord (word : List Char) : CodeRun :=
  let parts := cutAt ':' word
  let bounds := (splitOn '-' parts.1).map readHex
  { first := bounds.headD 0
    last := bounds.getLastD 0
    image := ((splitOn '.' parts.2).filter (!·.isEmpty)).map readHex }

/-- The runs that a line of a table writes. -/
def ofLine (line : String) : List CodeRun := (splitOn ' ' line.toList).map ofWord

/-- Does a run hold a code point? -/
def holds (r : CodeRun) (n : Nat) : Bool := decide (r.first ≤ n) && decide (n ≤ r.last)

/-- What a code point in a run maps to, if the first number counts along. -/
def advance (r : CodeRun) (n : Nat) : List Nat :=
  match r.image with
  | [] => []
  | head :: tail => (head + (n - r.first)) :: tail

end CodeRun

/-- Is a code point in a set that is given by the code points at which being in it starts or stops,
in increasing order? -/
def isWithin (bounds : List Nat) (n : Nat) : Bool :=
  (bounds.takeWhile (· ≤ n)).length % 2 == 1

end FlowCanvas.Text
