/-!
# Parts of text

Cutting a text into parts: at every separator (`splitOn`), or at the first one only (`cutAt`).
-/

namespace FlowCanvas.Text

/-- Cuts a text at every separator. -/
def splitOn (separator : Char) : List Char → List (List Char)
  | [] => [[]]
  | c :: rest =>
    if c = separator then [] :: splitOn separator rest
    else match splitOn separator rest with
      | [] => [[c]]
      | part :: parts => (c :: part) :: parts

/-- Cuts a text at its first separator, which is left out. -/
def cutAt (separator : Char) (cs : List Char) : List Char × List Char :=
  (cs.takeWhile (· ≠ separator), (cs.dropWhile (· ≠ separator)).drop 1)

/-- Cuts a text at its last separator, which is left out. Without one, the text is the second
part. -/
def cutAtLast (separator : Char) (cs : List Char) : List Char × List Char :=
  let parts := splitOn separator cs
  ([separator].intercalate parts.dropLast, parts.getLastD [])

end FlowCanvas.Text
