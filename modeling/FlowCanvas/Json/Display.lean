import FlowCanvas.Json.Basic
import FlowCanvas.Number.Shortest
import FlowCanvas.Text.Quoted

/-!
# Values in plain text

`Json.plain` is the text that takes a value's place where only text can stand, such as a node's
name: a text is itself, and anything else is `Json.shown`, which quotes the texts inside. Objects
are shown with their members in order.
-/

namespace FlowCanvas.Json

mutual

/-- A value as it is shown, texts quoted. -/
def shown : Json → String
  | null => "None"
  | bool true => "True"
  | bool false => "False"
  | int i => toString i
  | float x => Number.text x
  | str s => Text.quoted s
  | arr items => "[" ++ shownItems items ++ "]"
  | obj members => "\x7b" ++ shownMembers members ++ "\x7d"

/-- Items with commas between them. -/
def shownItems : List Json → String
  | [] => ""
  | [v] => shown v
  | v :: rest => shown v ++ ", " ++ shownItems rest

/-- Members with commas between them. -/
def shownMembers : List (String × Json) → String
  | [] => ""
  | [(name, v)] => Text.quoted name ++ ": " ++ shown v
  | (name, v) :: rest => Text.quoted name ++ ": " ++ shown v ++ ", " ++ shownMembers rest

end

/-- The text that takes a value's place. -/
def plain : Json → String
  | str s => s
  | v => shown v

end FlowCanvas.Json
