/-!
# Occurrence of one text in another

`occurs` asks whether a text stands inside another: it is the infix relation on the lists of
characters (`occurs_iff`).
-/

namespace FlowCanvas.Text

/-- Does the first list stand inside the second without gaps? -/
def occursIn (needle : List Char) : List Char → Bool
  | [] => needle.isEmpty
  | c :: rest => needle.isPrefixOf (c :: rest) || occursIn needle rest

/-- Does the first text stand inside the second? -/
def occurs (needle hay : String) : Bool := occursIn needle.toList hay.toList

/-- Occurrence is the infix relation on lists. -/
theorem occursIn_iff {needle hay : List Char} : occursIn needle hay = true ↔ needle <:+: hay := by
  induction hay with
  | nil => rw [occursIn, List.isEmpty_iff, List.infix_nil]
  | cons c rest ih =>
    rw [occursIn, Bool.or_eq_true, List.isPrefixOf_iff_prefix, ih, List.infix_cons_iff]

theorem occurs_iff {needle hay : String} :
    occurs needle hay = true ↔ needle.toList <:+: hay.toList :=
  occursIn_iff

/-- Inside a text that is no longer only the text itself can stand. -/
theorem occurs_iff_eq {needle hay : String} (h : hay.length ≤ needle.length) :
    occurs needle hay = true ↔ needle = hay := by
  rw [occurs_iff, ← String.toList_inj]
  constructor
  · intro hin
    refine hin.eq_of_length_le ?_
    rw [String.length_toList, String.length_toList]
    exact h
  · intro heq
    exact heq ▸ List.infix_rfl

end FlowCanvas.Text
