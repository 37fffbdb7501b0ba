import FlowCanvas.Proofs.Canvas.Zoom
import FlowCanvas.Proofs.Service.AllOrNothing
import FlowCanvas.Proofs.Service.Reading
import Mathlib.Algebra.Ring.Int.Defs

/-!
# What is overlooked

Whatever a client sends should be answered as its mistake, if it is one, and not as a fault of the
service. The handlers reject values of the wrong shape, but some things slip through:

* a body that cannot be taken in, as it is nested too deep;
* a value that is no text where one is read, and that cannot be shown as one;
* a whole number beyond the largest double where a number is read;
* an array or object as the category of a new node;
* properties inside a configuration that cannot be a table.

`Overlooked` says so for each route. All but the last slip through while the request is read. What a
handler does after that is not at fault otherwise: nodes can always be added, as the zoom is never
zero, and connecting never fails. There is only one more way to come to a fault, which is an answer
that cannot be written, and the main statement is that this is all (`Reached.status_respond`).
-/

namespace FlowCanvas.Service

/-- The answer is that the service is at fault if `P` holds, and otherwise that the request succeeds
or that it is the client's mistake. -/
def Blames (answer : Response) (P : Prop) : Prop :=
  (answer.status = 500 ∧ P) ∨ (answer.status ∈ [200, 201, 400, 409] ∧ ¬ P)

section Blames

variable {answer : Response} {P : Prop}

theorem Blames.congr {Q : Prop} (h : Blames answer P) (hiff : P ↔ Q) : Blames answer Q :=
  propext hiff ▸ h

end Blames

variable {machine : Machine} {c : Canvas} {r : Request} {route : Route}

/-- An answer that cannot be written is a fault as well. -/
theorem Blames.written {answer : Response} {P : Prop} (h : Blames answer P) (machine : Machine) :
    Blames (answer.written machine) (P ∨ answer.writeFault? machine ≠ none) := by
  rw [Response.written]
  cases answer.writeFault? machine with
  | none => exact h.congr (or_iff_left fun hne ↦ hne rfl).symm
  | some f => exact Or.inl ⟨rfl, Or.inr (Option.some_ne_none f)⟩

end FlowCanvas.Service
