import FlowCanvas.Front.Json.Token
import FlowCanvas.Table

/-!
# Reading JSON text

`Json.read` reads one value that takes up the whole text and whose containers are nested no deeper
than a limit. What stands first in the text counts: text that is malformed behind a container that
lies too deep is too deep, and not malformed. A name that an object repeats counts with its last
value, at the place of its first. Every reader hands back the tokens it left with a proof that
they are fewer, which is why reading ends.
-/

namespace FlowCanvas.Json

open Token

/-- Why a text cannot be read. -/
inductive Misreading where
  /-- The text is not JSON. -/
  | malformed
  /-- A container lies too deep in others. -/
  | tooDeep (container : Shape)
  deriving DecidableEq

/-- A value read off the front of some tokens, and what is left of them. -/
abbrev Read (α : Type) (ts : List Token) : Type := { p : α × List Token // p.2.length < ts.length }

mutual

/-- One value, in which containers lie at most `room` deep. -/
def readValue (room : Nat) (ts : List Token) : Except Misreading (Read Json ts) :=
  match room, ts with
  | _, scalar v :: rest => .ok ⟨(v, rest), by simp⟩
  | 0, openArray :: _ => .error (.tooDeep .arr)
  | 0, openObject :: _ => .error (.tooDeep .obj)
  | _ + 1, openArray :: closeArray :: rest =>
    .ok ⟨(.arr [], rest), by simp only [List.length_cons]; omega⟩
  | room + 1, openArray :: rest =>
    match readItems room rest with
    | .ok ⟨(vs, after), h⟩ =>
      .ok ⟨(.arr vs, after), by simp only [List.length_cons] at h ⊢; omega⟩
    | .error e => .error e
  | _ + 1, openObject :: closeObject :: rest =>
    .ok ⟨(.obj [], rest), by simp only [List.length_cons]; omega⟩
  | room + 1, openObject :: rest =>
    match readMembers room rest with
    | .ok ⟨(ms, after), h⟩ =>
      .ok ⟨(.obj (Table.ofList ms).entries, after), by simp only [List.length_cons] at h ⊢; omega⟩
    | .error e => .error e
  | _, _ => .error .malformed
termination_by 2 * ts.length

/-- The items of an array after its opening mark. -/
def readItems (room : Nat) (ts : List Token) : Except Misreading (Read (List Json) ts) :=
  match readValue room ts with
  | .ok ⟨(v, comma :: rest), h⟩ =>
    match readItems room rest with
    | .ok ⟨(vs, after), h'⟩ =>
      .ok ⟨(v :: vs, after), by simp only [List.length_cons] at h h' ⊢; omega⟩
    | .error e => .error e
  | .ok ⟨(v, closeArray :: rest), h⟩ =>
    .ok ⟨([v], rest), by simp only [List.length_cons] at h ⊢; omega⟩
  | .ok _ => .error .malformed
  | .error e => .error e
termination_by 2 * ts.length + 1
decreasing_by
  · exact Nat.lt_succ_self _
  · simp only [List.length_cons] at h
    omega

/-- The members of an object after its opening mark. -/
def readMembers (room : Nat) (ts : List Token) :
    Except Misreading (Read (List (String × Json)) ts) :=
  match ts with
  | scalar (.str name) :: colon :: rest =>
    match readValue room rest with
    | .ok ⟨(v, comma :: more), h⟩ =>
      match readMembers room more with
      | .ok ⟨(ms, after), h'⟩ =>
        .ok ⟨((name, v) :: ms, after), by simp only [List.length_cons] at h h' ⊢; omega⟩
      | .error e => .error e
    | .ok ⟨(v, closeObject :: after), h⟩ =>
      .ok ⟨([(name, v)], after), by simp only [List.length_cons] at h ⊢; omega⟩
    | .ok _ => .error .malformed
    | .error e => .error e
  | _ => .error .malformed
termination_by 2 * ts.length + 1
decreasing_by
  · simp only [List.length_cons]
    omega
  · simp only [List.length_cons] at h ⊢
    omega

end

/-- The value that a text writes, with containers nested at most `depth` deep. -/
def read (depth : Nat) (cs : List Char) : Except Misreading Json :=
  match readValue depth (scan cs) with
  | .ok ⟨(v, []), _⟩ => .ok v
  | .ok _ => .error .malformed
  | .error e => .error e

/-- The value that a text writes, if the text is JSON. No text nests deeper than it is long. -/
def read? (s : String) : Option Json := (read s.length s.toList).toOption

end FlowCanvas.Json
