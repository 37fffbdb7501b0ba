import FlowCanvas.Table

/-!
# Scopes

Scopes form a tree: each has bindings of its own and, except for the first, a parent. A name has
the type of its nearest enclosing binding, and none where no enclosing scope binds it.

Two shape decisions keep the walk towards the root a plain recursion on a list:

* scopes are kept newest first and numbered by age, so the scopes older than a given one, among
  them its parent, are exactly the rest of the list behind it;
* a scope is declared into where it stands, so a declaration is seen from every scope nested in it,
  also from those opened before.
-/

namespace FlowCanvas

/-- A scope: what it binds, and where it is nested. -/
structure Scope where
  /-- The types of the names bound here. -/
  bindings : Table String String
  /-- The scope around it. -/
  parent : Option Nat
  deriving Inhabited

/-- The scopes of a program, the newest first: the number of a scope is how many are older. -/
structure ScopeTree where
  scopes : List Scope
  deriving Inhabited

namespace ScopeTree

/-- A single scope without bindings. -/
def root : ScopeTree := ⟨[⟨.empty, none⟩]⟩

/-- How many scopes there are. -/
def size (t : ScopeTree) : Nat := t.scopes.length

/-- Opens a scope inside another; answers its number. -/
def child (t : ScopeTree) (parent : Nat) : ScopeTree × Nat :=
  (⟨⟨.empty, some parent⟩ :: t.scopes⟩, t.size)

/-- Binds a name in a scope. -/
def declareIn (scope : Nat) (name type : String) : List Scope → List Scope
  | [] => []
  | s :: older =>
    if older.length = scope then { s with bindings := s.bindings.insert name type } :: older
    else s :: declareIn scope name type older

/-- Binds a name in a scope. -/
def declare (t : ScopeTree) (scope : Nat) (name type : String) : ScopeTree :=
  ⟨declareIn scope name type t.scopes⟩

/-- The type of a name as seen from a scope. -/
def lookupIn (name : String) (scope : Nat) : List Scope → Option String
  | [] => none
  | s :: older =>
    if older.length = scope then
      match s.bindings.find? name with
      | some type => some type
      | none =>
        match s.parent with
        | some p => lookupIn name p older
        | none => none
    else lookupIn name scope older

/-- The type of the nearest enclosing binding of a name. -/
def lookup (t : ScopeTree) (scope : Nat) (name : String) : Option String :=
  lookupIn name scope t.scopes

@[simp] theorem size_child (t : ScopeTree) (parent : Nat) :
    (t.child parent).1.size = t.size + 1 := rfl

@[simp] theorem length_declareIn (scope : Nat) (name type : String) (ss : List Scope) :
    (declareIn scope name type ss).length = ss.length := by
  induction ss with
  | nil => rfl
  | cons s older ih =>
    unfold declareIn
    split
    · rfl
    · simp [ih]

@[simp] theorem size_declare (t : ScopeTree) (scope : Nat) (name type : String) :
    (t.declare scope name type).size = t.size := length_declareIn scope name type t.scopes

end ScopeTree

end FlowCanvas
