import Mathlib.Algebra.BigOperators.Group.List.Basic
import Mathlib.Algebra.Ring.Nat
import Mathlib.Data.List.Infix

/-!
# Braces in a text

`Text.Opens k cs` says of some characters that they close no brace before one is open, and that `k`
braces are open at their end. What is put together of such pieces is again of this kind, with as many
open braces as the pieces have together (`Opens.append`, `Opens.flatMap`, `Opens.intercalate`), in
whatever order they come. So a text can be put together of pieces that leave braces open, and closing
what is open once at the very end makes it balanced (`Opens.close`).

`Text.LeaveOpen k texts` says the same of texts that are not yet put together. It does not look at
their order (`LeaveOpen.perm`).
-/

namespace FlowCanvas.Text

/-- No brace stands in the text. -/
def IsPlain (s : String) : Prop := '\x7b' ∉ s.toList ∧ '\x7d' ∉ s.toList

instance : DecidablePred IsPlain := fun s ↦
  inferInstanceAs (Decidable ('\x7b' ∉ s.toList ∧ '\x7d' ∉ s.toList))

/-- How many braces the text opens more than it closes. -/
def unclosed (s : String) : Nat := s.toList.count '\x7b' - s.toList.count '\x7d'

/-- The characters close no brace before one is open, and `k` braces are open at their end. -/
structure Opens (k : Nat) (cs : List Char) : Prop where
  rises : ∀ p q, cs = p ++ q → p.count '\x7d' ≤ p.count '\x7b'
  left : cs.count '\x7b' = cs.count '\x7d' + k

theorem opens_iff {k : Nat} {cs : List Char} : Opens k cs ↔
    (∀ p ∈ cs.inits, p.count '\x7d' ≤ p.count '\x7b') ∧
      cs.count '\x7b' = cs.count '\x7d' + k := by
  constructor
  · intro h
    refine ⟨fun p hp ↦ ?_, h.left⟩
    obtain ⟨q, hq⟩ := List.mem_inits p cs |>.1 hp
    exact h.rises p q hq.symm
  · rintro ⟨hrises, hleft⟩
    exact ⟨fun p q hsplit ↦ hrises p ((List.mem_inits p cs).2 ⟨q, hsplit.symm⟩), hleft⟩

instance (k : Nat) (cs : List Char) : Decidable (Opens k cs) := decidable_of_iff _ opens_iff.symm

/-- No text closes a brace before one is open, and together they leave `k` braces open. -/
structure LeaveOpen (k : Nat) (texts : List String) : Prop where
  each : ∀ t ∈ texts, Opens (unclosed t) t.toList
  total : (texts.map unclosed).sum = k

@[simp] theorem isPlain_append {s t : String} : IsPlain (s ++ t) ↔ IsPlain s ∧ IsPlain t := by
  simp only [IsPlain, String.toList_append, List.mem_append, not_or]
  tauto

theorem isPlain_intercalate {separator : String} {texts : List String}
    (hseparator : IsPlain separator) (h : ∀ t ∈ texts, IsPlain t) :
    IsPlain (separator.intercalate texts) := by
  rw [IsPlain, String.toList_intercalate]
  induction texts with
  | nil => exact ⟨List.not_mem_nil, List.not_mem_nil⟩
  | cons s rest ih =>
    have hs := h s List.mem_cons_self
    have hrest := ih fun t ht ↦ h t (List.mem_cons_of_mem s ht)
    cases rest with
    | nil =>
      rw [List.map_singleton, List.intercalate_singleton]
      exact hs
    | cons t rest =>
      rw [List.map_cons, List.map_cons, List.intercalate_cons_cons]
      simp only [List.mem_append, not_or]
      exact ⟨⟨⟨hs.1, hseparator.1⟩, hrest.1⟩, ⟨hs.2, hseparator.2⟩, hrest.2⟩

theorem isPlain_getD {o : Option String} {s : String} (ho : ∀ t, o = some t → IsPlain t)
    (hs : IsPlain s) : IsPlain (o.getD s) := by
  cases o with
  | none => exact hs
  | some t => exact ho t rfl

/-! ### Pieces -/

theorem Opens.append {j k : Nat} {as bs : List Char} (ha : Opens j as) (hb : Opens k bs) :
    Opens (j + k) (as ++ bs) where
  rises := by
    intro p q h
    have hleft := ha.left
    rcases List.append_eq_append_iff.1 h with ⟨more, rfl, hmore⟩ | ⟨more, hmore, -⟩
    · -- the cut is in the second piece
      have hrises := hb.rises more q hmore
      rw [List.count_append, List.count_append]
      omega
    · exact ha.rises p more hmore
  left := by
    rw [List.count_append, List.count_append, ha.left, hb.left]
    omega

theorem opens_of_not_mem {cs : List Char} (ho : '\x7b' ∉ cs) (hc : '\x7d' ∉ cs) : Opens 0 cs where
  rises := fun p q h ↦ by
    rw [List.count_eq_zero_of_not_mem fun hp ↦ hc (h ▸ List.mem_append_left q hp)]
    exact Nat.zero_le _
  left := by rw [List.count_eq_zero_of_not_mem ho, List.count_eq_zero_of_not_mem hc]

theorem IsPlain.opens {s : String} (h : IsPlain s) : Opens 0 s.toList := opens_of_not_mem h.1 h.2

theorem opens_nil : Opens 0 [] := opens_of_not_mem List.not_mem_nil List.not_mem_nil

theorem Opens.flatMap {α : Type} {weight : α → Nat} {text : α → List Char} {xs : List α}
    (h : ∀ x ∈ xs, Opens (weight x) (text x)) : Opens (xs.map weight).sum (xs.flatMap text) := by
  induction xs with
  | nil => exact opens_nil
  | cons x rest ih =>
    rw [List.map_cons, List.sum_cons, List.flatMap_cons]
    exact (h x List.mem_cons_self).append (ih fun y hy ↦ h y (List.mem_cons_of_mem x hy))

theorem Opens.intercalate {α : Type} {weight : α → Nat} {text : α → List Char} {xs : List α}
    {separator : List Char} (hseparator : Opens 0 separator)
    (h : ∀ x ∈ xs, Opens (weight x) (text x)) :
    Opens (xs.map weight).sum (separator.intercalate (xs.map text)) := by
  induction xs with
  | nil => exact opens_nil
  | cons x rest ih =>
    have hx := h x List.mem_cons_self
    have hrest := ih fun y hy ↦ h y (List.mem_cons_of_mem x hy)
    cases rest with
    | nil =>
      rw [List.map_singleton, List.map_singleton, List.intercalate_singleton, List.sum_singleton]
      exact hx
    | cons y rest =>
      show Opens _ (separator.intercalate (text x :: text y :: rest.map text))
      rw [List.intercalate_cons_cons, List.map_cons, List.sum_cons]
      exact (hx.append hseparator).append hrest

/-- **Closing what is open** makes a text balanced. -/
theorem Opens.close {k : Nat} {as bs : List Char} (h : Opens k as) (hopen : '\x7b' ∉ bs)
    (hclose : bs.count '\x7d' = k) : Opens 0 (as ++ bs) where
  rises := by
    intro p q hsplit
    rcases List.append_eq_append_iff.1 hsplit with ⟨more, rfl, hmore⟩ | ⟨more, hmore, -⟩
    · -- what is closed by then is not more than what is closed in the end
      have hleft := h.left
      rw [hmore, List.count_append] at hclose
      rw [List.count_append, List.count_append]
      omega
    · exact h.rises p more hmore
  left := by
    rw [List.count_append, List.count_append, h.left, hclose, List.count_eq_zero_of_not_mem hopen]

/-! ### Texts in any order -/

theorem Opens.unclosed_eq {k : Nat} {s : String} (h : Opens k s.toList) : unclosed s = k := by
  have hleft := h.left
  rw [unclosed]
  omega

theorem leaveOpen_nil : LeaveOpen 0 [] := ⟨nofun, rfl⟩

theorem leaveOpen_singleton {k : Nat} {s : String} (h : Opens k s.toList) : LeaveOpen k [s] where
  each := by
    intro t ht
    rw [List.mem_singleton.1 ht, h.unclosed_eq]
    exact h
  total := by rw [List.map_singleton, List.sum_singleton, h.unclosed_eq]

theorem LeaveOpen.append {j k : Nat} {as bs : List String} (ha : LeaveOpen j as)
    (hb : LeaveOpen k bs) : LeaveOpen (j + k) (as ++ bs) where
  each := fun t ht ↦ (List.mem_append.1 ht).elim (ha.each t) (hb.each t)
  total := by rw [List.map_append, List.sum_append, ha.total, hb.total]

theorem LeaveOpen.perm {k : Nat} {as bs : List String} (h : LeaveOpen k as) (hperm : as.Perm bs) :
    LeaveOpen k bs where
  each := fun t ht ↦ h.each t (hperm.mem_iff.2 ht)
  total := (hperm.map unclosed).sum_eq.symm.trans h.total

end FlowCanvas.Text
