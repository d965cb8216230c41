import Mathlib.Algebra.BigOperators.Group.List.Basic
import Mathlib.Algebra.Order.Group.Int
import Mathlib.Algebra.Ring.Int.Defs
import Mathlib.Data.List.AList
/-!
# Sums over the entries of a finite map

How the sum of a weight over all entries changes when one entry is written or
removed, and what a loop over the entries takes off a running sum.
-/
namespace Tally
open List

universe u v

variable {α : Type u} [DecidableEq α] {β : α → Type v} {f : Sigma β → ℤ}

def total (f : Sigma β → ℤ) (m : AList β) : ℤ := (m.entries.map f).sum

def weight (f : Sigma β → ℤ) (m : AList β) (a : α) : ℤ := match m.lookup a with
  | some b => f ⟨a, b⟩
  | none => 0

@[simp] lemma total_empty : total f ∅ = 0 := rfl

lemma sum_kerase {l : List (Sigma β)} (hl : l.NodupKeys) (a : α) :
    ((l.kerase a).map f).sum = (l.map f).sum - match l.dlookup a with
      | some b => f ⟨a, b⟩
      | none => 0 := by
  induction l with
  | nil => simp
  | cons s l ih =>
    obtain ⟨hnot, hl⟩ := nodupKeys_cons.1 hl
    by_cases h : a = s.1
    · subst h
      rw [kerase_cons_eq rfl, dlookup_cons_eq, map_cons, sum_cons]
      exact (add_sub_cancel_left _ _).symm
    · rw [kerase_cons_ne h, dlookup_cons_ne _ _ h, map_cons, map_cons, sum_cons, sum_cons, ih hl, add_sub_assoc]

lemma total_erase (m : AList β) (a : α) : total f (m.erase a) = total f m - weight f m a := sum_kerase m.nodupKeys a

lemma total_insert (m : AList β) (a : α) (b : β a) :
    total f (m.insert a b) = total f m + f ⟨a, b⟩ - weight f m a := by
  have herase := sum_kerase (f := f) m.nodupKeys a
  rw [total, AList.entries_insert, map_cons, sum_cons, herase]
  exact (add_sub_assoc' ..).trans (by rw [add_comm]; rfl)

lemma total_insert_of_lookup_none {m : AList β} {a : α} (h : m.lookup a = none) (b : β a) :
    total f (m.insert a b) = total f m + f ⟨a, b⟩ := by
  rw [total_insert, weight, h, sub_zero]

omit [DecidableEq α] in
lemma foldl_sub (l : List (Sigma β)) (n : ℤ) : l.foldl (fun n e => n - f e) n = n - (l.map f).sum := by
  induction l generalizing n with
  | nil => simp
  | cons e l ih => rw [foldl_cons, ih, map_cons, sum_cons, sub_sub]

end Tally
