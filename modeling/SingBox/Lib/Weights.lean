import Mathlib.Algebra.Ring.Nat
import Mathlib.Data.List.AList
/-!
# Sums over a finite map

`weigh f m` adds up the weights of the entries of a finite map. A counter that
is kept beside a map is right when it moves with what one entry weighs before
and after.
-/
namespace Weights
open List
variable {κ : Type*} {β : κ → Type*} {f g : Sigma β → Nat}

def weigh (f : Sigma β → Nat) (m : AList β) : Nat := (m.entries.map f).sum
def count (p : Sigma β → Bool) (m : AList β) : Nat := weigh (fun e => (p e).toNat) m

variable {m : AList β} {a : κ}

lemma weigh_congr (h : ∀ e ∈ m.entries, f e = g e) : weigh f m = weigh g m := congrArg sum (map_congr_left h)

def keep (p : Sigma β → Bool) (m : AList β) : AList β :=
  ⟨m.entries.filter p, m.nodupKeys.sublist filter_sublist⟩

lemma length_keep (p : Sigma β → Bool) (m : AList β) :
    (keep p m).entries.length + m.entries.countP (fun e => !p e) = m.entries.length := by
  rw [keep, ← countP_eq_length_filter, length_eq_countP_add_countP p]
  simp only [Bool.not_eq_true, Bool.decide_eq_false]

variable [DecidableEq κ]

lemma lookup_keep {p : Sigma β → Bool} {b : β a} :
    (keep p m).lookup a = some b ↔ m.lookup a = some b ∧ p ⟨a, b⟩ = true := by
  rw [← Option.mem_def, ← Option.mem_def, AList.mem_lookup_iff, AList.mem_lookup_iff]
  exact mem_filter

lemma lookup_of_erase {a' : κ} {b : β a'} (h : (m.erase a).lookup a' = some b) : m.lookup a' = some b := by
  by_cases heq : a' = a
  · subst heq
    rw [AList.lookup_erase] at h
    cases h
  · rwa [AList.lookup_erase_ne heq] at h

lemma length_insert (h : m.lookup a = none) (b : β a) : (m.insert a b).entries.length = m.entries.length + 1 := by
  rw [AList.entries_insert_of_notMem (AList.lookup_eq_none.1 h), length_cons]

lemma length_erase {b : β a} (h : m.lookup a = some b) : (m.erase a).entries.length + 1 = m.entries.length := by
  obtain ⟨b', l₁, l₂, -, heq, hkerase⟩ := exists_of_kerase
    (AList.lookup_isSome.1 (Option.isSome_iff_exists.2 ⟨b, h⟩) : a ∈ m.entries.keys)
  change (kerase a m.entries).length + 1 = _
  rw [hkerase, heq, length_append, length_append, length_cons, Nat.add_assoc]

section
variable (f : Sigma β → Nat)

def weightAt (m : AList β) (a : κ) : Nat := (m.lookup a).elim 0 fun b => f ⟨a, b⟩

lemma sum_kerase (l : List (Sigma β)) (a : κ) :
    ((l.kerase a).map f).sum + ((l.dlookup a).elim 0 fun b => f ⟨a, b⟩) = (l.map f).sum := by
  induction l with
  | nil => rfl
  | cons e l ih =>
    obtain ⟨k, b⟩ := e
    by_cases h : a = k
    · subst h
      have hkerase : kerase a (⟨a, b⟩ :: l) = l := kerase_cons_eq rfl
      rw [hkerase, dlookup_cons_eq, map_cons, sum_cons, Nat.add_comm]
      rfl
    · rw [kerase_cons_ne h, dlookup_cons_ne _ ⟨k, b⟩ h, map_cons, map_cons, sum_cons, sum_cons, Nat.add_assoc, ih]

lemma weigh_erase (m : AList β) (a : κ) :
    weigh f (m.erase a) + weightAt f m a = weigh f m := sum_kerase f m.entries a

lemma weigh_insert (m : AList β) (a : κ) (b : β a) :
    weigh f (m.insert a b) + weightAt f m a = weigh f m + f ⟨a, b⟩ := by
  have hentries : weigh f (m.insert a b) = f ⟨a, b⟩ + weigh f (m.erase a) := rfl
  rw [hentries, ← weigh_erase f m a]
  omega

end

lemma weigh_update (h : ∀ e ∈ m.entries, e.1 ≠ a → f e = g e) :
    weigh g m + weightAt f m a = weigh f m + weightAt g m a := by
  have hrest : weigh f (m.erase a) = weigh g (m.erase a) := by
    refine weigh_congr fun e he => h e ((kerase_sublist a m.entries).subset he) ?_
    have hmem : e.1 ∈ m.erase a := mem_keys_of_mem he
    exact (AList.mem_erase.1 hmem).1
  rw [← weigh_erase f m a, ← weigh_erase g m a, hrest]
  omega

lemma weightAt_le (f : Sigma β → Nat) (m : AList β) (a : κ) : weightAt f m a ≤ weigh f m := by
  rw [← weigh_erase f m a]
  omega

lemma count_insert (p : Sigma β → Bool) (m : AList β) (a : κ) (b : β a) :
    count p (m.insert a b) + ((m.lookup a).elim false fun b' => p ⟨a, b'⟩).toNat = count p m + (p ⟨a, b⟩).toNat := by
  have h := weigh_insert (fun e => (p e).toNat) m a b
  rw [weightAt] at h
  cases hl : m.lookup a <;> rw [hl] at h <;> exact h

end Weights
