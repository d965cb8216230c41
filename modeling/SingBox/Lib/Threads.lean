import Mathlib.Algebra.Order.BigOperators.Group.Finset
import Mathlib.Algebra.Ring.Nat
import Mathlib.Data.Fintype.BigOperators
import SingBox.Lib.Machine
/-!
# Goroutines over shared memory

A configuration is the shared memory and the place of each of `n` goroutines in
its program. One step moves one goroutine; whether it can move may depend on
the places of the others, which is how locks are stated: a goroutine holds the
locks its place says it holds.
-/
namespace Threads
open Finset
variable {σ π α : Type*} {n : Nat}

structure Config (σ π : Type*) (n : Nat) where
  shared : σ
  pc : Fin n → π

/-- Goroutine `i` leaves the memory `r.1` and is at `r.2`. -/
def Config.move (c : Config σ π n) (i : Fin n) (r : σ × π) : Config σ π n := ⟨r.1, Function.update c.pc i r.2⟩

/-- The step function of a machine from what single goroutines can do. -/
def step (act : Config σ π n → Fin n → α → Option (σ × π)) (c : Config σ π n) (e : Fin n × α) :
    Option (Config σ π n) := (act c e.1 e.2).map (c.move e.1)

/-- The goroutine of a configuration that has only one. -/
def alone : Fin 1 := 0

/-- The goroutines of a configuration that has two. -/
def left : Fin 2 := ⟨0, Nat.zero_lt_two⟩
def right : Fin 2 := ⟨1, Nat.one_lt_two⟩

variable {c : Config σ π n} {i : Fin n} {s : σ} {p : π}

@[simp] lemma Config.move_shared (c : Config σ π n) (i : Fin n) (r : σ × π) : (c.move i r).shared = r.1 := rfl

@[simp] lemma Config.move_same (c : Config σ π n) (i : Fin n) (r : σ × π) : (c.move i r).pc i = r.2 :=
  Function.update_self ..

lemma Config.move_other (c : Config σ π n) {i j : Fin n} (h : j ≠ i) (r : σ × π) : (c.move i r).pc j = c.pc j :=
  Function.update_of_ne h ..

lemma step_cases {act : Config σ π n → Fin n → α → Option (σ × π)} {c' : Config σ π n} {e : Fin n × α}
    (h : step act c e = some c') : ∃ s p, act c e.1 e.2 = some (s, p) ∧ c' = c.move e.1 (s, p) := by
  obtain ⟨⟨s, p⟩, hact, rfl⟩ := Option.map_eq_some_iff.1 h
  exact ⟨s, p, hact, rfl⟩

lemma Config.forall_move {Q : π → Prop} (hi : Q p) (h : ∀ j, j ≠ i → Q (c.pc j)) (j : Fin n) :
    Q ((c.move i (s, p)).pc j) := by
  by_cases hj : j = i
  · subst hj
    rwa [c.move_same]
  rw [c.move_other hj]
  exact h j hj

lemma Config.exists_move {Q : π → Prop} (hi : Q (c.pc i) → Q p) (h : ∃ j, Q (c.pc j)) :
    ∃ j, Q ((c.move i (s, p)).pc j) := by
  obtain ⟨j, hj⟩ := h
  by_cases hji : j = i
  · subst hji
    exact ⟨j, by rw [c.move_same]; exact hi hj⟩
  · exact ⟨j, by rw [c.move_other hji]; exact hj⟩

/-- What holds of every two goroutines is kept when it holds of the mover's new place and every other one. -/
lemma Config.pairs_move {M : π → π → Prop} (hsymm : ∀ x y, M x y → M y x)
    (h : ∀ j k, j ≠ k → M (c.pc j) (c.pc k)) (hi : ∀ j, j ≠ i → M p (c.pc j)) :
    ∀ j k, j ≠ k → M ((c.move i (s, p)).pc j) ((c.move i (s, p)).pc k) := by
  intro j k hjk
  by_cases hj : j = i
  · subst hj
    rw [c.move_same, c.move_other hjk.symm]
    exact hi k hjk.symm
  rw [c.move_other hj]
  by_cases hk : k = i
  · subst hk
    rw [c.move_same]
    exact hsymm _ _ (hi j hj)
  · rw [c.move_other hk]
    exact h j k hjk

lemma Config.sum_move {A : Type*} [AddCommMonoid A] (f : π → A) (c : Config σ π n) (i : Fin n) (r : σ × π) :
    ∑ j, f ((c.move i r).pc j) + f (c.pc i) = ∑ j, f (c.pc j) + f r.2 := by
  have hmove : (fun j => f ((c.move i r).pc j)) = Function.update (fun j => f (c.pc j)) i (f r.2) :=
    Function.comp_update f c.pc i r.2
  rw [hmove, sum_update_of_mem (mem_univ i), ← sum_sdiff (subset_univ {i}),
    sum_singleton, add_comm (f r.2), add_assoc, add_assoc, add_comm (f r.2)]

/-- When every other goroutine counts for nothing the sum is what one goroutine counts for. -/
lemma Config.sum_eq {A : Type*} [AddCommMonoid A] {f : π → A} (h : ∀ j, j ≠ i → f (c.pc j) = 0) :
    ∑ j, f (c.pc j) = f (c.pc i) :=
  sum_eq_single i (fun j _ hj => h j hj) fun hi => absurd (mem_univ i) hi

lemma Config.le_sum (f : π → Nat) (c : Config σ π n) (j : Fin n) : f (c.pc j) ≤ ∑ j, f (c.pc j) :=
  single_le_sum (f := fun j => f (c.pc j)) (fun _ _ => Nat.zero_le _) (mem_univ j)

end Threads
