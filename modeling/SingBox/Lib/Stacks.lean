import SingBox.Lib.Threads
/-!
# Goroutines with a stack of instructions

The place of a goroutine is the list of what it still has to do, the next
instruction first. An instruction changes the shared memory and is replaced by
the instructions it calls. What is said of the pending instructions of all
goroutines is either said of each of them, or of a total over them.
-/
namespace Threads
open List
variable {σ ι α : Type*} {n : Nat}

/-- Goroutine `i` executes its next instruction. -/
def call (exec : Config σ (List ι) n → ι → α → Option (σ × List ι)) (c : Config σ (List ι) n) (i : Fin n) (x : α) :
    Option (σ × List ι) :=
  match c.pc i with
  | [] => none
  | a :: rest => (exec c a x).map fun r => (r.1, r.2 ++ rest)

lemma call_cases {exec : Config σ (List ι) n → ι → α → Option (σ × List ι)} {c : Config σ (List ι) n} {i : Fin n}
    {x : α} {s : σ} {l : List ι} (h : call exec c i x = some (s, l)) :
    ∃ a rest pushed, c.pc i = a :: rest ∧ exec c a x = some (s, pushed) ∧ l = pushed ++ rest := by
  rw [call] at h
  split at h
  · cases h
  next a rest hi =>
    obtain ⟨⟨s', pushed⟩, hexec, heq⟩ := Option.map_eq_some_iff.1 h
    cases heq
    exact ⟨a, rest, pushed, hi, hexec, rfl⟩

namespace Config

/-- `Q` holds of every pending instruction. -/
def All (Q : ι → Prop) (c : Config σ (List ι) n) : Prop := ∀ j, ∀ a ∈ c.pc j, Q a

/-- `Q` holds of some pending instruction. -/
def Any (Q : ι → Prop) (c : Config σ (List ι) n) : Prop := ∃ j, ∃ a ∈ c.pc j, Q a
def total (f : ι → Nat) (c : Config σ (List ι) n) : Nat := ∑ j, ((c.pc j).map f).sum

variable {c : Config σ (List ι) n} {i : Fin n} {s : σ} {a : ι} {rest pushed : List ι}

lemma All.move {Q R : ι → Prop} (h : c.All Q) (hi : c.pc i = a :: rest) (hkeep : ∀ b, Q b → R b)
    (hpushed : ∀ b ∈ pushed, R b) : (c.move i (s, pushed ++ rest)).All R := by
  refine forall_move (Q := fun l => ∀ b ∈ l, R b) ?_ fun j _ b hb => hkeep b (h j b hb)
  intro b hb
  obtain hb | hb := mem_append.1 hb
  · exact hpushed b hb
  · exact hkeep b (h i b (hi ▸ mem_cons_of_mem a hb))

lemma All.start {Q R : ι → Prop} (h : c.All Q) (hkeep : ∀ b, Q b → R b) (hpushed : ∀ b ∈ pushed, R b) :
    (c.move i (s, pushed)).All R :=
  forall_move (Q := fun l => ∀ b ∈ l, R b) hpushed fun j _ b hb => hkeep b (h j b hb)

section
variable {Q : ι → Prop}

lemma All.head (h : c.All Q) (hi : c.pc i = a :: rest) : Q a := h i a (hi ▸ mem_cons_self)

lemma any_pushed {b : ι} (hb : b ∈ pushed) (hQ : Q b) : (c.move i (s, pushed ++ rest)).Any Q :=
  ⟨i, b, by rw [move_same]; exact mem_append_left rest hb, hQ⟩

lemma Any.move (h : c.Any Q) (hi : c.pc i = a :: rest) : Q a ∨ (c.move i (s, pushed ++ rest)).Any Q := by
  obtain ⟨j, b, hb, hQ⟩ := h
  by_cases hj : j = i
  · subst hj
    rw [hi] at hb
    obtain rfl | hb := mem_cons.1 hb
    · exact .inl hQ
    · exact .inr ⟨j, b, by rw [move_same]; exact mem_append_right pushed hb, hQ⟩
  · exact .inr ⟨j, b, by rwa [c.move_other hj], hQ⟩

lemma Any.start (h : c.Any Q) (hi : c.pc i = []) : (c.move i (s, pushed)).Any Q := by
  obtain ⟨j, b, hb, hQ⟩ := h
  have hj : j ≠ i := by
    rintro rfl
    rw [hi] at hb
    cases hb
  exact ⟨j, b, by rwa [c.move_other hj], hQ⟩

end

section
variable (f : ι → Nat)

lemma total_move (s : σ) (pushed : List ι) (hi : c.pc i = a :: rest) :
    (c.move i (s, pushed ++ rest)).total f + f a = c.total f + (pushed.map f).sum := by
  have h := c.sum_move (fun l : List ι => (l.map f).sum) i (s, pushed ++ rest)
  simp only [hi, map_append, sum_append, map_cons, sum_cons] at h
  simp only [total]
  omega

lemma total_start (s : σ) (pushed : List ι) (hi : c.pc i = []) :
    (c.move i (s, pushed)).total f = c.total f + (pushed.map f).sum := by
  have h := c.sum_move (fun l : List ι => (l.map f).sum) i (s, pushed)
  simpa [hi, total] using h

lemma le_total (j : Fin n) (ha : a ∈ c.pc j) : f a ≤ c.total f :=
  Nat.le_trans (single_le_sum (fun _ _ => Nat.zero_le _) _ (mem_map_of_mem ha))
    (c.le_sum (fun l : List ι => (l.map f).sum) j)

lemma total_head (hi : c.pc i = a :: rest) : f a ≤ c.total f := le_total f i (hi ▸ mem_cons_self)

end

lemma total_eq_zero {f : ι → Nat} : c.total f = 0 ↔ c.All fun a => f a = 0 := by
  constructor
  · intro h j a ha
    have := le_total f j ha
    omega
  intro h
  refine Finset.sum_eq_zero fun j _ => sum_eq_zero fun x hx => ?_
  obtain ⟨a, ha, rfl⟩ := mem_map.1 hx
  exact h j a ha

section
variable (p : ι → Bool)

def count (c : Config σ (List ι) n) : Nat := c.total fun a => (p a).toNat

lemma sum_toNat (l : List ι) : (l.map fun a => (p a).toNat).sum = l.countP p := by
  induction l with
  | nil => rfl
  | cons a l ih =>
    rw [map_cons, sum_cons, ih, countP_cons]
    cases p a <;> simp [Nat.add_comm]

lemma count_move (s : σ) (pushed : List ι) (hi : c.pc i = a :: rest) :
    (c.move i (s, pushed ++ rest)).count p + (p a).toNat = c.count p + pushed.countP p := by
  rw [count, count, ← sum_toNat]
  exact total_move _ s pushed hi

lemma count_start (s : σ) (pushed : List ι) (hi : c.pc i = []) :
    (c.move i (s, pushed)).count p = c.count p + pushed.countP p := by
  rw [count, count, ← sum_toNat]
  exact total_start _ s pushed hi

end

lemma count_eq_zero {p : ι → Bool} : c.count p = 0 ↔ c.All fun a => p a = false := by
  rw [count, total_eq_zero]
  simp only [Bool.toNat_eq_zero]

lemma count_head {p : ι → Bool} (hi : c.pc i = a :: rest) (ha : p a = true) : 0 < c.count p := by
  have := total_head (fun a => (p a).toNat) hi
  rw [ha] at this
  exact this

end Config
end Threads
