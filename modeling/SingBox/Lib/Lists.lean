import Mathlib.Algebra.Ring.Nat
import Mathlib.Data.List.Nodup
import Mathlib.Data.List.Range
import Mathlib.Data.List.ReduceOption
/-!
# Lists

Tests that agree on the members of a list, the order of joined pieces, and what a
fallible function makes of the members.
-/
namespace Lists
open List
variable {α : Type*} {p q : α → Bool} {l : List α}

lemma any_congr_mem (h : ∀ a ∈ l, p a = q a) : l.any p = l.any q := by
  induction l with
  | nil => rfl
  | cons a l ih =>
    obtain ⟨ha, hl⟩ := forall_mem_cons.1 h
    rw [any_cons, any_cons, ha, ih hl]

lemma any_or_any (p q : α → Bool) (l : List α) : (l.any p || l.any q) = l.any fun a => p a || q a := by
  induction l with
  | nil => rfl
  | cons a l ih =>
    rw [any_cons, any_cons, any_cons, ← ih]
    cases p a <;> cases q a <;> cases l.any p <;> rfl

lemma all_congr_mem (h : ∀ a ∈ l, p a = q a) : l.all p = l.all q := by
  induction l with
  | nil => rfl
  | cons a l ih =>
    obtain ⟨ha, hl⟩ := forall_mem_cons.1 h
    rw [all_cons, all_cons, ha, ih hl]

lemma find?_congr_mem (h : ∀ a ∈ l, p a = q a) : l.find? p = l.find? q := by
  induction l with
  | nil => rfl
  | cons a l ih =>
    obtain ⟨ha, hl⟩ := forall_mem_cons.1 h
    rw [find?_cons, find?_cons, ha, ih hl]

lemma countP_set_add {a b : α} {i : Nat} (h : l[i]? = some a) (p : α → Bool) :
    (l.set i b).countP p + (p a).toNat = l.countP p + (p b).toNat := by
  obtain ⟨hi, rfl⟩ := List.getElem?_eq_some_iff.1 h
  have hpos : p l[i] = true → 0 < l.countP p := fun hp => countP_pos_iff.2 ⟨_, getElem_mem hi, hp⟩
  rw [countP_set hi]
  cases ha : p l[i] with
  | false => cases p b <;> simp
  | true =>
    have := hpos ha
    cases p b <;> simp <;> omega

lemma countP_eraseP_add {a : α} (h : l.find? p = some a) (q : α → Bool) :
    (l.eraseP p).countP q + (q a).toNat = l.countP q := by
  induction l with
  | nil => cases h
  | cons b l ih =>
    rw [find?_cons] at h
    cases hb : p b with
    | true =>
      simp only [hb, Option.some.injEq] at h
      subst h
      rw [eraseP_cons_of_pos hb, countP_cons]
      cases q b <;> rfl
    | false =>
      simp only [hb] at h
      rw [eraseP_cons_of_neg (by simp [hb]), countP_cons, countP_cons, ← ih h]
      omega

lemma sum_map_set_add {a b : α} {i : Nat} (h : l[i]? = some a) (f : α → Nat) :
    ((l.set i b).map f).sum + f a = (l.map f).sum + f b := by
  induction l generalizing i with
  | nil => cases h
  | cons c l ih =>
    cases i with
    | zero =>
      obtain rfl : c = a := by simpa using h
      simp only [set_cons_zero, map_cons, sum_cons]
      omega
    | succ i =>
      have := ih (i := i) (by simpa using h)
      simp only [set_cons_succ, map_cons, sum_cons]
      omega

lemma nodup_zipIdx (l : List α) : l.zipIdx.Nodup := by
  apply List.Nodup.of_map Prod.snd
  rw [zipIdx_map_snd]
  exact nodup_range'

/-- Non-empty pieces of a list without repetitions, joined last to first, give the list again only
if there is at most one piece. -/
lemma reverse_flatten_eq_iff {L : List (List α)} (hne : ∀ l ∈ L, l ≠ []) (hd : L.flatten.Nodup) :
    L.reverse.flatten = L.flatten ↔ L.length ≤ 1 := by
  constructor
  · intro h
    rcases L with _ | ⟨a, L⟩
    · simp
    rcases eq_nil_or_concat L with rfl | ⟨M, z, rfl⟩
    · simp
    -- the first element of the last piece would have to be that of the first piece
    exfalso
    obtain ⟨x, a, rfl⟩ := exists_cons_of_ne_nil (hne a (by simp))
    obtain ⟨y, z, rfl⟩ := exists_cons_of_ne_nil (hne z (by simp))
    have hxy : y = x := by
      simp only [concat_eq_append, reverse_cons, reverse_append] at h
      simpa using congrArg head? h
    have hx : x ≠ y := by
      simp only [concat_eq_append, flatten_cons, cons_append, nodup_cons] at hd
      rintro rfl
      exact hd.1 (by simp)
    exact hx hxy.symm
  · intro h
    match L, h with
    | [], _ => rfl
    | [l], _ => rfl

lemma reverse_eq_iff (hd : l.Nodup) : l.reverse = l ↔ l.length ≤ 1 := by
  have h := reverse_flatten_eq_iff (L := l.map ([·])) (by simp +contextual [eq_comm])
    (by rwa [← flatMap_def, flatMap_singleton'])
  rwa [← map_reverse, ← flatMap_def, ← flatMap_def, flatMap_singleton', flatMap_singleton', length_map] at h

/-- The members up to the first one that `p` holds of, with it. -/
def upTo (p : α → Bool) : List α → List α
  | [] => []
  | a :: l => a :: if p a then [] else upTo p l

lemma upTo_subset (p : α → Bool) (l : List α) : upTo p l ⊆ l := by
  induction l with
  | nil => exact fun _ h => h
  | cons a l ih =>
    rw [upTo]
    split
    · simp
    · exact cons_subset_cons a ih

lemma upTo_map {β : Type*} (f : β → α) (p : α → Bool) (l : List β) : upTo p (l.map f) = (upTo (p ∘ f) l).map f := by
  induction l with
  | nil => rfl
  | cons b l ih =>
    rw [map_cons, upTo, upTo, map_cons, ih]
    cases h : p (f b) <;> simp [h]

lemma mem_upTo {before after : List α} {a : α} (h : ∀ b ∈ before, p b = false) : a ∈ upTo p (before ++ a :: after) := by
  induction before with
  | nil => exact mem_cons_self
  | cons b before ih =>
    obtain ⟨hb, h⟩ := forall_mem_cons.1 h
    rw [cons_append, upTo, hb]
    exact mem_cons_of_mem _ (ih h)

section
variable {ε β : Type*} {f : α → Except ε β}

lemma mapM_ok {bs : List β} (h : l.mapM f = .ok bs) : Forall₂ (fun a b => f a = .ok b) l bs := by
  induction l generalizing bs with
  | nil =>
    cases h
    exact .nil
  | cons a l ih =>
    rw [mapM_cons] at h
    cases ha : f a with
    | error e => simp [ha, bind, Except.bind] at h
    | ok b =>
      cases hl : l.mapM f with
      | error e => simp [ha, hl, bind, Except.bind] at h
      | ok bs =>
        simp only [ha, hl, bind, Except.bind, pure, Except.pure, Except.ok.injEq] at h
        subst h
        exact .cons ha (ih hl)

lemma mapM_ok_mem {bs : List β} (h : l.mapM f = .ok bs) {a : α} (ha : a ∈ l) : ∃ b, f a = .ok b := by
  replace h := mapM_ok h
  induction h with
  | nil => cases ha
  | cons hb _ ih =>
    rcases mem_cons.1 ha with rfl | ha
    · exact ⟨_, hb⟩
    · exact ih ha

lemma mapM_error {e : ε} (h : l.mapM f = .error e) : ∃ a ∈ l, f a = .error e := by
  induction l with
  | nil => cases h
  | cons a l ih =>
    rw [mapM_cons] at h
    cases ha : f a with
    | error e' =>
      simp only [ha, bind, Except.bind, Except.error.injEq] at h
      exact ⟨a, mem_cons_self, h ▸ ha⟩
    | ok b =>
      cases hl : l.mapM f with
      | ok bs => simp [ha, hl, bind, Except.bind, pure, Except.pure] at h
      | error e' =>
        simp only [ha, hl, bind, Except.bind, Except.error.injEq] at h
        subst h
        obtain ⟨a', hmem, ha'⟩ := ih hl
        exact ⟨a', mem_cons_of_mem _ hmem, ha'⟩

end

end Lists
