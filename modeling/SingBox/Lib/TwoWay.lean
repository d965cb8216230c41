import Mathlib.Data.List.Nodup
/-!
# Two-way tables behind a write buffer

A table keeps for every place the name that owns it, and for every name its place. Assignments are collected in a buffer; while one buffer is being
written to the table, the next one already collects. A reader looks through
the layers, newest first, and a name whose place was given away is hidden by a
tombstone in the buffer.

`Layers.Inv` is what every operation keeps and what makes the two directions
agree for a reader (`Layers.Inv.agree`).
-/
namespace TwoWay
open Function

/-- A stored two-way map. -/
structure Table (κ ι : Type*) where
  owner : κ → Option ι
  place : ι → Option κ

/-- Assignments not yet written; `some none` in `place` is a tombstone. -/
structure Buffer (κ ι : Type*) where
  owner : κ → Option ι
  place : ι → Option (Option κ)

variable {κ ι : Type*} [DecidableEq κ] [DecidableEq ι]
open Buffer List

/-! ## The table -/

namespace Table

def Sound (t : Table κ ι) : Prop := ∀ i a, t.place i = some a → t.owner a = some i

/-- Give place `a` to name `i`; the previous owner loses it. -/
def put (t : Table κ ι) (a : κ) (i : ι) : Table κ ι where
  owner := update t.owner a (some i)
  place j := if j = i then some a else if t.owner a = some j ∧ t.place j = some a then none else t.place j

def puts (t : Table κ ι) (l : List (κ × ι)) : Table κ ι := l.foldl (fun t e => t.put e.1 e.2) t

variable {t : Table κ ι}

lemma put_place_cases (ht : t.Sound) {a b : κ} {i j : ι}
    (h : (t.put a i).place j = some b) : (b = a ∧ j = i) ∨ (b ≠ a ∧ t.place j = some b) := by
  simp only [put] at h
  split at h
  · rename_i hji
    exact .inl ⟨(Option.some.inj h).symm, hji⟩
  split at h
  · cases h
  rename_i hdel
  refine .inr ⟨?_, h⟩
  -- the owner of `a` would have been taken out
  rintro rfl
  exact hdel ⟨ht _ _ h, h⟩

lemma Sound.put (ht : t.Sound) (a : κ) (i : ι) : (t.put a i).Sound := by
  intro j b h
  rcases put_place_cases ht h with ⟨rfl, rfl⟩ | ⟨hne, h⟩
  · exact update_self ..
  rw [show (t.put a i).owner b = t.owner b from update_of_ne hne ..]
  exact ht _ _ h

lemma Sound.puts (ht : t.Sound) (l : List (κ × ι)) : (t.puts l).Sound := by
  induction l generalizing t with
  | nil => exact ht
  | cons e l ih => exact ih (ht.put _ _)

/-- Where a name's place comes from after a batch of writes: one of them, or an
old entry whose place none of them took. -/
lemma puts_place_cases (ht : t.Sound) {l : List (κ × ι)} {a : κ} {i : ι}
    (h : (t.puts l).place i = some a) : (a, i) ∈ l ∨ (a ∉ l.map Prod.fst ∧ t.place i = some a) := by
  induction l generalizing t with
  | nil => exact .inr ⟨by simp, h⟩
  | cons e l ih =>
    rcases ih (ht.put _ _) h with hl | ⟨hl, hp⟩
    · exact .inl (mem_cons_of_mem _ hl)
    rcases put_place_cases ht hp with ⟨rfl, rfl⟩ | ⟨hne, hp⟩
    · exact .inl mem_cons_self
    · exact .inr ⟨by simpa using ⟨hne, by simpa using hl⟩, hp⟩

end Table

/-! ## Buffers -/

namespace Buffer

def empty : Buffer κ ι := ⟨fun _ => none, fun _ => none⟩

structure WF (b : Buffer κ ι) : Prop where
  placed : ∀ {i a}, b.place i = some (some a) → b.owner a = some i
  owned : ∀ {a i}, b.owner a = some i → b.place i ≠ none

omit [DecidableEq κ] [DecidableEq ι] in
lemma WF.empty : (empty : Buffer κ ι).WF := ⟨nofun, nofun⟩

/-- Give place `a` to name `i`, `old` being the owner a reader saw before; `r`
is what a reader finds as the place of `i`. -/
def assign (b : Buffer κ ι) (old : Option ι) (a : κ) (i : ι) (r : Option κ) : Buffer κ ι where
  owner := update b.owner a (some i)
  place := update (fun j => if old = some j then some none else b.place j) i (some r)

variable {a : κ} {b : Buffer κ ι} {r : Option κ}

lemma assign_owner_of_ne (b : Buffer κ ι) (old : Option ι) {x : κ} (h : x ≠ a) (i : ι) (r : Option κ) :
    (b.assign old a i r).owner x = b.owner x := update_of_ne h ..

lemma assign_place_ne_none {j : ι} (h : b.place j ≠ none) (old : Option ι) (a : κ) (i : ι)
    (r : Option κ) : (b.assign old a i r).place j ≠ none := by
  by_cases hj : j = i <;> by_cases ho : old = some j <;> simp [assign, hj, ho, h]

lemma WF.assign (hb : b.WF) {old : Option ι}
    (hold : ∀ i, b.owner a = some i → old = some i) (i : ι) (hr : r = some a ∨ r = none) :
    (b.assign old a i r).WF where
  placed := by
    intro j x h
    by_cases hj : j = i
    · subst hj
      rcases hr with rfl | rfl <;> simp [Buffer.assign] at h
      subst h
      simp [Buffer.assign]
    simp only [Buffer.assign, update_of_ne hj] at h
    split at h
    · cases h
    rename_i hne
    have hx := hb.placed h
    -- `a` itself cannot be the place of `j`: its owner was hidden
    have hxa : x ≠ a := by rintro rfl; exact hne (hold _ hx)
    rw [assign_owner_of_ne _ _ hxa, hx]
  owned := by
    intro x j h
    by_cases hx : x = a
    · subst hx
      obtain rfl : i = j := by simpa [Buffer.assign] using h
      simp [Buffer.assign]
    · rw [assign_owner_of_ne _ _ hx] at h
      exact assign_place_ne_none (hb.owned h) _ _ _ _

/-- Take an entry of a failed write back, unless the buffer already knows the
place or what it finds under `probe`. -/
def takeBack (b : Buffer κ ι) (a : κ) (i probe : ι) (r : Option κ) : Buffer κ ι :=
  if b.owner a = none ∧ b.place probe = none then
    ⟨update b.owner a (some i), update b.place i (some r)⟩
  else b

lemma takeBack_place_ne_none {j : ι} (h : b.place j ≠ none) (a : κ) (i probe : ι)
    (r : Option κ) : (b.takeBack a i probe r).place j ≠ none := by
  unfold takeBack
  split
  · by_cases hj : j = i <;> simp [hj, h]
  · exact h

lemma takeBack_owner_cases {x : κ} {i probe : ι}
    (h : (b.takeBack a i probe r).owner x ≠ none) : b.owner x ≠ none ∨ x = a := by
  by_cases hx : x = a
  · exact .inr hx
  refine .inl ?_
  unfold takeBack at h
  split at h
  · simpa [hx] using h
  · exact h

lemma WF.takeBack (hb : b.WF) {i probe : ι}
    (hr : (r = some a ∧ probe = i) ∨ r = none) : (b.takeBack a i probe r).WF := by
  unfold Buffer.takeBack
  split
  · rename_i hfree
    constructor
    · intro j x h
      by_cases hj : j = i
      · subst hj
        rcases hr with ⟨rfl, -⟩ | rfl <;> simp at h
        subst h
        exact update_self ..
      · have hx := hb.placed (show b.place j = some (some x) by simpa [hj] using h)
        have hxa : x ≠ a := by rintro rfl; simp [hfree.1] at hx
        simpa [hxa] using hx
    · intro x j h
      by_cases hx : x = a
      · subst hx
        obtain rfl : i = j := by simpa using h
        simp
      · have hp := hb.owned (show b.owner x = some j by simpa [hx] using h)
        by_cases hj : j = i <;> simp [hj, hp]
  · exact hb

section Restore

/-! `seen a` is what a reader finds as the place once `a` is taken back: `a`, or
nothing when `a` is no usable place. -/

variable (probe : κ → ι → ι) (seen : κ → Option κ)

def restore (b : Buffer κ ι) (l : List (κ × ι)) : Buffer κ ι :=
  l.foldl (fun b e => b.takeBack e.1 e.2 (probe e.1 e.2) (seen e.1)) b

variable {probe seen}
variable {b : Buffer κ ι} {l : List (κ × ι)}

lemma restore_place_ne_none {j : ι} (h : b.place j ≠ none) (l : List (κ × ι)) :
    (b.restore probe seen l).place j ≠ none := by
  induction l generalizing b with
  | nil => exact h
  | cons e l ih => exact ih (takeBack_place_ne_none h _ _ _ _)

lemma restore_owner_cases {x : κ}
    (h : (b.restore probe seen l).owner x ≠ none) : b.owner x ≠ none ∨ x ∈ l.map Prod.fst := by
  induction l generalizing b with
  | nil => exact .inl h
  | cons e l ih =>
    rcases ih h with h | h
    · rcases takeBack_owner_cases h with h | rfl
      · exact .inl h
      · exact .inr mem_cons_self
    · exact .inr (mem_cons_of_mem _ h)

lemma WF.restore (hb : b.WF) (hr : ∀ e ∈ l, (seen e.1 = some e.1 ∧ probe e.1 e.2 = e.2) ∨ seen e.1 = none) :
    (b.restore probe seen l).WF := by
  induction l generalizing b with
  | nil => exact hb
  | cons e l ih =>
    exact ih (hb.takeBack (hr e mem_cons_self)) fun e' he' => hr e' (mem_cons_of_mem _ he')

/-- The name of an entry taken back is known afterwards, unless the place had
been given away in the meantime. -/
lemma restore_mem {i : ι} (hl : (l.map Prod.fst).Nodup)
    (h : (a, i) ∈ l) (hp : probe a i = i) : (b.restore probe seen l).place i ≠ none ∨ b.owner a ≠ none := by
  induction l generalizing b with
  | nil => cases h
  | cons e l ih =>
    rw [map_cons, nodup_cons] at hl
    rcases mem_cons.1 h with rfl | h
    · by_cases hfree : b.owner a = none
      · refine .inl (restore_place_ne_none (?_ : (b.takeBack a i (probe a i) (seen a)).place i ≠ none) l)
        rw [hp, takeBack]
        split <;> simp_all
      · exact .inr hfree
    rcases ih hl.2 h with h' | h'
    · exact .inl h'
    rcases takeBack_owner_cases h' with h' | rfl
    · exact .inr h'
    · exact absurd (mem_map_of_mem h) hl.1

end Restore
end Buffer

/-! ## Layers -/

/-- The buffer that collects, the buffer being written (empty when none is) and
the table. -/
structure Layers (κ ι : Type*) where
  pending : Buffer κ ι
  writing : Buffer κ ι
  table : Table κ ι

namespace Layers

def ownerOf (s : Layers κ ι) (a : κ) : Option ι :=
  (s.pending.owner a).or ((s.writing.owner a).or (s.table.owner a))

def placeOf (s : Layers κ ι) (i : ι) : Option κ :=
  ((s.pending.place i).or (s.writing.place i)).getD (s.table.place i)

/-- Below the collecting buffer, `i` is the name that may come to hold `a`: the
write under way gives it `a`, or leaves the table's entry alone. -/
def Beneath (s : Layers κ ι) (a : κ) (i : ι) : Prop :=
  s.writing.owner a = some i ∨ (s.writing.owner a = none ∧ s.table.place i = some a)

/-- Each buffer knows every name that held, further down, a place it gives away. -/
structure Inv (s : Layers κ ι) : Prop where
  sound : s.table.Sound
  pendingWF : s.pending.WF
  writingWF : s.writing.WF
  writingHides : ∀ {a i}, s.writing.owner a ≠ none → s.table.place i = some a → s.writing.place i ≠ none
  pendingHides : ∀ {a i}, s.pending.owner a ≠ none → s.Beneath a i → s.pending.place i ≠ none

/-- The table already holds what the buffer being written says. -/
def Written (s : Layers κ ι) : Prop :=
  ∀ a i, s.table.place i = some a → s.writing.owner a = none ∨ s.writing.owner a = some i

/-- No name hidden by a tombstone of the buffer being written would be found in
the table if that buffer were dropped. -/
def TombstonesKept (s : Layers κ ι) : Prop :=
  ∀ i, s.writing.place i = some none → s.pending.place i = none → s.table.place i = none

variable {s : Layers κ ι}

omit [DecidableEq κ] [DecidableEq ι] in
lemma Beneath.ownerOf (hs : s.Inv) {a : κ} {i : ι} (hp : s.pending.owner a = none)
    (h : s.Beneath a i) : s.ownerOf a = some i := by
  rcases h with h | ⟨hw, h⟩
  · simp [Layers.ownerOf, hp, h]
  · simp [Layers.ownerOf, hp, hw, hs.sound _ _ h]

omit [DecidableEq κ] [DecidableEq ι] in
lemma Inv.agree (hs : s.Inv) {i : ι} {a : κ} (h : s.placeOf i = some a) : s.ownerOf a = some i := by
  rcases hp : s.pending.place i with _ | r
  · have hb : s.Beneath a i := by
      rcases hw : s.writing.place i with _ | r
      · have ht : s.table.place i = some a := by simpa [placeOf, hp, hw] using h
        refine .inr ⟨?_, ht⟩
        by_contra hne
        exact hs.writingHides hne ht hw
      · obtain rfl : r = some a := by simpa [placeOf, hp, hw] using h
        exact .inl (hs.writingWF.placed hw)
    refine hb.ownerOf hs ?_
    by_contra hne
    exact hs.pendingHides hne hb hp
  · obtain rfl : r = some a := by simpa [placeOf, hp] using h
    simp [ownerOf, hs.pendingWF.placed hp]

omit [DecidableEq κ] [DecidableEq ι] in
lemma Inv.ofTable {t : Table κ ι} (ht : t.Sound) : (⟨.empty, .empty, t⟩ : Layers κ ι).Inv :=
  ⟨ht, .empty, .empty, fun h => absurd rfl h, fun h => absurd rfl h⟩

lemma Inv.assign (hs : s.Inv) (a : κ) (i : ι) {r : Option κ} (hr : r = some a ∨ r = none) :
    ({ s with pending := s.pending.assign (s.ownerOf a) a i r } : Layers κ ι).Inv where
  __ := hs
  pendingWF := hs.pendingWF.assign (fun j h => by simp [ownerOf, h]) i hr
  pendingHides := by
    intro x j hx hb
    by_cases hne : s.pending.owner x = none
    · obtain rfl : x = a := by
        by_contra hxa
        exact hx (by rw [Buffer.assign_owner_of_ne _ _ hxa, hne])
      have ho : s.ownerOf x = some j := Beneath.ownerOf hs hne hb
      by_cases hj : j = i <;> simp [Buffer.assign, hj, ho]
    · exact Buffer.assign_place_ne_none (hs.pendingHides hne hb) _ _ _ _

omit [DecidableEq κ] [DecidableEq ι] in
lemma Inv.begin (hs : s.Inv) (hw : s.writing = .empty) : (⟨.empty, s.pending, s.table⟩ : Layers κ ι).Inv :=
  ⟨hs.sound, .empty, hs.pendingWF, fun h ht => hs.pendingHides h (.inr ⟨by rw [hw]; rfl, ht⟩),
    fun h => absurd rfl h⟩

/-! ## The end of a write -/

variable {l : List (κ × ι)}

section
variable (hs : s.Inv) (hl : ∀ a i, (a, i) ∈ l ↔ s.writing.owner a = some i)
include hs hl

lemma Inv.commit : ({ s with table := s.table.puts l } : Layers κ ι).Inv := by
  have hnone : ∀ {a}, a ∉ l.map Prod.fst → s.writing.owner a = none := by
    intro a ha
    by_contra hne
    obtain ⟨i, hi⟩ := Option.ne_none_iff_exists'.1 hne
    exact ha (mem_map.2 ⟨_, (hl _ _).2 hi, rfl⟩)
  refine ⟨hs.sound.puts l, hs.pendingWF, hs.writingWF, ?_, ?_⟩
  · intro a i hne ht
    rcases Table.puts_place_cases hs.sound ht with hm | ⟨-, ht⟩
    · exact hs.writingWF.owned ((hl _ _).1 hm)
    · exact hs.writingHides hne ht
  rintro a i hne (hw | ⟨hw, ht⟩)
  · exact hs.pendingHides hne (.inl hw)
  rcases Table.puts_place_cases hs.sound ht with hm | ⟨-, ht⟩
  · exact hs.pendingHides hne (.inl ((hl _ _).1 hm))
  · exact hs.pendingHides hne (.inr ⟨hw, ht⟩)

lemma Inv.commit_written : ({ s with table := s.table.puts l } : Layers κ ι).Written := by
  intro a i ht
  rcases Table.puts_place_cases hs.sound ht with hm | ⟨hm, -⟩
  · exact .inr ((hl _ _).1 hm)
  refine .inl ?_
  by_contra hne
  obtain ⟨j, hj⟩ := Option.ne_none_iff_exists'.1 hne
  exact hm (mem_map.2 ⟨_, (hl _ _).2 hj, rfl⟩)

end

omit [DecidableEq κ] [DecidableEq ι] in
lemma Inv.finish (hs : s.Inv) (hw : s.Written) : (⟨s.pending, .empty, s.table⟩ : Layers κ ι).Inv := by
  refine ⟨hs.sound, hs.pendingWF, .empty, fun h => absurd rfl h, ?_⟩
  rintro a i hne (h | ⟨-, ht⟩)
  · cases h
  rcases hw a i ht with hn | hn
  · exact hs.pendingHides hne (.inr ⟨hn, ht⟩)
  · exact hs.pendingHides hne (.inl hn)

/-- The write failed: its entries are taken back. Its tombstones are not, so
none may be needed. -/
lemma Inv.restore (hs : s.Inv) (hkept : s.TombstonesKept)
    (hl : ∀ a i, (a, i) ∈ l ↔ s.writing.owner a = some i) (hnd : (l.map Prod.fst).Nodup)
    {probe : κ → ι → ι} {seen : κ → Option κ}
    (hr : ∀ e ∈ l, (seen e.1 = some e.1 ∧ probe e.1 e.2 = e.2) ∨ seen e.1 = none)
    (hseen : ∀ {i a}, s.writing.place i = some (some a) → seen a = some a) :
    (⟨s.pending.restore probe seen l, .empty, s.table⟩ : Layers κ ι).Inv := by
  refine ⟨hs.sound, hs.pendingWF.restore hr, .empty, fun h => absurd rfl h, ?_⟩
  rintro a i hne (h | ⟨-, ht⟩)
  · cases h
  by_contra hnone
  have hp : s.pending.place i = none := by
    by_contra h
    exact restore_place_ne_none h l hnone
  have hw : s.writing.place i = none := by
    rcases hw : s.writing.place i with _ | _ | x
    · rfl
    · exact absurd (hkept i hw hp) (by simp [show s.table.place i = some a from ht])
    have hx := hs.writingWF.placed hw
    have hprobe : probe x i = i := by
      rcases hr _ ((hl _ _).2 hx) with h | h
      · exact h.2
      · simp [hseen hw] at h
    rcases restore_mem hnd ((hl _ _).2 hx) hprobe with h | h
    · exact absurd hnone h
    · exact absurd hp (hs.pendingHides h (.inl hx))
  have hwa : s.writing.owner a = none := by
    by_contra h
    exact hs.writingHides h ht hw
  rcases restore_owner_cases hne with h | h
  · exact hs.pendingHides h (.inr ⟨hwa, ht⟩) hp
  obtain ⟨⟨x, j⟩, hm, rfl⟩ := mem_map.1 h
  simp [(hl _ _).1 hm] at hwa

end Layers
end TwoWay
