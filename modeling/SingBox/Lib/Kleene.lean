import Mathlib.Data.List.Basic
/-!
# Three-valued verdicts

Strong Kleene logic: a verdict given before all the facts are known. `Below t u`
says that the verdict `t` is right about the verdict `u` found later; the
connectives keep it.
-/
namespace Kleene

inductive Truth where
  | no | unsure | yes
  deriving DecidableEq

namespace Truth
variable {s t u v : Truth}

/-- The verdict `t` is right as far as it goes: it says `u`, or nothing. -/
def Below (t u : Truth) : Prop := t = unsure ∨ t = u

def not : Truth → Truth
  | no => yes
  | unsure => unsure
  | yes => no

def and : Truth → Truth → Truth
  | no, _ | _, no => no
  | yes, yes => yes
  | _, _ => unsure

def or : Truth → Truth → Truth
  | yes, _ | _, yes => yes
  | no, no => no
  | _, _ => unsure

def all : List Truth → Truth := List.foldr and yes
def any : List Truth → Truth := List.foldr or no

@[simp] lemma all_nil : all [] = yes := rfl
@[simp] lemma all_cons (t : Truth) (ts : List Truth) : all (t :: ts) = t.and (all ts) := rfl
@[simp] lemma any_nil : any [] = no := rfl
@[simp] lemma any_cons (t : Truth) (ts : List Truth) : any (t :: ts) = t.or (any ts) := rfl

section
variable (t : Truth)

@[simp] lemma yes_and : yes.and t = t := by cases t <;> rfl
@[simp] lemma and_yes : t.and yes = t := by cases t <;> rfl
@[simp] lemma no_and : no.and t = no := by cases t <;> rfl
@[simp] lemma and_no : t.and no = no := by cases t <;> rfl
@[simp] lemma no_or : no.or t = t := by cases t <;> rfl
@[simp] lemma or_no : t.or no = t := by cases t <;> rfl
@[simp] lemma yes_or : yes.or t = yes := by cases t <;> rfl
@[simp] lemma or_yes : t.or yes = yes := by cases t <;> rfl

lemma unsure_and : unsure.and t = if t = no then no else unsure := by cases t <;> rfl
lemma and_unsure : t.and unsure = if t = no then no else unsure := by cases t <;> rfl
lemma unsure_or : unsure.or t = if t = yes then yes else unsure := by cases t <;> rfl
lemma or_unsure : t.or unsure = if t = yes then yes else unsure := by cases t <;> rfl

lemma and_assoc (s t u : Truth) : (s.and t).and u = s.and (t.and u) := by
  cases s <;> cases t <;> cases u <;> rfl

lemma or_assoc (s t u : Truth) : (s.or t).or u = s.or (t.or u) := by
  cases s <;> cases t <;> cases u <;> rfl

lemma or_eq_no {t : Truth} : s.or t = no ↔ s = no ∧ t = no := by
  cases s <;> cases t <;> simp [or]

lemma any_eq_no {ts : List Truth} : any ts = no ↔ ∀ t ∈ ts, t = no := by
  induction ts with
  | nil => simp
  | cons t ts ih => simp [or_eq_no, ih]

def ofBool (b : Bool) : Truth := if b then yes else no

lemma ofBool_ne_no {b : Bool} : ofBool b ≠ no ↔ b = true := by cases b <;> simp [ofBool]
lemma ofBool_and (a b : Bool) : (ofBool a).and (ofBool b) = ofBool (a && b) := by cases a <;> cases b <;> rfl
lemma ofBool_or (a b : Bool) : (ofBool a).or (ofBool b) = ofBool (a || b) := by cases a <;> cases b <;> rfl

/-! ## The information order -/

lemma Below.refl : t.Below t := .inr rfl

end

lemma Below.ne_no (h : t.Below u) (hu : u ≠ no) : t ≠ no := by
  rcases h with rfl | rfl
  · simp
  · exact hu

lemma Below.not (h : t.Below u) : t.not.Below u.not := by
  rcases h with rfl | rfl
  · exact .inl rfl
  · exact .refl _

lemma Below.and (hs : s.Below u) (ht : t.Below v) : (s.and t).Below (u.and v) := by
  rcases hs with rfl | rfl <;> rcases ht with rfl | rfl
  · exact .inl rfl
  · cases t <;> simp [Below, Truth.unsure_and]
  · cases s <;> simp [Below, Truth.and_unsure]
  · exact .refl _

lemma Below.or (hs : s.Below u) (ht : t.Below v) : (s.or t).Below (u.or v) := by
  rcases hs with rfl | rfl <;> rcases ht with rfl | rfl
  · exact .inl rfl
  · cases t <;> simp [Below, Truth.unsure_or]
  · cases s <;> simp [Below, Truth.or_unsure]
  · exact .refl _

variable {α : Type*} {f g : α → Truth} {l : List α}

/-- A conjunction is settled by its first `no`: what comes after need not be approximated. -/
lemma Below.all (h : ∀ before x after, l = before ++ x :: after → (∀ b ∈ before, f b ≠ .no) → (f x).Below (g x)) :
    (Truth.all (l.map f)).Below (Truth.all (l.map g)) := by
  induction l with
  | nil => exact .refl _
  | cons x l ih =>
    have hx := h [] x l rfl (by simp)
    by_cases hno : f x = .no
    · have hg : g x = .no := by simpa [Below, hno, eq_comm] using hx
      simp [hno, hg, Below.refl]
    refine hx.and (ih fun before y after hl hb => h (x :: before) y after (by rw [hl]; rfl) ?_)
    exact List.forall_mem_cons.2 ⟨hno, hb⟩

lemma Below.any (h : ∀ before x after, l = before ++ x :: after → (∀ b ∈ before, f b ≠ .yes) → (f x).Below (g x)) :
    (Truth.any (l.map f)).Below (Truth.any (l.map g)) := by
  induction l with
  | nil => exact .refl _
  | cons x l ih =>
    have hx := h [] x l rfl (by simp)
    by_cases hyes : f x = .yes
    · have hg : g x = .yes := by simpa [Below, hyes, eq_comm] using hx
      simp [hyes, hg, Below.refl]
    refine hx.or (ih fun before y after hl hb => h (x :: before) y after (by rw [hl]; rfl) ?_)
    exact List.forall_mem_cons.2 ⟨hyes, hb⟩

end Truth
end Kleene
