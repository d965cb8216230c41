import Mathlib.Data.List.Nodup
import Mathlib.Data.List.Perm.Subperm
/-!
# Depth-first ordering

Keys are put in an order in which each comes after those it depends on. A key
that it depends on may be outside, which is looked up when it is met; a cycle
is an error. `path` holds the keys whose visit is under way.
-/
namespace DepthFirst
open List
variable {κ ε : Type*}

/-- What a search goes by: the keys that a key depends on, whether a key is inside (or the error of
meeting it), the error of a cycle, and the one of running out of depth. -/
structure Graph (κ ε : Type*) where
  edges : κ → List κ
  inside : κ → Except ε Bool
  circular : κ → ε
  exhausted : ε

namespace Graph
variable (g : Graph κ ε)

def meet (visit : κ → List κ → Except ε (List κ)) (done : List κ) (k : κ) : Except ε (List κ) :=
  match g.inside k with
  | .error e => .error e
  | .ok false => .ok done
  | .ok true => visit k done

variable [DecidableEq κ]

/-- The visit of a key, at most `depth` deep, when the keys of `done` have been visited. -/
def visit : Nat → List κ → κ → List κ → Except ε (List κ)
  | 0, _, _, _ => .error g.exhausted
  | depth + 1, path, k, done =>
    if k ∈ done then .ok done
    else if k ∈ path then .error (g.circular k)
    else do
      let done ← (g.edges k).foldlM (g.meet (visit depth (k :: path))) done
      return done ++ [k]

def order (depth : Nat) (keys : List κ) : Except ε (List κ) := keys.foldlM (fun done k => g.visit depth [] k done) []

end Graph

/-! ## Folds that may fail -/

section Folds
variable {α β : Type*} {f : β → α → Except ε β} {l : List α}

lemma foldlM_cons_ok {a : α} {b c : β} (h : (a :: l).foldlM f b = .ok c) :
    ∃ b', f b a = .ok b' ∧ l.foldlM f b' = .ok c := by
  rw [foldlM_cons] at h
  cases hb : f b a with
  | error e => rw [hb] at h; cases h
  | ok b' => exact ⟨b', rfl, by rw [hb] at h; exact h⟩

lemma foldlM_inv {I : β → Prop} {b c : β} (hf : ∀ a ∈ l, ∀ b b', I b → f b a = .ok b' → I b')
    (hb : I b) (h : l.foldlM f b = .ok c) : I c := by
  induction l generalizing b with
  | nil => exact Except.ok.inj h ▸ hb
  | cons a l ih =>
    obtain ⟨b', hb', hrest⟩ := foldlM_cons_ok h
    exact ih (fun x hx => hf x (mem_cons_of_mem _ hx)) (hf a mem_cons_self b b' hb hb') hrest

lemma foldlM_error {b : β} {e : ε} (h : l.foldlM f b = .error e) :
    ∃ a ∈ l, ∃ b', f b' a = .error e := by
  induction l generalizing b with
  | nil => cases h
  | cons a l ih =>
    rw [foldlM_cons] at h
    cases hb : f b a with
    | error e' =>
      rw [hb] at h
      exact ⟨a, mem_cons_self, b, hb.trans h⟩
    | ok b' =>
      rw [hb] at h
      obtain ⟨a', ha', hf⟩ := ih h
      exact ⟨a', mem_cons_of_mem _ ha', hf⟩

end Folds

/-! ## The order -/

section Order
variable {g : Graph κ ε} {path done done' done'' keys : List κ} {k : κ} {depth : Nat}

def Settled (g : Graph κ ε) (done : List κ) (k : κ) : Prop := k ∈ done ∨ g.inside k = .ok false

/-- Each key is there once and after those it depends on. -/
structure Sorted (g : Graph κ ε) (done : List κ) : Prop where
  nodup : done.Nodup
  after : ∀ before k behind, done = before ++ k :: behind → ∀ d ∈ g.edges k, Settled g before d

/-- What a visit does to the order: it appends keys, and none of the path. -/
structure Grown (path done done' : List κ) : Prop where
  appended : done <+: done'
  fresh : ∀ x ∈ done', x ∈ done ∨ x ∉ path

lemma Settled.mono (h : Settled g done k) (hp : done <+: done') : Settled g done' k := h.imp_left (hp.subset ·)
lemma Grown.refl (path done : List κ) : Grown path done done := ⟨prefix_rfl, fun _ hx => .inl hx⟩

lemma Grown.trans (h : Grown path done done') (h' : Grown path done' done'') : Grown path done done'' where
  appended := h.appended.trans h'.appended
  fresh x hx := (h'.fresh x hx).elim (h.fresh x) .inr

lemma Sorted.nil : Sorted g [] := ⟨nodup_nil, fun _ _ _ h => by simp at h⟩

lemma Sorted.append (h : Sorted g done) (hk : k ∉ done) (hd : ∀ d ∈ g.edges k, Settled g done d) :
    Sorted g (done ++ [k]) where
  nodup := nodup_append.2 ⟨h.nodup, nodup_singleton k, fun x hx y hy => by
    rw [mem_singleton.1 hy]
    exact fun heq => hk (heq ▸ hx)⟩
  after before x behind heq d hx := by
    rcases eq_nil_or_concat' behind with rfl | ⟨behind, y, rfl⟩
    · obtain ⟨rfl, hxk⟩ := append_inj' heq rfl
      obtain rfl : k = x := by simpa using hxk
      exact hd d hx
    · rw [← cons_append, ← append_assoc] at heq
      exact h.after before x behind (append_inj' heq rfl).1 d hx

lemma meet_ok {visit : κ → List κ → Except ε (List κ)} (h : g.meet visit done k = .ok done') :
    g.inside k = .ok false ∧ done = done' ∨ g.inside k = .ok true ∧ visit k done = .ok done' := by
  unfold Graph.meet at h
  split at h
  · cases h
  next hin => exact .inl ⟨hin, Except.ok.inj h⟩
  next hin => exact .inr ⟨hin, h⟩

lemma foldlM_visit {f : List κ → κ → Except ε (List κ)} (hf : ∀ d done done', Sorted g done → f done d = .ok done' →
      Sorted g done' ∧ Grown path done done' ∧ Settled g done' d) :
    ∀ (ds done done' : List κ), Sorted g done → ds.foldlM f done = .ok done' →
      Sorted g done' ∧ Grown path done done' ∧ ∀ d ∈ ds, Settled g done' d := by
  intro ds
  induction ds with
  | nil =>
    intro done done' hs h
    cases h
    exact ⟨hs, .refl path done, fun d hd => by cases hd⟩
  | cons d ds ih =>
    intro done done' hs h
    obtain ⟨mid, hmid, hrest⟩ := foldlM_cons_ok h
    obtain ⟨hs₁, hg₁, hd₁⟩ := hf d done mid hs hmid
    obtain ⟨hs₂, hg₂, hd₂⟩ := ih mid done' hs₁ hrest
    exact ⟨hs₂, hg₁.trans hg₂, forall_mem_cons.2 ⟨hd₁.mono hg₂.appended, hd₂⟩⟩

variable [DecidableEq κ]

lemma visit_sorted (hs : Sorted g done) (h : g.visit depth path k done = .ok done') :
    Sorted g done' ∧ Grown path done done' ∧ k ∈ done' := by
  induction depth generalizing path k done done' with
  | zero => cases h
  | succ depth ih =>
    rw [Graph.visit] at h
    by_cases hdone : k ∈ done
    · rw [if_pos hdone] at h
      cases h
      exact ⟨hs, .refl path done, hdone⟩
    rw [if_neg hdone] at h
    by_cases hpath : k ∈ path
    · rw [if_pos hpath] at h
      cases h
    rw [if_neg hpath] at h
    cases hfold : (g.edges k).foldlM (g.meet (g.visit depth (k :: path))) done with
    | error e => rw [hfold] at h; cases h
    | ok mid =>
      rw [hfold] at h
      cases h
      have hstep (d : κ) (done done' : List κ) (hs : Sorted g done)
          (h : g.meet (g.visit depth (k :: path)) done d = .ok done') :
          Sorted g done' ∧ Grown (k :: path) done done' ∧ Settled g done' d := by
        rcases meet_ok h with ⟨hin, rfl⟩ | ⟨-, h⟩
        · exact ⟨hs, .refl _ _, .inr hin⟩
        obtain ⟨hs', hg', hd'⟩ := ih hs h
        exact ⟨hs', hg', .inl hd'⟩
      obtain ⟨hs₁, hg₁, hd₁⟩ := foldlM_visit hstep (g.edges k) done mid hs hfold
      -- the key is on the path of the visits it makes, so none of them has ordered it
      have hk : k ∉ mid := fun hmem => (hg₁.fresh k hmem).elim hdone fun hnot => hnot mem_cons_self
      refine ⟨hs₁.append hk hd₁, ⟨hg₁.appended.trans (prefix_append _ _), fun x hx => ?_⟩, by simp⟩
      rcases mem_append.1 hx with hx | hx
      · exact (hg₁.fresh x hx).imp_right fun hnot hp => hnot (mem_cons_of_mem _ hp)
      rw [mem_singleton.1 hx]
      exact .inr hpath

lemma order_sorted (h : g.order depth keys = .ok done) : Sorted g done ∧ ∀ k ∈ keys, k ∈ done := by
  have hfold : ∀ (keys start : List κ), Sorted g start →
      keys.foldlM (fun done k => g.visit depth [] k done) start = .ok done →
      Sorted g done ∧ start <+: done ∧ ∀ k ∈ keys, k ∈ done := by
    intro keys
    induction keys with
    | nil =>
      intro start hs h
      cases h
      exact ⟨hs, prefix_rfl, fun k hk => by cases hk⟩
    | cons k keys ih =>
      intro start hs h
      obtain ⟨mid, hmid, hrest⟩ := foldlM_cons_ok h
      obtain ⟨hs₁, hg₁, hk₁⟩ := visit_sorted hs hmid
      obtain ⟨hs₂, hp₂, hall⟩ := ih mid hs₁ hrest
      exact ⟨hs₂, hg₁.appended.trans hp₂, forall_mem_cons.2 ⟨hp₂.subset hk₁, hall⟩⟩
  obtain ⟨hs, -, hall⟩ := hfold keys [] .nil h
  exact ⟨hs, hall⟩

lemma visit_mem {P : κ → Prop} (hin : ∀ d, g.inside d = .ok true → P d) (hk : P k) (hdone : ∀ x ∈ done, P x)
    (h : g.visit depth path k done = .ok done') : ∀ x ∈ done', P x := by
  induction depth generalizing path k done done' with
  | zero => cases h
  | succ depth ih =>
    rw [Graph.visit] at h
    split at h
    · exact Except.ok.inj h ▸ hdone
    split at h
    · cases h
    cases hfold : (g.edges k).foldlM (g.meet (g.visit depth (k :: path))) done with
    | error e => rw [hfold] at h; cases h
    | ok mid =>
      rw [hfold] at h
      cases h
      have hmid : ∀ x ∈ mid, P x := by
        refine foldlM_inv (I := fun done => ∀ x ∈ done, P x) (fun d _ done done' hs hnext => ?_) hdone hfold
        rcases meet_ok hnext with ⟨-, rfl⟩ | ⟨hd, hnext⟩
        · exact hs
        · exact ih (hin d hd) hs hnext
      exact forall_mem_append.2 ⟨hmid, by simpa using hk⟩

lemma order_subset (hin : ∀ d, g.inside d = .ok true → d ∈ keys) (h : g.order depth keys = .ok done) :
    done ⊆ keys := by
  have hmem : ∀ x ∈ done, x ∈ keys :=
    foldlM_inv (I := fun done => ∀ x ∈ done, x ∈ keys) (fun k hk _ _ hs hv => visit_mem hin hk hs hv)
      (fun x hx => by cases hx) h
  exact hmem

/-! ## The depth -/

/-- A visit that is allowed as many levels as there are keys does not run out of them. -/
lemma visit_ne_exhausted {all : List κ} (hin : ∀ d, g.inside d = .ok true → d ∈ all)
    (herr : ∀ d, g.inside d ≠ .error g.exhausted) (hcirc : ∀ k, g.circular k ≠ g.exhausted) (hk : k ∈ all)
    (hnodup : path.Nodup) (hsub : path ⊆ all) (hdepth : all.length < depth + path.length) :
    g.visit depth path k done ≠ .error g.exhausted := by
  induction depth generalizing path k done with
  | zero =>
    have := (hnodup.subperm hsub).length_le
    omega
  | succ depth ih =>
    intro h
    rw [Graph.visit] at h
    split at h
    · cases h
    split at h
    · exact hcirc k (Except.error.inj h)
    next hpath =>
      cases hfold : (g.edges k).foldlM (g.meet (g.visit depth (k :: path))) done with
      | ok mid => rw [hfold] at h; cases h
      | error e =>
        rw [hfold] at h
        obtain rfl : e = g.exhausted := Except.error.inj h
        obtain ⟨d, -, start, hd⟩ := foldlM_error hfold
        unfold Graph.meet at hd
        split at hd
        next hind => exact herr d (hind.trans (congrArg _ (Except.error.inj hd)))
        · cases hd
        next hind =>
          refine ih (hin d hind) (nodup_cons.2 ⟨hpath, hnodup⟩) (cons_subset.2 ⟨hk, hsub⟩) ?_ hd
          simp only [length_cons]
          omega

lemma order_ne_exhausted (hin : ∀ d, g.inside d = .ok true → d ∈ keys)
    (herr : ∀ d, g.inside d ≠ .error g.exhausted) (hcirc : ∀ k, g.circular k ≠ g.exhausted) :
    g.order (keys.length + 1) keys ≠ .error g.exhausted := by
  intro h
  obtain ⟨k, hk, done, hv⟩ := foldlM_error h
  exact visit_ne_exhausted hin herr hcirc hk nodup_nil (nil_subset _) (by simp) hv

end Order
end DepthFirst
