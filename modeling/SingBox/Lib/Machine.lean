import Mathlib.Data.Option.Basic
import Mathlib.Data.List.Basic
/-!
# Runs of a partial step function

`step s e` is the state after event `e`, or nothing when `e` cannot happen in
`s`. A condition on single steps holds along a run when it holds of every
event in the state it happens in.
-/
namespace Machine
variable {σ ε : Type*} (step : σ → ε → Option σ)

/-- The state after a list of events, when each of them can happen. -/
def run (s : σ) (es : List ε) : Option σ := es.foldlM step s

/-- `P` holds of every event of the run, in the state the event happens in. -/
def Along (P : σ → ε → Prop) : σ → List ε → Prop
  | _, [] => True
  | s, e :: es => P s e ∧ ∀ s', step s e = some s' → Along P s' es

instance instDecidableAlong (P : σ → ε → Prop) [∀ s e, Decidable (P s e)] :
    ∀ (s : σ) (es : List ε), Decidable (Along step P s es)
  | _, [] => isTrue trivial
  | s, e :: es =>
    match h : step s e with
    | none => decidable_of_iff (P s e) ⟨fun hp => ⟨hp, by simp [h]⟩, And.left⟩
    | some s' =>
      have := instDecidableAlong P s' es
      decidable_of_iff (P s e ∧ Along step P s' es)
        ⟨fun hp => ⟨hp.1, fun t ht => Option.some.inj (h.symm.trans ht) ▸ hp.2⟩, fun hp => ⟨hp.1, hp.2 s' h⟩⟩

variable {step}
variable {es : List ε}

lemma run_cons {s t : σ} {e : ε} (h : run step s (e :: es) = some t) :
    ∃ s', step s e = some s' ∧ run step s' es = some t := by
  rw [run, List.foldlM_cons] at h
  exact Option.bind_eq_some_iff.1 h

lemma run_of_step {s s' t : σ} {e : ε} (h : step s e = some s') (hr : run step s' es = some t) :
    run step s (e :: es) = some t := by
  rw [run, List.foldlM_cons, h]
  exact hr

lemma run_one {s s' : σ} {e : ε} (h : step s e = some s') : run step s [e] = some s' := run_of_step h rfl

/-- A run that is known to end where `f` is `b` ends in a state with everything that holds of its ends. -/
lemma exists_end {β : Type*} {r : Option σ} {f : σ → β} {b : β} {P : σ → Prop} (h : r.map f = some b)
    (hP : ∀ t, r = some t → P t) : ∃ t, r = some t ∧ f t = b ∧ P t := by
  obtain ⟨t, ht, hb⟩ := Option.map_eq_some_iff.1 h
  exact ⟨t, ht, hb, hP t ht⟩

lemma run_append {s s' t : σ} {es es' : List ε} (h : run step s es = some s') (hr : run step s' es' = some t) :
    run step s (es ++ es') = some t := by
  rw [run, List.foldlM_append, ← run, h]
  exact hr

lemma along_of_forall {P : σ → ε → Prop} (h : ∀ e ∈ es, ∀ s, P s e) (s : σ) : Along step P s es := by
  induction es generalizing s with
  | nil => trivial
  | cons e es ih => exact ⟨h e List.mem_cons_self s, fun s' _ => ih (fun e he => h e (List.mem_cons_of_mem _ he)) s'⟩

lemma run_inv {P : σ → ε → Prop} {I : σ → Prop}
    (hstep : ∀ s e s', I s → P s e → step s e = some s' → I s') {s t : σ} (hs : I s)
    (hP : Along step P s es) (h : run step s es = some t) : I t := by
  induction es generalizing s with
  | nil =>
    cases h
    exact hs
  | cons e es ih =>
    obtain ⟨s', he, hr⟩ := run_cons h
    exact ih (hstep s e s' hs hP.1 he) (hP.2 s' he) hr

lemma run_keeps {I : σ → Prop} (hstep : ∀ s e s', I s → step s e = some s' → I s') {s t : σ}
    (hs : I s) (h : run step s es = some t) : I t :=
  run_inv (P := fun _ _ => True) (fun s e s' hI _ => hstep s e s' hI) hs (along_of_forall (fun _ _ _ => trivial) _) h

/-- Two machines in lockstep: what every allowed step of the first one carries over to the second holds
after every allowed run. -/
lemma run_sim {τ : Type*} {step' : τ → ε → Option τ} {P : σ → ε → Prop} {R : σ → τ → Prop}
    (hstep : ∀ s t e s', R s t → P s e → step s e = some s' → ∃ t', step' t e = some t' ∧ R s' t')
    {s s' : σ} {t : τ} (hR : R s t) (hP : Along step P s es) (h : run step s es = some s') :
    ∃ t', run step' t es = some t' ∧ R s' t' := by
  induction es generalizing s t with
  | nil =>
    cases h
    exact ⟨t, rfl, hR⟩
  | cons e es ih =>
    obtain ⟨s₁, he, hr⟩ := run_cons h
    obtain ⟨t₁, ht₁, hR₁⟩ := hstep s t e s₁ hR hP.1 he
    obtain ⟨t', ht', hR'⟩ := ih hR₁ (hP.2 s₁ he) hr
    exact ⟨t', by rw [run, List.foldlM_cons, ht₁]; exact ht', hR'⟩

end Machine
