import SingBox.Dns.Exchange
/-!
# Walks end

A walk waits only for exchanges that have not completed, so before the horizon
every wait moves the clock on, and after it nothing is waited for any more. With
the invariant of `Dns/Race.lean` this settles what holds of whole runs.
-/
namespace SingBox.Dns
open WalkState
variable {k : Nat} {o : Outcome}

namespace Walk
variable {w : Walk}

lemma sched_le_horizon (hk : k < w.router.rules.length + 1) : w.sched k ≤ w.horizon := by
  have hfold (l : List Nat) (hmem : k ∈ l) : w.sched k ≤ l.foldr (fun k t => max (w.sched k) t) 0 := by
    induction l with
    | nil => cases hmem
    | cons j l ih =>
      rw [List.foldr_cons]
      rcases List.mem_cons.1 hmem with rfl | hmem
      · exact le_max_left _ _
      · exact (ih hmem).trans (le_max_right _ _)
  exact hfold _ (List.mem_range.2 hk)

variable {s s' : WalkState}

lemma Running.sched_le (h : Running w.router.rules s) (hk : k < s.futures.length) :
    w.sched k ≤ w.horizon := by
  refine sched_le_horizon ?_
  have hpos := h.position
  have hone := s.terminalFuture.isSome.toNat_le
  omega

section
variable (h : Running w.router.rules s)
include h

omit h in
lemma sweep_ready {todo : List ArmedRule} (kept : List ArmedRule)
    (hk : ∀ a ∈ todo, ∀ k ∈ a.futures, w.sched k ≤ s.clock) (hnone : (w.sweep kept todo s).1 = none) :
    (w.sweep kept todo s).2.armedRules = kept := by
  induction todo generalizing s with
  | nil => rfl
  | cons a todo ih =>
    obtain ⟨hka, hk⟩ := List.forall_mem_cons.1 hk
    have later {t : WalkState} (ht : s.clock ≤ t.clock) : ∀ b ∈ todo, ∀ k ∈ b.futures, w.sched k ≤ t.clock :=
      fun b hb k hkb => (hk b hb k hkb).trans ht
    have hready := awaitFuture_of_resolved w.sched hka
    have hlook := awaitFuture_looked w.sched a.futures s
    simp only [sweep] at hnone ⊢
    cases heq : awaitFuture w.sched a.futures s with
    | mk await s' =>
      rw [heq] at hready hlook
      obtain rfl : await = none := hready
      have hexam := hlook.trans (examine_looked w.router.env a.rule.rule (w.armedView a s') s')
      simp only [heq] at hnone ⊢
      by_cases hdis : w.disabled a.ruleIndex s'.clock
      · simp only [hdis, if_true] at hnone ⊢
        exact ih (later (hlook.clock.trans (Nat.le_succ _))) hnone
      simp only [hdis, Bool.false_eq_true, if_false] at hnone ⊢
      by_cases hmatch : (examine w.router.env a.rule.rule (w.armedView a s') s').1
      · simp only [hmatch, if_true] at hnone ⊢
        cases hcommit : w.commitArmed a (examine w.router.env a.rule.rule (w.armedView a s') s').2 with
        | ok commit => simp [hcommit] at hnone
        | error reason =>
          simp only [hcommit] at hnone ⊢
          cases reason with
          | none => exact ih (later hexam.clock) hnone
          | some reason => exact ih (later hexam.clock) hnone
      · simp only [hmatch, Bool.false_eq_true, if_false] at hnone ⊢
        exact ih (later hexam.clock) hnone

lemma sweep_unready {t : WalkState} (heq : w.sweepArmedDNSRules s = (none, t))
    (ha : t.armedRules ≠ []) : s.clock < w.horizon := by
  by_contra hc
  refine ha ?_
  have hk : ∀ a ∈ s.armedRules, ∀ k ∈ a.futures, w.sched k ≤ s.clock := fun a hmem k hka =>
    (Running.sched_le h (h.indexed.armed a hmem k hka)).trans (Nat.le_of_not_lt hc)
  have hempty := sweep_ready (w := w) [] hk (congrArg Prod.fst heq)
  rwa [← sweepArmedDNSRules, heq] at hempty

/-! ## The measure -/

def measure (w : Walk) (c : Config) : Nat :=
  let rest := 5 * (w.horizon - c.state.clock) + 5 * (w.router.rules.length - c.state.ruleIndex)
  match c.control with
  | .walk => rest + if c.state.armedRules = [] then 2 else 4
  | .resume (.await _) | .resume .drain => rest + 3
  | .resume (.pending _) => 1
  | .finished _ => 0

lemma measure_walkStep : measure w (w.walkStep s) < measure w ⟨.walk, s⟩ := by
  obtain ⟨⟨hinv, -⟩, hp⟩ := walkStep_ok h
  generalize w.walkStep s = c at hinv hp ⊢
  obtain ⟨control, t⟩ := c
  have hpos : 2 ≤ measure w ⟨.walk, s⟩ := by
    simp only [measure]
    split <;> omega
  simp only [measure, Progress] at hp hpos ⊢
  cases control with
  | finished =>
    dsimp only
    omega
  | walk =>
    obtain ⟨hi, hlt, hc⟩ := hp
    rw [hi]
    split <;> split <;> omega
  | resume suspension =>
    cases suspension with
    | pending =>
      dsimp only
      omega
    | await k =>
      obtain ⟨hi, hc, hk⟩ := hp
      have hh := hk.trans_le (Running.sched_le hinv.1 hinv.2)
      dsimp only at hi hc ⊢
      rw [hi]
      split <;> omega
    | drain =>
      obtain ⟨hi, ha, hc⟩ := hp
      dsimp only at hi hc ⊢
      rw [hi, if_neg ha]
      omega

omit h in
lemma measure_finishPendingExchange (p : PendingExchange) : measure w (w.finishPendingExchange s p) = 0 := by
  simp only [finishPendingExchange]
  split <;> rfl

lemma measure_resumeStep {suspension : Suspension}
    (hs : ∀ p, suspension ≠ .pending p) (hk : ∀ k, suspension = .await k → k < s.futures.length) :
    measure w (w.resumeStep suspension s) < measure w ⟨.resume suspension, s⟩ := by
  have hl := settle_looked w.sched s
  have hrest : measure w ⟨.resume suspension, s⟩ =
      5 * (w.horizon - s.clock) + 5 * (w.router.rules.length - s.ruleIndex) + 3 := by
    cases suspension with
    | pending p => exact absurd rfl (hs p)
    | await | drain => rfl
  rw [hrest]
  simp only [resumeStep]
  cases heq : w.sweepArmedDNSRules (s.settleDNSFutures w.sched) with
  | mk commit t =>
    cases commit with
    | some commit =>
      cases commit with
      | outcome o => exact Nat.succ_pos _
      | pending p => simp only [measure_finishPendingExchange]; omega
    | none =>
      have hrun := h.looked hl
      obtain ⟨-, hl', -⟩ := sweep_passed hrun heq
      have hi : t.ruleIndex = s.ruleIndex := hl'.ruleIndex.trans hl.ruleIndex
      have hc : s.clock ≤ t.clock := hl.clock.trans hl'.clock
      have hunready : t.armedRules ≠ [] → s.clock < w.horizon := fun ha =>
        hl.clock.trans_lt (sweep_unready hrun heq ha)
      -- going on waiting needs an exchange that is not complete
      have hwait {sus : Suspension} (hsus : ∀ p, sus ≠ .pending p) (hh : s.clock < w.horizon) :
          measure w (t.suspend sus) <
            5 * (w.horizon - s.clock) + 5 * (w.router.rules.length - s.ruleIndex) + 3 := by
        cases sus with
        | pending p => exact absurd rfl (hsus p)
        | await => simp only [measure, suspend, tick, hi]; omega
        | drain => simp only [measure, suspend, tick, hi]; omega
      have hwalk : measure w ⟨.walk, t.tick⟩ <
          5 * (w.horizon - s.clock) + 5 * (w.router.rules.length - s.ruleIndex) + 3 := by
        simp only [measure, tick, hi]
        split
        · omega
        next ha =>
          have := hunready ha
          omega
      cases suspension with
      | pending p => exact absurd rfl (hs p)
      | await k =>
        dsimp only
        split
        · exact hwalk
        next hres =>
          refine hwait (by simp) ?_
          have hsched := Running.sched_le h (hk k rfl)
          simp only [resolved, decide_eq_true_eq] at hres
          omega
      | drain =>
        dsimp only
        split
        next ha => exact hwait (by simp) (hunready (List.ne_nil_of_length_pos ha))
        · exact hwalk

end

lemma measure_step {c : Config} (h : Inv w.router.rules c) (hf : ∀ o, c.control ≠ .finished o) :
    measure w (w.step c) < measure w c := by
  obtain ⟨control, s⟩ := c
  cases control with
  | walk => exact measure_walkStep h
  | finished o => exact absurd rfl (hf o)
  | resume suspension =>
    cases suspension with
    | await k =>
      refine measure_resumeStep h.1 (by simp) ?_
      rintro _ ⟨⟩
      exact h.2
    | drain => exact measure_resumeStep h (by simp) (by simp)
    | pending p =>
      have ha := (settle_looked w.sched s).armedRules.trans h.2.1
      simp only [step, resumeStep, sweep_unarmed ha, measure_finishPendingExchange]
      exact Nat.one_pos

/-! ## Runs -/

variable {md : InboundContext} {options : Route.DNSQueryOptions} {c : Config}

lemma start_inv (rules : List DNSRule) : Inv rules (start md options) where
  indexed := ⟨by simp [start], by simp [start], by simp [start], by simp [start]⟩
  position := ⟨Nat.zero_le _, Nat.zero_le _⟩
  orderly p i q h := by simp [start] at h
  nodup := List.nodup_nil
  noDefault := by simp [start]
  launched := by simp [start]
  armed := by simp [start]
  waiting := by simp [start]

lemma inv_ending {rules : List DNSRule} (h : Inv rules c) : Ending rules c.state := by
  obtain ⟨control, s⟩ := c
  cases control with
  | walk => exact Running.ending h
  | finished => exact h
  | resume suspension =>
    cases suspension with
    | await => exact h.1.ending
    | drain => exact Running.ending h
    | pending => exact h.1

lemma run_succ (n : Nat) (c : Config) : w.run (n + 1) c = w.run n (w.step c) := Function.iterate_succ_apply _ _ _

lemma run_inv (h : Inv w.router.rules c) (n : Nat) : Inv w.router.rules (w.run n c) := by
  induction n generalizing c with
  | zero => exact h
  | succ n ih =>
    rw [run_succ]
    exact ih (step_ok h).inv

lemma step_finished (h : c.control = .finished o) : w.step c = c := by
  simp only [step, h]

lemma run_finished (h : c.control = .finished o) (n : Nat) : w.run n c = c :=
  Function.iterate_fixed (step_finished h) n

lemma run_finishes (h : Inv w.router.rules c) {n : Nat} (hn : measure w c ≤ n) :
    ∃ o, (w.run n c).control = .finished o := by
  induction n generalizing c with
  | zero =>
    by_contra hf
    have := measure_step h (not_exists.1 hf)
    omega
  | succ n ih =>
    rw [run_succ]
    by_cases hf : ∃ o, c.control = .finished o
    · obtain ⟨o, ho⟩ := hf
      rw [step_finished ho, run_finished ho]
      exact ⟨o, ho⟩
    · have := measure_step h (not_exists.1 hf)
      exact ih (step_ok h).inv (by omega)

lemma outcomeOf_finished (h : c.control = .finished o) : w.outcomeOf c = o := by
  simp only [outcomeOf, run_finished h, h]

lemma outcomeOf_step (h : Inv w.router.rules c) (hm : measure w c ≤ w.fuel) :
    w.outcomeOf (w.step c) = w.outcomeOf c := by
  obtain ⟨o, ho⟩ := run_finishes h hm
  have hnext : w.run w.fuel (w.step c) = w.run w.fuel c := by
    rw [← run_succ, run, Function.iterate_succ_apply']
    exact step_finished ho
  simp only [outcomeOf, hnext]

lemma measure_start_le : measure w (start md options) ≤ w.fuel := by
  simp only [measure, start, fuel, if_true]
  omega

lemma walkDNSRules_reaches (n : Nat) (h : Inv w.router.rules c) (hm : measure w c ≤ w.fuel) :
    Inv w.router.rules (w.walkDNSRules n c) ∧ measure w (w.walkDNSRules n c) ≤ w.fuel ∧
      w.outcomeOf (w.walkDNSRules n c) = w.outcomeOf c := by
  induction n generalizing c with
  | zero => exact ⟨h, hm, rfl⟩
  | succ n ih =>
    simp only [walkDNSRules]
    split
    next hc =>
      have hlt := measure_step h (by simp [hc])
      obtain ⟨hinv, hm', ho⟩ := ih (step_ok h).inv (by omega)
      exact ⟨hinv, hm', ho.trans (outcomeOf_step h hm)⟩
    · exact ⟨h, hm, rfl⟩
    · exact ⟨h, hm, rfl⟩

lemma finishPendingExchange_looked (hl : Looked s s') (p : PendingExchange) :
    (w.finishPendingExchange s' p).control = (w.finishPendingExchange s p).control := by
  simp only [finishPendingExchange, hl.futures]
  split <;> rfl

lemma exchangeWithRulesAsync_eq (w : Walk) (md : InboundContext) (options : Route.DNSQueryOptions) :
    w.exchangeWithRulesAsync md options = w.exchangeWithRules md options := by
  have hstart : Inv w.router.rules (start md options) := start_inv _
  obtain ⟨hinv, hm, -⟩ := walkDNSRules_reaches (w.router.rules.length + 1) hstart measure_start_le
  simp only [exchangeWithRulesAsync, exchangeWithRules]
  generalize w.walkDNSRules (w.router.rules.length + 1) (start md options) = c at hinv hm ⊢
  split
  next p hc =>
    split
    · have ha : c.state.armedRules = [] := by
        simp only [Inv, hc] at hinv
        exact hinv.2.1
      have hl := settle_looked w.sched c.state
      have hstep : w.step c = w.finishPendingExchange (c.state.settleDNSFutures w.sched) p := by
        simp only [step, hc, resumeStep, sweep_unarmed (hl.armedRules.trans ha)]
      have hend : ∃ o, (w.finishPendingExchange c.state p).control = .finished o := by
        simp only [finishPendingExchange]
        split <;> exact ⟨_, rfl⟩
      obtain ⟨o, ho⟩ := hend
      rw [← outcomeOf_step hinv hm, hstep, outcomeOf_finished ho,
        outcomeOf_finished ((finishPendingExchange_looked hl p).trans ho)]
    · rfl
  · rfl

/-- Every walk ends, whenever its exchanges are done: after `fuel` steps it has the outcome of the exchange,
and keeps it. -/
theorem walk_finishes (w : Walk) (md : InboundContext) (options : Route.DNSQueryOptions) (n : Nat) :
    (w.run (w.fuel + n) (start md options)).control = .finished (w.exchangeWithRules md options) := by
  have hstart : Inv w.router.rules (start md options) := start_inv _
  obtain ⟨-, -, hwalk⟩ := walkDNSRules_reaches (w.router.rules.length + 1) hstart measure_start_le
  obtain ⟨o, ho⟩ := run_finishes hstart measure_start_le
  have hlater : w.run (w.fuel + n) (start md options) = w.run w.fuel (start md options) := by
    rw [run, Nat.add_comm, Function.iterate_add_apply]
    exact run_finished ho n
  rw [exchangeWithRules, hwalk, outcomeOf, hlater, ho]

end Walk

/-- A walk with race rules, in every state of every run: each rule has launched at most one exchange;
rules that are not race rules took effect when nothing was armed, after every rule armed before them
was examined in vain; a pending exchange leaves nothing armed. Resuming a walk and finishing it
asynchronously give the same result. -/
theorem race_walk_in_order (r : Router) (runs : Router.Runs) (allowFakeIP : Bool) (chain : List String)
    (md : InboundContext) (query : Query) (options : Route.DNSQueryOptions) :
    (∀ depth c, (r.walkAt runs depth query allowFakeIP).Reaches (Walk.start md options) c →
      (launches c.state.trace).Nodup ∧ Orderly r.rules c.state.trace ∧
      (∀ ev i, ((r.walkAt runs depth query allowFakeIP).step c).state.trace = c.state.trace ++ ev →
        .effect i ∈ ev → NotRace r.rules i → c.state.armedRules = []) ∧
      ∀ p, c.control = .resume (.pending p) → c.state.armedRules = []) ∧
    r.exchangeWithRulesAsync runs allowFakeIP chain md query options =
      r.exchangeWithRules runs allowFakeIP chain md query options := by
  constructor
  · rintro depth c ⟨n, rfl⟩
    have hstart : Inv r.rules (Walk.start md options) := Walk.start_inv _
    have hinv := Walk.run_inv (w := r.walkAt runs depth query allowFakeIP) hstart n
    generalize (r.walkAt runs depth query allowFakeIP).run n (Walk.start md options) = c at hinv ⊢
    have hend : Ending r.rules c.state := Walk.inv_ending hinv
    refine ⟨hend.nodup, hend.orderly, fun ev i ht hi hn => ?_, fun p hp => ?_⟩
    · obtain ⟨ev', ht', hev⟩ := (Walk.step_ok hinv).effects
      obtain rfl : ev = ev' := List.append_cancel_left (ht.symm.trans ht')
      exact hev i hi hn
    · simp only [Inv, hp] at hinv
      exact hinv.2.1
  · simp only [Router.exchangeWithRulesAsync, Router.exchangeWithRules, Walk.exchangeWithRulesAsync_eq]

end SingBox.Dns
