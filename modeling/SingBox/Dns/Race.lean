import SingBox.Dns.Looks
/-!
# Race rules

What holds in every state of a walk with `race` rules, whatever the schedule:
each rule launches at most one exchange, the terminal action of a rule that is
not a race rule comes after every rule armed before it was dismissed, and a
pending exchange leaves no rule armed.
-/
namespace SingBox.Dns
open List

/-! ## The record of a walk -/

def launches (trace : List Event) : List (Option Nat) :=
  trace.filterMap fun
    | .launched rule => some rule
    | _ => none

open WalkState

@[simp] lemma launches_append (t t' : List Event) : launches (t ++ t') = launches t ++ launches t' :=
  filterMap_append

variable {i : Option Nat} {e : Event} {ds : List Event} {a : ArmedRule} {k : Nat} {p : PendingExchange} {s' : WalkState} {c : Config}

@[simp] lemma mem_launches {t : List Event} : i ∈ launches t ↔ .launched i ∈ t := by
  simp only [launches, mem_filterMap]
  constructor
  · rintro ⟨e, he, h⟩
    cases e <;> simp_all
  · exact fun h => ⟨_, h, rfl⟩

/-- The rule is not a race rule; the default transport is none. -/
def NotRace (rules : List DNSRule) (i : Option Nat) : Prop :=
  ∀ rule, i.bind (rules[·]?) = some rule → rule.race = false

def AllDismissed (trace : List Event) : Prop :=
  ∀ j, .armed j ∈ trace → ∃ reason, .dismissed j reason ∈ trace

/-- A rule that is not a race rule takes effect only after every rule armed before was dismissed. -/
def Orderly (rules : List DNSRule) (trace : List Event) : Prop :=
  ∀ p i q, trace = p ++ .effect i :: q → NotRace rules i → AllDismissed p

variable {rules : List DNSRule} {t : List Event}

lemma Orderly.snoc (h : Orderly rules t) (he : ∀ i, e = .effect i → NotRace rules i → AllDismissed t) :
    Orderly rules (t ++ [e]) := by
  intro p i q heq hi
  rcases eq_nil_or_concat q with rfl | ⟨q, e', rfl⟩
  · obtain ⟨rfl, rfl⟩ : t = p ∧ e = .effect i := by simpa using append_inj' heq rfl
    exact he i rfl hi
  have hcons : p ++ .effect i :: (q.concat e') = (p ++ .effect i :: q) ++ [e'] := by simp
  rw [hcons] at heq
  exact h p i q (append_inj' heq rfl).1 hi

lemma Orderly.append (h : Orderly rules t) (hds : ∀ e ∈ ds, ∀ i, e ≠ .effect i) :
    Orderly rules (t ++ ds) := by
  induction ds generalizing t with
  | nil => simpa using h
  | cons e ds ih =>
    obtain ⟨he, hds⟩ := forall_mem_cons.1 hds
    rw [append_cons]
    exact ih (h.snoc fun i hi => absurd hi (he i)) hds

lemma launches_eq_nil (hds : ∀ e ∈ ds, ∀ i, e ≠ .launched i) : launches ds = [] := by
  refine eq_nil_iff_forall_not_mem.2 fun i hi => ?_
  exact hds _ (mem_launches.1 hi) i rfl

/-! ## Sweeps -/

/-- The state with the armed rules and the record of another. -/
def WalkState.planOf (s s' : WalkState) : WalkState := { s with armedRules := s'.armedRules, trace := s'.trace }

/-- What a sweep over `todo` does. -/
structure Swept (todo : List ArmedRule) (s : WalkState) (out : Option Commit × WalkState) (kept : List ArmedRule) :
    Prop where
  looked : Looked s (out.2.planOf s)
  /-- A sweep that commits to nothing keeps or dismisses each rule. -/
  passed : out.1 = none → ∃ ds, out.2.trace = s.trace ++ ds ∧
    (∀ e ∈ ds, ∃ j reason, e = .dismissed j reason) ∧
    (∀ a ∈ out.2.armedRules, a ∈ kept ∨ a ∈ todo) ∧ (∀ a ∈ kept, a ∈ out.2.armedRules) ∧
    ∀ a ∈ todo, a ∈ out.2.armedRules ∨ ∃ reason, .dismissed a.ruleIndex reason ∈ ds
  /-- A sweep commits to one of its rules. -/
  committed : ∀ commit, out.1 = some commit → ∃ a ∈ todo, ∃ ds,
    out.2.trace = s.trace ++ ds ++ [.effect (some a.ruleIndex)] ∧ (∀ e ∈ ds, ∃ j reason, e = .dismissed j reason) ∧
    ∀ p, commit = .pending p → p.future = none ∧ p.rule = some a.ruleIndex

section
variable {a : ArmedRule} {todo kept : List ArmedRule} {s s' : WalkState} {out : Option Commit × WalkState}

lemma Looked.planOf (h : Looked s s') (h' : Looked s' (out.2.planOf s')) : Looked s (out.2.planOf s) :=
  ⟨h'.effectiveOptions.trans h.effectiveOptions, h'.ruleIndex.trans h.ruleIndex,
    h'.anonymousFuture.trans h.anonymousFuture, h'.namedFutures.trans h.namedFutures, h'.futures.trans h.futures, rfl,
    h'.terminalFuture.trans h.terminalFuture, h'.terminalIndex.trans h.terminalIndex, rfl, h.clock.trans h'.clock⟩

lemma Looked.unrecord (h : Looked (s.record e) (s'.planOf (s.record e))) : Looked s (s'.planOf s) :=
  { h with armedRules := rfl, trace := rfl }

lemma Swept.keep (h : Looked s s') (hs : Swept todo s' out (kept ++ [a])) : Swept (a :: todo) s out kept where
  looked := h.planOf hs.looked
  passed hnone := by
    obtain ⟨ds, ht, hds, hsub, hkept, htodo⟩ := hs.passed hnone
    refine ⟨ds, by rw [ht, h.trace], hds, fun b hb => ?_, fun b hb => hkept b (by simp [hb]), ?_⟩
    · rcases hsub b hb with hb | hb
      · rcases mem_append.1 hb with hb | hb
        · exact .inl hb
        · exact .inr (by simp_all)
      · exact .inr (mem_cons_of_mem _ hb)
    · exact forall_mem_cons.2 ⟨.inl (hkept a (by simp)), htodo⟩
  committed commit hc := by
    obtain ⟨b, hb, ds, ht, hrest⟩ := hs.committed commit hc
    exact ⟨b, mem_cons_of_mem _ hb, ds, by rw [ht, h.trace], hrest⟩

lemma Swept.dismiss (h : Looked s s') (reason : Dismissal)
    (hs : Swept todo (s'.record (.dismissed a.ruleIndex reason)) out kept) : Swept (a :: todo) s out kept where
  looked := h.planOf hs.looked.unrecord
  passed hnone := by
    obtain ⟨ds, ht, hds, hsub, hkept, htodo⟩ := hs.passed hnone
    refine ⟨.dismissed a.ruleIndex reason :: ds, by simp [ht, record, h.trace], ?_, ?_, hkept, ?_⟩
    · exact forall_mem_cons.2 ⟨⟨_, _, rfl⟩, hds⟩
    · exact fun b hb => (hsub b hb).imp_right (mem_cons_of_mem _)
    refine forall_mem_cons.2 ⟨.inr ⟨reason, mem_cons_self⟩, fun b hb => ?_⟩
    exact (htodo b hb).imp_right fun ⟨reason, hr⟩ => ⟨reason, mem_cons_of_mem _ hr⟩
  committed commit hc := by
    obtain ⟨b, hb, ds, ht, hds, hp⟩ := hs.committed commit hc
    exact ⟨b, mem_cons_of_mem _ hb, .dismissed a.ruleIndex reason :: ds,
      by simp [ht, record, h.trace], forall_mem_cons.2 ⟨⟨_, _, rfl⟩, hds⟩, hp⟩

lemma Swept.commit (h : Looked s s') {commit : Commit}
    (hp : ∀ p, commit = .pending p → p.future = none ∧ p.rule = some a.ruleIndex) :
    Swept (a :: todo) s (some commit, { s' with armedRules := kept ++ todo }.record (.effect (some a.ruleIndex))) kept
    where
  looked := { h with armedRules := rfl, trace := rfl }
  passed hnone := by cases hnone
  committed c hc := by
    cases hc
    exact ⟨a, mem_cons_self, [], by simp [record, h.trace], by simp, hp⟩

end

namespace Walk
variable (w : Walk)

lemma commitArmed_cases (ha : a.rule.action.raceable = true) (s : WalkState) :
    (∃ commit, w.commitArmed a s = .ok commit ∧
        ∀ p, commit = .pending p → p.future = none ∧ p.rule = some a.ruleIndex) ∨
      w.commitArmed a s = .error (some .notRoutable) := by
  cases hact : a.rule.action with
  | routeOptions options | evaluate => simp [hact, RuleAction.raceable] at ha
  | respond | reject action | predefined action =>
    simp only [commitArmed, hact]
    exact .inl ⟨_, rfl, by simp⟩
  | route server options speculative =>
    simp only [commitArmed, hact]
    cases w.router.resolveDNSRoute server options w.allowFakeIP a.options with
    | none => exact .inr rfl
    | some found =>
      refine .inl ⟨_, rfl, ?_⟩
      rintro p ⟨⟩
      exact ⟨rfl, rfl⟩

lemma sweep_swept {todo : List ArmedRule} (ha : ∀ a ∈ todo, a.rule.action.raceable = true) (kept : List ArmedRule)
    (s : WalkState) : Swept todo s (w.sweep kept todo s) kept := by
  induction todo generalizing kept s with
  | nil =>
    exact ⟨⟨rfl, rfl, rfl, rfl, rfl, rfl, rfl, rfl, rfl, le_rfl⟩,
      fun _ => ⟨[], by simp [sweep], by simp, fun a h => .inl h, fun a h => h, by simp⟩, fun _ h => by cases h⟩
  | cons a todo ih =>
    obtain ⟨haa, ha⟩ := forall_mem_cons.1 ha
    have hlook := awaitFuture_looked w.sched a.futures s
    simp only [sweep]
    split
    next k s' heq => rw [heq] at hlook; exact Swept.keep hlook (ih ha _ _)
    next s' heq =>
      rw [heq] at hlook
      split
      · exact Swept.dismiss (hlook.trans (.tick s')) .disabled (ih ha _ _)
      have hexam := hlook.trans (examine_looked w.router.env a.rule.rule (w.armedView a s') s')
      split
      · rcases w.commitArmed_cases haa (examine w.router.env a.rule.rule (w.armedView a s') s').2 with
          ⟨commit, hc, hp⟩ | hc
        · simp only [hc]
          exact Swept.commit hexam hp
        simp only [hc]
        exact Swept.dismiss hexam .notRoutable (ih ha _ _)
      · exact Swept.dismiss hexam .notMatching (ih ha _ _)

end Walk

/-! ## The invariant -/

def RouteAt (rules : List DNSRule) (i : Nat) : Prop :=
  ∃ rule server options speculative, rules[i]? = some rule ∧ rule.action = .route server options speculative

/-- Futures are named by positions in the list. -/
structure Indexed (s : WalkState) : Prop where
  named : ∀ tag k, s.namedFutures tag = some k → k < s.futures.length
  anonymous : ∀ k, s.anonymousFuture = some k → k < s.futures.length
  armed : ∀ a ∈ s.armedRules, ∀ k ∈ a.futures, k < s.futures.length
  terminal : ∀ k, s.terminalFuture = some k → k < s.futures.length

/-- A walk that has not come to its terminal action. -/
structure Running (rules : List DNSRule) (s : WalkState) : Prop where
  indexed : Indexed s
  position : s.ruleIndex ≤ rules.length ∧ s.futures.length ≤ s.ruleIndex + s.terminalFuture.isSome.toNat
  orderly : Orderly rules s.trace
  nodup : (launches s.trace).Nodup
  noDefault : .launched none ∉ s.trace
  /-- Rules before the current one have launched; the current one only as the speculative terminal. -/
  launched : ∀ i, .launched (some i) ∈ s.trace → NotRace rules (some i) ∧
    (i < s.ruleIndex ∨ i = s.ruleIndex ∧ s.terminalFuture.isSome ∧ s.terminalIndex = i ∧ RouteAt rules i)
  armed : ∀ a ∈ s.armedRules, rules[a.ruleIndex]? = some a.rule ∧ a.rule.race = true
  waiting : ∀ j, .armed j ∈ s.trace → (∃ reason, .dismissed j reason ∈ s.trace) ∨ ∃ a ∈ s.armedRules, a.ruleIndex = j

/-- The part of the invariant that outlasts the walk. -/
structure Ending (rules : List DNSRule) (s : WalkState) : Prop where
  orderly : Orderly rules s.trace
  nodup : (launches s.trace).Nodup

def Inv (rules : List DNSRule) (c : Config) : Prop :=
  match c.control with
  | .resume (.pending p) => Ending rules c.state ∧ c.state.armedRules = [] ∧
      (p.future = none → .launched p.rule ∉ c.state.trace) ∧ ∀ k, p.future = some k → k < c.state.futures.length
  | .finished _ => Ending rules c.state
  | .resume (.await k) => Running rules c.state ∧ k < c.state.futures.length
  | .walk | .resume .drain => Running rules c.state

structure StepOk (rules : List DNSRule) (s : WalkState) (c : Config) : Prop where
  inv : Inv rules c
  effects : ∃ ev, c.state.trace = s.trace ++ ev ∧ ∀ i, .effect i ∈ ev → NotRace rules i → s.armedRules = []

/-- How far one round of the walk's loop comes: to the next rule, or to a wait for an exchange that is not complete
or for the armed rules. -/
def Progress (w : Walk) (s : WalkState) (c : Config) : Prop :=
  match c.control with
  | .walk => c.state.ruleIndex = s.ruleIndex + 1 ∧ s.ruleIndex < w.router.rules.length ∧ s.clock ≤ c.state.clock
  | .resume (.await k) => c.state.ruleIndex = s.ruleIndex ∧ s.clock < c.state.clock ∧ s.clock < w.sched k
  | .resume .drain => c.state.ruleIndex = s.ruleIndex ∧ s.armedRules ≠ [] ∧ s.clock ≤ c.state.clock
  | .resume (.pending _) | .finished _ => True

structure WalkOk (w : Walk) (s : WalkState) (c : Config) : Prop extends StepOk w.router.rules s c where
  progress : Progress w s c

section
variable {w : Walk} {s s' : WalkState} {c : Config}

lemma Running.ending (h : Running rules s) : Ending rules s := ⟨h.orderly, h.nodup⟩

lemma Running.congr (h : Running rules s) (hx : Indexed s') (ht : s'.trace = s.trace)
    (hi : s'.ruleIndex = s.ruleIndex) (hf : s'.futures = s.futures) (ha : s'.armedRules = s.armedRules)
    (hk : s'.terminalFuture = s.terminalFuture) (hki : s'.terminalIndex = s.terminalIndex) : Running rules s' where
  indexed := hx
  position := by rw [hi, hf, hk]; exact h.position
  orderly := by rw [ht]; exact h.orderly
  nodup := by rw [ht]; exact h.nodup
  noDefault := by rw [ht]; exact h.noDefault
  launched := by rw [ht, hi, hk, hki]; exact h.launched
  armed := by rw [ha]; exact h.armed
  waiting := by rw [ht, ha]; exact h.waiting

lemma Indexed.looked (h : Indexed s) (hl : Looked s s') : Indexed s' where
  named := by rw [hl.namedFutures, hl.futures]; exact h.named
  anonymous := by rw [hl.anonymousFuture, hl.futures]; exact h.anonymous
  armed := by rw [hl.armedRules, hl.futures]; exact h.armed
  terminal := by rw [hl.terminalFuture, hl.futures]; exact h.terminal

lemma Indexed.mono (h : Indexed s) (hlen : s.futures.length ≤ s'.futures.length)
    (hn : ∀ tag k, s'.namedFutures tag = some k → s.namedFutures tag = some k ∨ k < s'.futures.length)
    (ha : ∀ k, s'.anonymousFuture = some k → s.anonymousFuture = some k ∨ k < s'.futures.length)
    (hr : s'.armedRules = s.armedRules)
    (ht : ∀ k, s'.terminalFuture = some k → s.terminalFuture = some k ∨ k < s'.futures.length) : Indexed s' where
  named tag k hk := (hn tag k hk).elim (fun hk => (h.named tag k hk).trans_le hlen) id
  anonymous k hk := (ha k hk).elim (fun hk => (h.anonymous k hk).trans_le hlen) id
  armed a hmem k hk := (h.armed a (hr ▸ hmem) k hk).trans_le hlen
  terminal k hk := (ht k hk).elim (fun hk => (h.terminal k hk).trans_le hlen) id

lemma Running.looked (h : Running rules s) (hl : Looked s s') : Running rules s' :=
  h.congr (h.indexed.looked hl) hl.trace hl.ruleIndex hl.futures hl.armedRules hl.terminalFuture hl.terminalIndex

lemma Indexed.bound (h : Indexed s) {rule : Rule} (hk : k ∈ s.boundFutures rule) :
    k < s.futures.length := by
  rcases mem_append.1 hk with hk | hk
  · obtain ⟨tag, -, htag⟩ := mem_filterMap.1 hk
    exact h.named tag k htag
  rw [Option.mem_toList] at hk
  split at hk
  · exact h.anonymous k hk
  · cases hk

lemma Running.raceable (h : Running rules s) : ∀ a ∈ s.armedRules, a.rule.action.raceable = true :=
  fun a ha => (a.rule.race_valid (h.armed a ha).2).1

lemma StepOk.of_eq (ht : s'.trace = s.trace) (ha : s'.armedRules = s.armedRules) (h : StepOk rules s' c) :
    StepOk rules s c := by
  refine ⟨h.inv, ?_⟩
  rw [← ht, ← ha]
  exact h.effects

lemma StepOk.of_looked (hl : Looked s s') (h : StepOk rules s' c) : StepOk rules s c :=
  h.of_eq hl.trace hl.armedRules

lemma StepOk.silent (h : Inv rules c) (ht : c.state.trace = s.trace) : StepOk rules s c :=
  ⟨h, [], by simp [ht], by simp⟩

lemma Progress.later (ha : s'.armedRules = s.armedRules) (hi : s'.ruleIndex = s.ruleIndex) (hc : s.clock ≤ s'.clock)
    (h : Progress w s' c) : Progress w s c := by
  rcases c with ⟨_ | ⟨_ | _ | _⟩ | _, t⟩
  · exact ⟨h.1.trans (congrArg (· + 1) hi), hi ▸ h.2.1, hc.trans h.2.2⟩
  · exact ⟨h.1.trans hi, hc.trans_lt h.2.1, hc.trans_lt h.2.2⟩
  · exact ⟨h.1.trans hi, ha ▸ h.2.1, hc.trans h.2.2⟩
  · trivial
  · trivial

lemma WalkOk.of_looked (hl : Looked s s') (h : WalkOk w s' c) : WalkOk w s c :=
  ⟨.of_looked hl h.toStepOk, h.progress.later hl.armedRules hl.ruleIndex hl.clock⟩

section
variable (h : Running w.router.rules s)
include h

lemma Running.step_next (hlt : s.ruleIndex < w.router.rules.length) : WalkOk w s s.next := by
  refine ⟨.silent ?_ rfl, rfl, hlt, Nat.le_succ _⟩
  exact { indexed := { h.indexed with }
          orderly := h.orderly, nodup := h.nodup, noDefault := h.noDefault, armed := h.armed, waiting := h.waiting
          position := ⟨hlt, h.position.2.trans (by simp only [WalkState.next, tick]; omega)⟩
          launched := fun i hi => by
            obtain ⟨hn, hlt | ⟨rfl, -⟩⟩ := h.launched i hi
            · exact ⟨hn, .inl (Nat.lt_succ_of_lt hlt)⟩
            · exact ⟨hn, .inl (Nat.lt_succ_self _)⟩ }

lemma Running.next_congr (hlt : s.ruleIndex < w.router.rules.length) (hx : Indexed s')
    (ht : s'.trace = s.trace) (hi : s'.ruleIndex = s.ruleIndex)
    (hf : s'.futures = s.futures) (ha : s'.armedRules = s.armedRules) (hk : s'.terminalFuture = s.terminalFuture)
    (hki : s'.terminalIndex = s.terminalIndex) (hc : s'.clock = s.clock) : WalkOk w s s'.next :=
  have hnext := (h.congr hx ht hi hf ha hk hki).step_next (hi ▸ hlt)
  ⟨.of_eq ht ha hnext.toStepOk, hnext.progress.later ha hi hc.ge⟩

lemma Running.await (hl : Looked s s') (hk : k < s.futures.length) (hc : s.clock < w.sched k) :
    WalkOk w s (s'.suspend (.await k)) :=
  ⟨.silent ⟨h.looked (hl.trans (.tick s')), hl.futures ▸ hk⟩ hl.trace, hl.ruleIndex, Nat.lt_succ_of_le hl.clock, hc⟩

lemma Running.drain (ha : s.armedRules.length > 0) : WalkOk w s (s.suspend .drain) :=
  ⟨.silent (h.looked (.tick s)) rfl, rfl, ne_nil_of_length_pos ha, Nat.le_succ _⟩

lemma Running.allDismissed (ha : s.armedRules = []) : AllDismissed s.trace := by
  intro j hj
  rcases h.waiting j hj with hd | ⟨a, hmem, -⟩
  · exact hd
  rw [ha] at hmem
  cases hmem

lemma Running.effect (ha : s.armedRules = []) (i : Option Nat) : Running w.router.rules (s.record (.effect i)) where
  indexed := { h.indexed with }
  __ := h
  orderly := h.orderly.snoc fun _ _ _ => h.allDismissed ha
  nodup := by simpa [record, launches] using h.nodup
  noDefault := by simpa [record] using h.noDefault
  launched i hi := h.launched i (by simpa [record] using hi)
  waiting j hj := by
    rcases h.waiting j (by simpa [record] using hj) with ⟨reason, hd⟩ | hw
    · exact .inl ⟨reason, by simp [record, hd]⟩
    · exact .inr hw

omit h in
lemma WalkOk.of_effect (ha : s.armedRules = []) (h : WalkOk w (s.record (.effect i)) c) :
    WalkOk w s c := by
  obtain ⟨ev, hev, -⟩ := h.effects
  exact ⟨⟨h.inv, .effect i :: ev, by simp [hev, record], fun _ _ _ => ha⟩, h.progress⟩

lemma Running.finish (o : Outcome) : WalkOk w s (s.finish o) := ⟨.silent h.ending rfl, trivial⟩

lemma Running.pending (ha : s.armedRules = [])
    (hp : p.future = none → .launched p.rule ∉ s.trace) (hk : ∀ k, p.future = some k → k < s.futures.length) :
    WalkOk w s (s.suspend (.pending p)) :=
  ⟨.silent ⟨⟨h.orderly, h.nodup⟩, ha, hp, hk⟩ rfl, trivial⟩

omit h in
lemma launch_nodup (h : (launches t).Nodup) (hi : .launched i ∉ t) :
    (launches (t ++ [.launched i])).Nodup := by
  rw [launches_append]
  refine h.append (nodup_singleton i) ?_
  rintro j hj hj'
  obtain rfl := mem_singleton.1 hj'
  exact hi (mem_launches.1 hj)

lemma Running.fresh (hi : ¬RouteAt w.router.rules s.ruleIndex ∨ s.terminalFuture = none ∨ s.terminalIndex ≠ s.ruleIndex) :
    .launched (some s.ruleIndex) ∉ s.trace := by
  intro hl
  obtain ⟨-, hlt | ⟨-, hk, hindex, hroute⟩⟩ := h.launched _ hl
  · exact lt_irrefl _ hlt
  rcases hi with hi | hi | hi
  · exact hi hroute
  · simp [hi] at hk
  · exact hi hindex

lemma Running.launch (hn : NotRace w.router.rules (some s.ruleIndex))
    (hf : .launched (some s.ruleIndex) ∉ s.trace) (ht : s'.trace = s.trace ++ [.launched (some s.ruleIndex)])
    (ha : s'.armedRules = s.armedRules) (hx : Indexed s')
    (hpos : s'.ruleIndex ≤ w.router.rules.length ∧ s'.futures.length ≤ s'.ruleIndex + s'.terminalFuture.isSome.toNat)
    (hi : s.ruleIndex < s'.ruleIndex ∨
      s'.ruleIndex = s.ruleIndex ∧ s'.terminalFuture.isSome ∧ s'.terminalIndex = s.ruleIndex ∧
        RouteAt w.router.rules s.ruleIndex ∧ s.terminalFuture = none) : Running w.router.rules s' where
  indexed := hx
  position := hpos
  orderly := by rw [ht]; exact h.orderly.append (by simp)
  nodup := by rw [ht]; exact launch_nodup h.nodup hf
  noDefault := by rw [ht]; simpa using h.noDefault
  launched i hl := by
    rw [ht, mem_append, mem_singleton] at hl
    rcases hl with hl | hl
    · obtain ⟨hni, hlt | ⟨rfl, hk', -⟩⟩ := h.launched i hl
      · refine ⟨hni, .inl ?_⟩
        rcases hi with hi | ⟨hi, -⟩ <;> omega
      rcases hi with hi | ⟨-, -, -, -, hnone⟩
      · exact ⟨hni, .inl hi⟩
      · simp [hnone] at hk'
    · obtain rfl : i = s.ruleIndex := by simpa using hl
      rcases hi with hi | ⟨hi, hsome, hindex, hroute, -⟩
      · exact ⟨hn, .inl hi⟩
      · exact ⟨hn, .inr ⟨hi.symm, hsome, hindex, hroute⟩⟩
  armed := by rw [ha]; exact h.armed
  waiting j hj := by
    rw [ht] at hj ⊢
    rw [ha]
    rcases h.waiting j (by simpa using hj) with ⟨reason, hd⟩ | hw
    · exact .inl ⟨reason, mem_append_left _ hd⟩
    · exact .inr hw

end

lemma WalkOk.launches (h : Inv w.router.rules c) (ht : c.state.trace = s.trace ++ [.launched i])
    (hp : Progress w s c) : WalkOk w s c :=
  ⟨⟨h, _, ht, by simp⟩, hp⟩

end

/-! ## Actions -/

namespace Walk
variable {w : Walk} {s : WalkState} (h : Running w.router.rules s)
include h

omit h in
lemma futures_lt (f : Future) : s.futures.length < (s.futures ++ [f]).length := by simp

lemma evaluate_ok (hlt : s.ruleIndex < w.router.rules.length) (hn : NotRace w.router.rules (some s.ruleIndex))
    (hr : ¬RouteAt w.router.rules s.ruleIndex) (tag : String) (transport : Transport) (options : RouteOptions) :
    WalkOk w s (w.evaluate s tag transport options) := by
  have hfresh := h.fresh (.inl hr)
  have hlen (f : Future) : (s.futures ++ [f]).length = s.futures.length + 1 := by simp
  have hpos := h.position.2
  simp only [evaluate]
  split
  · refine .launches (h.launch hn hfresh rfl rfl (h.indexed.mono ?_ ?_ ?_ rfl ?_) ⟨hlt, ?_⟩
      (.inl (Nat.lt_succ_self _))) rfl ⟨rfl, hlt, Nat.le_succ _⟩
    · exact (futures_lt _).le
    · exact fun tag k hk => .inl hk
    · rintro k ⟨⟩
      exact .inr (futures_lt _)
    · exact fun k hk => .inl hk
    · exact (hlen _).le.trans (by simp only [WalkState.next, tick]; simp [launchDNSEvaluate, record]; omega)
  · refine .launches (h.launch hn hfresh rfl rfl (h.indexed.mono ?_ ?_ ?_ rfl ?_) ⟨hlt, ?_⟩
      (.inl (Nat.lt_succ_self _))) rfl ⟨rfl, hlt, Nat.le_succ _⟩
    · exact (futures_lt _).le
    · intro tag' k hk
      simp only [WalkState.next, tick, launchDNSEvaluate, record, Function.update_apply] at hk
      split at hk
      · cases hk
        exact .inr (futures_lt _)
      · exact .inl hk
    · exact fun k hk => .inl hk
    · exact fun k hk => .inl hk
    · exact (hlen _).le.trans (by simp only [WalkState.next, tick]; simp [launchDNSEvaluate, record]; omega)

lemma terminal_ok {act : WalkState → Config}
    (hact : s.armedRules = [] → WalkOk w (s.record (.effect (some s.ruleIndex)))
      (act (s.record (.effect (some s.ruleIndex))))) :
    WalkOk w s (terminal s act) := by
  simp only [terminal]
  split
  next hlen => exact h.drain hlen
  next hlen =>
    have ha : s.armedRules = [] := by simpa using hlen
    exact .of_effect ha (hact ha)

lemma route_ok (hn : NotRace w.router.rules (some s.ruleIndex)) (hr : RouteAt w.router.rules s.ruleIndex)
    (transport : Transport) (options : Route.DNSQueryOptions) (speculative : Bool) :
    WalkOk w s (w.route s transport options speculative) := by
  simp only [route]
  split
  next harmed =>
    split
    next hspec =>
      have hnone : s.terminalFuture = none := by
        simp only [Bool.and_eq_true, Option.isNone_iff_eq_none] at hspec
        exact hspec.2
      have hlen (f : Future) : (s.futures ++ [f]).length = s.futures.length + 1 := by simp
      have hpos := h.position
      rw [hnone] at hpos
      refine .launches (h.launch hn (h.fresh (.inr (.inl hnone))) rfl rfl (h.indexed.mono ?_ ?_ ?_ rfl ?_)
        ⟨hpos.1, (hlen _).le.trans (Nat.succ_le_succ hpos.2)⟩ (.inr ⟨rfl, rfl, rfl, hr, hnone⟩)) rfl
        ⟨rfl, ne_nil_of_length_pos harmed, Nat.le_succ _⟩
      · exact (futures_lt _).le
      · exact fun tag k hk => .inl hk
      · exact fun k hk => .inl hk
      rintro k ⟨⟩
      exact .inr (futures_lt _)
    · exact h.drain harmed
  next hlen =>
    have ha : s.armedRules = [] := by simpa using hlen
    have he := h.effect ha (some s.ruleIndex)
    refine .of_effect ha (i := some s.ruleIndex) ?_
    split
    next k hk =>
      split
      · refine he.pending ha (fun hf => by cases hf) fun k' hk' => ?_
        cases hk'
        exact he.indexed.terminal k hk
      next hindex =>
        exact he.pending ha (fun _ => he.fresh (.inr (.inr hindex))) fun k hk => by cases hk
    next hnone => exact he.pending ha (fun _ => he.fresh (.inr (.inl hnone))) fun k hk => by cases hk

section
variable {rule : DNSRule} (hrule : w.router.rules[s.ruleIndex]? = some rule) (hrace : rule.race = false)
include hrule hrace

lemma act_ok : WalkOk w s (w.act rule s) := by
  have hlt : s.ruleIndex < w.router.rules.length := (List.getElem?_eq_some_iff.1 hrule).1
  have hn : NotRace w.router.rules (some s.ruleIndex) := by
    intro rule' h'
    obtain rfl : rule = rule' := Option.some.inj (hrule.symm.trans h')
    exact hrace
  have hroute : RouteAt w.router.rules s.ruleIndex →
      ∃ server options speculative, rule.action = .route server options speculative := by
    rintro ⟨rule', server, options, speculative, h', haction⟩
    obtain rfl : rule = rule' := Option.some.inj (hrule.symm.trans h')
    exact ⟨_, _, _, haction⟩
  cases haction : rule.action with
  | routeOptions options =>
    simp only [act, haction]
    exact h.next_congr hlt (h.indexed.mono le_rfl (fun _ _ => .inl) (fun _ => .inl) rfl fun _ => .inl)
      rfl rfl rfl rfl rfl rfl rfl
  | evaluate server tag options speculative =>
    have hr : ¬RouteAt w.router.rules s.ruleIndex := fun hr => by simp [haction] at hroute; exact hroute hr
    simp only [act, haction]
    split
    · split
      · exact h.next_congr hlt
          (h.indexed.mono le_rfl (fun _ _ => .inl) (fun k hk => by cases hk) rfl fun _ => .inl)
          rfl rfl rfl rfl rfl rfl rfl
      · exact h.step_next hlt
    next transport _ =>
      split
      · exact evaluate_ok h hlt hn hr tag transport options
      · exact terminal_ok h fun ha => evaluate_ok (h.effect ha _) hlt hn hr tag transport options
  | respond =>
    simp only [act, haction]
    split
    next hlen => exact h.drain hlen
    next hlen =>
      have ha : s.armedRules = [] := by simpa using hlen
      split
      next k hk =>
        simp only [respondAwait] at hk
        split at hk
        · cases hk
        obtain ⟨hk, hres⟩ := Option.filter_eq_some_iff.1 hk
        exact h.await (.refl s) (h.indexed.anonymous k hk) (by simpa [resolved] using hres)
      · have he := (h.looked (.tick s)).effect ha (some s.ruleIndex)
        refine .of_looked (.tick s) (.of_effect ha (i := some s.ruleIndex) ?_)
        simp only [respond]
        split
        · exact he.finish _
        · exact he.finish _
  | route server options speculative =>
    simp only [act, haction]
    split
    · exact h.step_next hlt
    next transport options' _ =>
      exact route_ok h hn ⟨rule, server, options, speculative, hrule, haction⟩ transport options' speculative
  | reject action | predefined action =>
    simp only [act, haction]
    exact terminal_ok h fun ha => (h.effect ha _).finish _

lemma examineRule_ok : WalkOk w s (w.examineRule rule s) := by
  have hlt : s.ruleIndex < w.router.rules.length := (List.getElem?_eq_some_iff.1 hrule).1
  have hlook := bindings_looked w.sched rule.rule s
  simp only [examineRule]
  split
  next k s' heq =>
    rw [heq] at hlook
    split at heq
    · obtain ⟨hk, hclock⟩ := visit_some w.sched (congrArg Prod.fst heq)
      exact h.await hlook (h.indexed.bound hk) hclock
    · cases heq
  next s' heq =>
    rw [heq] at hlook
    have hexam := hlook.trans (examine_looked w.router.env rule.rule (s'.anonymousResponse w.sched) s')
    split
    · exact .of_looked hexam (act_ok (h.looked hexam) (by rw [hexam.ruleIndex]; exact hrule) hrace)
    · exact .of_looked hexam ((h.looked hexam).step_next (hexam.ruleIndex ▸ hlt))

end

/-! ## Sweeps keep the invariant -/

lemma sweep_passed (heq : w.sweepArmedDNSRules s = (none, s')) :
    Running w.router.rules s' ∧ Looked s (s'.planOf s) ∧
      ∃ ev, s'.trace = s.trace ++ ev ∧ ∀ i, .effect i ∉ ev := by
  have hs := w.sweep_swept h.raceable [] s
  rw [← sweepArmedDNSRules, heq] at hs
  obtain ⟨ds, ht, hds, hsub, -, htodo⟩ := hs.passed rfl
  have hl := hs.looked
  have hsilent : ∀ e ∈ ds, (∀ i, e ≠ .effect i) ∧ (∀ i, e ≠ .launched i) ∧ ∀ j, e ≠ .armed j := by
    intro e he
    obtain ⟨j, reason, rfl⟩ := hds e he
    simp
  have harmed : ∀ a ∈ s'.armedRules, a ∈ s.armedRules := fun a ha => (hsub a ha).resolve_left (by simp)
  refine ⟨?_, hl, ds, ht, fun i hi => (hsilent _ hi).1 i rfl⟩
  have hlen : s'.futures = s.futures := hl.futures
  exact {
    indexed := ⟨by rw [hlen]; exact hl.namedFutures ▸ h.indexed.named,
      by rw [hlen]; exact hl.anonymousFuture ▸ h.indexed.anonymous,
      by rw [hlen]; exact fun a ha => h.indexed.armed a (harmed a ha),
      by rw [hlen]; exact hl.terminalFuture ▸ h.indexed.terminal⟩
    position := by
      have := h.position
      rwa [← hl.ruleIndex, ← hl.terminalFuture, ← hl.futures] at this
    orderly := by rw [ht]; exact h.orderly.append fun e he => (hsilent e he).1
    nodup := by rw [ht, launches_append, launches_eq_nil fun e he => (hsilent e he).2.1, append_nil]; exact h.nodup
    noDefault := by
      rw [ht, mem_append]
      rintro (hm | hm)
      · exact h.noDefault hm
      · exact (hsilent _ hm).2.1 _ rfl
    launched := fun i hi => by
      rw [ht, mem_append] at hi
      have hi := hi.resolve_right fun hm => (hsilent _ hm).2.1 _ rfl
      have := h.launched i hi
      rwa [← hl.ruleIndex, ← hl.terminalFuture, ← hl.terminalIndex] at this
    armed := fun a ha => h.armed a (harmed a ha)
    waiting := fun j hj => by
      rw [ht] at hj ⊢
      have hj := (mem_append.1 hj).resolve_right fun hm => (hsilent _ hm).2.2 _ rfl
      rcases h.waiting j hj with ⟨reason, hd⟩ | ⟨a, ha, rfl⟩
      · exact .inl ⟨reason, mem_append_left _ hd⟩
      rcases htodo a ha with ha | ⟨reason, hd⟩
      · exact .inr ⟨a, ha, rfl⟩
      · exact .inl ⟨reason, mem_append_right _ hd⟩ }

lemma sweep_committed {commit : Commit} (heq : w.sweepArmedDNSRules s = (some commit, s')) :
    Ending w.router.rules s' ∧ (∀ p, commit = .pending p → p.future = none ∧ .launched p.rule ∉ s'.trace) ∧
      ∃ ev, s'.trace = s.trace ++ ev ∧ ∀ i, .effect i ∈ ev → ¬NotRace w.router.rules i := by
  have hs := w.sweep_swept h.raceable [] s
  rw [← sweepArmedDNSRules, heq] at hs
  obtain ⟨a, ha, ds, ht, hds, hp⟩ := hs.committed commit rfl
  obtain ⟨hrule, hrace⟩ := h.armed a ha
  have hnot : ¬NotRace w.router.rules (some a.ruleIndex) := fun hn => by
    simp [hn a.rule hrule] at hrace
  have hsilent : ∀ e ∈ ds, (∀ i, e ≠ .effect i) ∧ ∀ i, e ≠ .launched i := by
    intro e he
    obtain ⟨j, reason, rfl⟩ := hds e he
    simp
  refine ⟨⟨?_, ?_⟩, fun p hc => ?_, ds ++ [.effect (some a.ruleIndex)], by rw [← append_assoc]; exact ht,
    fun i hi => ?_⟩
  · rw [ht]
    refine (h.orderly.append fun e he => (hsilent e he).1).snoc fun i hi hn => ?_
    obtain rfl : some a.ruleIndex = i := by simpa using hi
    exact absurd hn hnot
  · have hlaunch : launches s'.trace = launches s.trace := by
      rw [ht, launches_append, launches_append, launches_eq_nil fun e he => (hsilent e he).2, append_nil]
      exact append_nil _
    rw [hlaunch]
    exact h.nodup
  · obtain ⟨hf, hi⟩ := hp p hc
    refine ⟨hf, fun hm => ?_⟩
    rw [hi, ht] at hm
    have hm : .launched (some a.ruleIndex) ∈ s.trace := by
      simp only [mem_append, mem_singleton, reduceCtorEq, or_false] at hm
      exact hm.resolve_right fun hm => (hsilent _ hm).2 _ rfl
    exact hnot (h.launched _ hm).1
  · rcases mem_append.1 hi with hi | hi
    · exact absurd rfl ((hsilent _ hi).1 i)
    obtain rfl : i = some a.ruleIndex := by simpa using hi
    exact hnot

omit h in
lemma stepOk_of_race {ev : List Event} (hinv : Inv w.router.rules c)
    (ht : c.state.trace = s.trace ++ ev) (hev : ∀ i, .effect i ∈ ev → ¬NotRace w.router.rules i) :
    StepOk w.router.rules s c :=
  ⟨hinv, ev, ht, fun i hi hn => absurd hn (hev i hi)⟩

omit h in
lemma finishPendingExchange_ok (h : Ending w.router.rules s)
    (hp : p.future = none → .launched p.rule ∉ s.trace) (hk : ∀ k, p.future = some k → k < s.futures.length) :
    Inv w.router.rules (w.finishPendingExchange s p) ∧
      ∃ ev, (w.finishPendingExchange s p).state.trace = s.trace ++ ev ∧ ∀ i, .effect i ∉ ev := by
  simp only [finishPendingExchange]
  cases hf : p.future.bind (s.futures[·]?) with
  | some future => exact ⟨h, [], by simp [finish], by simp⟩
  | none =>
    have hnone : p.future = none := by
      cases hfuture : p.future with
      | none => rfl
      | some k => simp [hfuture, hk k hfuture] at hf
    refine ⟨⟨h.orderly.append (by simp), launch_nodup h.nodup (hp hnone)⟩, [.launched p.rule], rfl, by simp⟩

lemma armed_running (hrule : w.router.rules[a.ruleIndex]? = some a.rule) (hrace : a.rule.race = true)
    (hk : ∀ k ∈ a.futures, k < s.futures.length) :
    Running w.router.rules ({ s with armedRules := s.armedRules ++ [a] }.record (.armed a.ruleIndex)) where
  indexed := by
    refine { h.indexed with armed := fun b hb => ?_ }
    rcases mem_append.1 hb with hb | hb
    · exact h.indexed.armed b hb
    obtain rfl := mem_singleton.1 hb
    exact hk
  position := h.position
  orderly := h.orderly.append (by simp)
  nodup := by simpa [record, launches] using h.nodup
  noDefault := by simpa [record] using h.noDefault
  launched i hi := h.launched i (by simpa [record] using hi)
  armed := by
    intro b hb
    rcases mem_append.1 hb with hb | hb
    · exact h.armed b hb
    obtain rfl := mem_singleton.1 hb
    exact ⟨hrule, hrace⟩
  waiting j hj := by
    rcases mem_append.1 hj with hj | hj
    · rcases h.waiting j hj with ⟨reason, hd⟩ | ⟨b, hb, rfl⟩
      · exact .inl ⟨reason, mem_append_left _ hd⟩
      · exact .inr ⟨b, mem_append_left _ hb, rfl⟩
    · obtain rfl : j = a.ruleIndex := by simpa using hj
      exact .inr ⟨a, by simp [record], rfl⟩

lemma afterSweep_ok {s₀ : WalkState} (hlt : s₀.ruleIndex < w.router.rules.length) (hi : s.ruleIndex = s₀.ruleIndex)
    (hc : s₀.clock ≤ s.clock) : StepOk w.router.rules s (afterSweep (w.sweepArmedDNSRules s)) ∧
      Progress w s₀ (afterSweep (w.sweepArmedDNSRules s)) := by
  cases heq : w.sweepArmedDNSRules s with
  | mk commit s' =>
    cases commit with
    | none =>
      obtain ⟨hrun, hl, ev, ht, hev⟩ := sweep_passed h heq
      have hindex : s'.ruleIndex = s₀.ruleIndex := hl.ruleIndex.trans hi
      exact ⟨stepOk_of_race (hrun.step_next (hindex ▸ hlt)).inv ht fun i hi => absurd hi (hev i),
        congrArg (· + 1) hindex, hlt, hc.trans (hl.clock.trans (Nat.le_succ _))⟩
    | some commit =>
      obtain ⟨hend, hp, ev, ht, hev⟩ := sweep_committed h heq
      cases commit with
      | outcome o => exact ⟨stepOk_of_race hend ht hev, trivial⟩
      | pending p =>
        obtain ⟨hf, hnew⟩ := hp p rfl
        refine ⟨stepOk_of_race ⟨⟨hend.orderly, hend.nodup⟩, rfl, fun _ => hnew, fun k hk => ?_⟩ ht hev, trivial⟩
        rw [hf] at hk
        cases hk

section
variable {rule : DNSRule} (hrule : w.router.rules[s.ruleIndex]? = some rule) (hrace : rule.race = true)
include hrule hrace

lemma arm_running : let settled := s.settleDNSFutures w.sched
    let looked := settled.pendingFutures w.sched (settled.boundFutures rule.rule)
    let armed : ArmedRule :=
      { ruleIndex := looked.2.ruleIndex, rule, futures := looked.1,
        anonymousFuture := if rule.rule.matchResponseAnonymous then looked.2.anonymousFuture else none,
        bindsAnonymous := rule.rule.matchResponseAnonymous, options := looked.2.effectiveOptions }
    Looked s looked.2 ∧ Running w.router.rules
      ({ looked.2 with armedRules := looked.2.armedRules ++ [armed] }.record (.armed looked.2.ruleIndex)) := by
  have hsettle := settle_looked w.sched s
  have hlook := hsettle.trans (pendingFutures_looked w.sched
    ((s.settleDNSFutures w.sched).boundFutures rule.rule) (s.settleDNSFutures w.sched))
  refine ⟨hlook, armed_running (h.looked hlook) (by rw [hlook.ruleIndex]; exact hrule) hrace fun k hk => ?_⟩
  rw [hlook.futures, ← hsettle.futures]
  exact (h.looked hsettle).indexed.bound (pendingFutures_mem w.sched hk).1

lemma arm_ok : WalkOk w s (w.arm rule s) := by
  obtain ⟨hlook, hrun⟩ := arm_running h hrule hrace
  have hlt : s.ruleIndex < w.router.rules.length := (List.getElem?_eq_some_iff.1 hrule).1
  -- arming adds to the record, then the sweep does
  have harm {a : ArmedRule} {s' : WalkState} (hl : Looked s s') {c : Config}
      (hc : StepOk w.router.rules ({ s' with armedRules := s'.armedRules ++ [a] }.record (.armed s'.ruleIndex)) c) :
      StepOk w.router.rules s c := by
    obtain ⟨ev, ht, hev⟩ := hc.effects
    refine ⟨hc.inv, .armed s'.ruleIndex :: ev, by simp [ht, record, hl.trace], fun i hi hn => ?_⟩
    have := hev i (by simpa using hi) hn
    simp [record] at this
  simp only [arm]
  split
  · obtain ⟨hok, hprogress⟩ := afterSweep_ok hrun hlt hlook.ruleIndex hlook.clock
    exact ⟨harm hlook hok, hprogress⟩
  · exact ⟨harm hlook (hrun.step_next (hlook.ruleIndex ▸ hlt)).toStepOk, congrArg (· + 1) hlook.ruleIndex, hlt,
      hlook.clock.trans (Nat.le_succ _)⟩

end

lemma walkStep_ok : WalkOk w s (w.walkStep s) := by
  simp only [walkStep]
  split
  · split
    next hlen => exact h.drain hlen
    next hlen =>
      have ha : s.armedRules = [] := by simpa using hlen
      have he := h.effect ha none
      exact .of_effect ha (i := none) (he.pending ha (fun _ => he.noDefault) fun k hk => by cases hk)
  next rule hrule =>
    split
    · exact h.step_next (List.getElem?_eq_some_iff.1 hrule).1
    split
    next hrace =>
      simp only [Bool.and_eq_true] at hrace
      exact arm_ok h hrule hrace.2
    next hrace =>
      refine examineRule_ok h hrule ?_
      by_contra hr
      simp only [Bool.not_eq_false] at hr
      simp [hr, (rule.race_valid hr).2] at hrace

lemma resume_running_ok (suspension : Suspension) (hs : ∀ p, suspension ≠ .pending p)
    (hk : ∀ k, suspension = .await k → k < s.futures.length) :
    StepOk w.router.rules s (w.resumeStep suspension s) := by
  have hl := settle_looked w.sched s
  refine .of_looked hl ?_
  simp only [resumeStep]
  cases heq : w.sweepArmedDNSRules (s.settleDNSFutures w.sched) with
  | mk commit s' =>
    cases commit with
    | none =>
      obtain ⟨hrun, hl', ev, ht, hev⟩ := sweep_passed (h.looked hl) heq
      have hev : ∀ i, Event.effect i ∈ ev → ¬NotRace w.router.rules i := fun i hi => absurd hi (hev i)
      have hwalk : StepOk w.router.rules (s.settleDNSFutures w.sched) ⟨.walk, s'.tick⟩ :=
        stepOk_of_race (hrun.looked (.tick s')) ht hev
      cases suspension with
      | pending p => exact absurd rfl (hs p)
      | await k =>
        dsimp only
        split
        · exact hwalk
        have hlen : s'.futures = s.futures := hl'.futures.trans hl.futures
        exact stepOk_of_race ⟨hrun.looked (.tick s'), hlen ▸ hk k rfl⟩ ht hev
      | drain =>
        dsimp only
        split
        · exact stepOk_of_race (hrun.looked (.tick s')) ht hev
        · exact hwalk
    | some commit =>
      obtain ⟨hend, hp, ev, ht, hev⟩ := sweep_committed (h.looked hl) heq
      cases commit with
      | outcome o => exact stepOk_of_race hend ht hev
      | pending p =>
        obtain ⟨hf, hnew⟩ := hp p rfl
        obtain ⟨hinv, ev', ht', hev'⟩ := finishPendingExchange_ok (w := w) hend (fun _ => hnew)
          fun k hk => by rw [hf] at hk; cases hk
        refine ⟨hinv, ev ++ ev', by rw [ht', ht, append_assoc], fun i hi hn => absurd hn ?_⟩
        exact hev i ((mem_append.1 hi).resolve_right (hev' i))

omit h in
@[simp] lemma sweep_unarmed (ha : s.armedRules = []) : w.sweepArmedDNSRules s = (none, s) := by
  rw [sweepArmedDNSRules, ha, sweep, ← ha]

omit h in
lemma step_ok (h : Inv w.router.rules c) : StepOk w.router.rules c.state (w.step c) := by
  obtain ⟨control, s⟩ := c
  cases control with
  | walk => exact (walkStep_ok h).toStepOk
  | finished o => exact .silent h rfl
  | resume suspension =>
    cases suspension with
    | await k =>
      refine resume_running_ok h.1 (.await k) (by simp) ?_
      rintro _ ⟨⟩
      exact h.2
    | drain => exact resume_running_ok h .drain (by simp) (by simp)
    | pending p =>
      obtain ⟨hend, ha, hp, hk⟩ := h
      have hl := settle_looked w.sched s
      refine .of_looked hl ?_
      simp only [step, resumeStep, sweep_unarmed (hl.armedRules.trans ha)]
      obtain ⟨hinv, ev, ht, hev⟩ := finishPendingExchange_ok (w := w) (s := s.settleDNSFutures w.sched) (p := p)
        ⟨by rw [hl.trace]; exact hend.orderly, by rw [hl.trace]; exact hend.nodup⟩
        (by rw [hl.trace]; exact hp) (by rw [hl.futures]; exact hk)
      exact ⟨hinv, ev, ht, fun i hi => absurd hi (hev i)⟩

end Walk
end SingBox.Dns
