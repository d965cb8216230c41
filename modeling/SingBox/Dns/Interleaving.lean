import SingBox.Dns.Termination
import SingBox.Dns.Validation
/-!
# Interleavings of a walk without race rules

A walk reads a tagged response in two ways: whether it is there from the live
future, and what it is from the snapshot `settleDNSFutures` took before. When no
exchange completes between the two looks of one visit, every interleaving gives
the result of the schedule in which each exchange completes at once.
-/
namespace SingBox.Dns
open List Function
variable {f : Future} {k : Nat} {s' : WalkState} {d d' : Option Msg} {c c' : Config} {o : Outcome}

/-! ## Settling -/

/-- Tags name futures one to one, and the snapshot holds the settled ones. -/
structure Named (s : WalkState) : Prop where
  futures : ∀ tag k, s.namedFutures tag = some k ↔ tag ≠ "" ∧ ∃ f, s.futures[k]? = some f ∧ f.tag = tag
  responses : ∀ tag, s.namedResponses tag =
    (s.namedFutures tag).bind fun k => if s.settled k then s.responseOf k else none
  transports : ∀ tag, s.namedTransports tag =
    (s.namedFutures tag).bind fun k => if s.settled k then s.transportOf k else none
  unsettled : ∀ k, s.futures.length ≤ k → s.settled k = false

open WalkState Walk

section
variable (sched : Schedule) {s : WalkState}

lemma Named.tick (h : Named s) : Named s.tick := { h with }

lemma settleFuture_named (h : Named s) (hf : s.futures[k]? = some f) :
    Named (s.settleFuture sched (f, k)) ∧
      ∀ j, (s.settleFuture sched (f, k)).settled j = (s.settled j || (j == k && s.resolved sched k)) := by
  by_cases hskip : s.settled k || !s.resolved sched k
  · simp only [settleFuture, hskip, if_true]
    refine ⟨h.tick, fun j => ?_⟩
    by_cases hj : j = k
    · subst hj
      cases hset : s.settled j <;> simp_all [tick]
    · simp [tick, hj]
  · obtain ⟨hset, hres⟩ : s.settled k = false ∧ s.resolved sched k = true := by simpa using hskip
    have hsettled (j : Nat) : update s.settled k true j = (s.settled j || (j == k && s.resolved sched k)) := by
      by_cases hj : j = k <;> simp [hj, hres]
    have hlen : k < s.futures.length := (List.getElem?_eq_some_iff.1 hf).1
    have hunsettled (j : Nat) (hj : s.futures.length ≤ j) : update s.settled k true j = false := by
      rw [update_of_ne (by omega), h.unsettled j hj]
    have hview : s.view sched k = f.outcome.toOption := by simp [view, hres, responseOf, hf]
    simp only [settleFuture, hskip, Bool.false_eq_true, if_false]
    -- another tag names another future, whose flag stays
    have hother {α : Type} {tag : String} (htag : f.tag = "" ∨ f.tag ≠ tag) (g : Nat → Option α) :
        ((s.namedFutures tag).bind fun j => if s.settled j then g j else none) =
          (s.namedFutures tag).bind fun j => if update s.settled k true j then g j else none := by
      cases hj : s.namedFutures tag with
      | none => rfl
      | some j =>
        have hjk : j ≠ k := by
          rintro rfl
          obtain ⟨hne, f', hf', rfl⟩ := (h.futures tag j).1 hj
          obtain rfl := Option.some.inj (hf.symm.trans hf')
          exact htag.elim hne fun h => h rfl
        simp [update_apply, hjk]
    split
    next hempty =>
      exact ⟨⟨h.futures, fun tag => (h.responses tag).trans (hother (.inl hempty) s.responseOf),
        fun tag => (h.transports tag).trans (hother (.inl hempty) s.transportOf), hunsettled⟩, hsettled⟩
    next htagged =>
      have hk : s.namedFutures f.tag = some k := (h.futures f.tag k).2 ⟨htagged, f, hf, rfl⟩
      refine ⟨⟨h.futures, fun tag => ?_, fun tag => ?_, hunsettled⟩, hsettled⟩
      · by_cases ht : tag = f.tag
        · subst ht
          simp [tick, hk, responseOf, hf, view, resolved] at hview ⊢
          exact hview
        · simp only [update_of_ne ht]
          exact (h.responses tag).trans (hother (.inr (Ne.symm ht)) s.responseOf)
      · by_cases ht : tag = f.tag
        · subst ht
          simp [tick, hk, transportOf, hf]
        simp only [update_of_ne ht]
        exact (h.transports tag).trans (hother (.inr (Ne.symm ht)) s.transportOf)

lemma settle_named (h : Named s) : Named (s.settleDNSFutures sched) ∧
      ∀ k, k < s.futures.length → ((s.settleDNSFutures sched).settled k = true ↔
        s.settled k = true ∨ sched k ≤ s.clock + k) := by
  -- over the futures from position `i` on
  have hfold (l : List Future) (i : Nat) (t : WalkState) (ht : Named t) (hl : ∀ j, l[j]? = t.futures[i + j]?)
      (hc : t.clock = s.clock + i) :
      Named ((l.zipIdx i).foldl (settleFuture sched) t) ∧
        ∀ k, ((l.zipIdx i).foldl (settleFuture sched) t).settled k = true ↔
          t.settled k = true ∨ (i ≤ k ∧ k < i + l.length ∧ sched k ≤ s.clock + k) := by
    induction l generalizing i t with
    | nil => exact ⟨ht, fun k => by simp; omega⟩
    | cons f l ih =>
      have hf : t.futures[i]? = some f := by simpa using (hl 0).symm
      obtain ⟨hn, hset⟩ := settleFuture_named sched ht hf
      have hlook := settleFuture_looked sched t (f, i)
      obtain ⟨hn', hset'⟩ := ih (i + 1) (t.settleFuture sched (f, i)) hn
        (fun j => by rw [hlook.futures]; simpa [Nat.add_assoc, Nat.add_comm 1] using hl (j + 1))
        (by rw [settleFuture_clock, hc]; omega)
      refine ⟨hn', fun k => ?_⟩
      rw [zipIdx_cons, foldl_cons, hset' k, hset k]
      simp only [Bool.or_eq_true, Bool.and_eq_true, beq_iff_eq, resolved, decide_eq_true_eq, hc, length_cons]
      constructor
      · rintro ((h | ⟨rfl, h⟩) | h)
        · exact .inl h
        · exact .inr ⟨le_rfl, by omega, h⟩
        · exact .inr ⟨by omega, by omega, h.2.2⟩
      rintro (h | ⟨h₁, h₂, h₃⟩)
      · exact .inl (.inl h)
      by_cases hik : k = i
      · subst hik
        exact .inl (.inr ⟨rfl, h₃⟩)
      · exact .inr ⟨by omega, by omega, h₃⟩
  obtain ⟨hn, hset⟩ := hfold s.futures 0 s h (fun j => by rw [Nat.zero_add]) rfl
  refine ⟨hn, fun k hk => ?_⟩
  rw [settleDNSFutures, hset k]
  simp [hk]

lemma awaitFuture_eq (ks : List Nat) (s : WalkState) : ∃ c, (s.awaitFuture sched ks).2 = { s with clock := c } := by
  induction ks generalizing s with
  | nil => exact ⟨s.clock, rfl⟩
  | cons k ks ih =>
    simp only [awaitFuture]
    split
    · exact ih s.tick
    · exact ⟨_, rfl⟩

lemma settle_metadata (s : WalkState) : (s.settleDNSFutures sched).metadata = s.metadata := by
  have hfold (l : List (Future × Nat)) (t : WalkState) :
      (l.foldl (settleFuture sched) t).metadata = t.metadata := by
    induction l generalizing t with
    | nil => rfl
    | cons f l ih =>
      rw [foldl_cons, ih]
      simp only [settleFuture]
      split
      · rfl
      · split <;> rfl
  exact hfold _ s

lemma visit_named (h : Named s) (rule : Rule) :
    Named (s.visit sched rule).2 ∧ (s.visit sched rule).2.metadata = s.metadata ∧
      (s.visit sched rule).2.settled = (s.settleDNSFutures sched).settled := by
  obtain ⟨hn, -⟩ := settle_named sched h
  obtain ⟨c, hc⟩ := awaitFuture_eq sched ((s.settleDNSFutures sched).boundFutures rule) (s.settleDNSFutures sched)
  rw [visit, hc]
  exact ⟨{ hn with }, settle_metadata sched s, rfl⟩

lemma Named.launch (h : Named s)
    (hfresh : f.tag ≠ "" → ∀ g ∈ s.futures, g.tag ≠ f.tag) (hf : s'.futures = s.futures ++ [f])
    (hn : s'.namedFutures = if f.tag = "" then s.namedFutures
      else update s.namedFutures f.tag (some s.futures.length))
    (hr : s'.namedResponses = s.namedResponses) (ht : s'.namedTransports = s.namedTransports)
    (hset : s'.settled = s.settled) : Named s' := by
  have hold {tag : String} {k : Nat} (hk : s.namedFutures tag = some k) : k < s.futures.length := by
    obtain ⟨-, g, hg, -⟩ := (h.futures tag k).1 hk
    exact (List.getElem?_eq_some_iff.1 hg).1
  have hnone (htag : f.tag ≠ "") : s.namedFutures f.tag = none := by
    cases hk : s.namedFutures f.tag with
    | none => rfl
    | some k =>
      obtain ⟨-, g, hg, hgt⟩ := (h.futures f.tag k).1 hk
      exact absurd hgt (hfresh htag g (mem_of_getElem? hg))
  have hnew : (s.futures ++ [f])[s.futures.length]? = some f := by simp
  have hname (tag : String) : s'.namedFutures tag =
      if tag ≠ "" ∧ tag = f.tag then some s.futures.length else s.namedFutures tag := by
    rw [hn]
    by_cases htag : f.tag = ""
    · rw [if_pos htag, if_neg]
      rintro ⟨hne, rfl⟩
      exact hne htag
    rw [if_neg htag, update_apply]
    by_cases heq : tag = f.tag
    · rw [if_pos heq, if_pos ⟨heq ▸ htag, heq⟩]
    · rw [if_neg heq, if_neg fun hc => heq hc.2]
  -- what is bound to a tag, in the old list and in the longer one
  have hbind {α : Type} (g g' : Nat → Option α) (hg : ∀ k, k < s.futures.length → g' k = g k) (tag : String) :
      ((s.namedFutures tag).bind fun k => if s.settled k then g k else none) =
        (s'.namedFutures tag).bind fun k => if s'.settled k then g' k else none := by
    rw [hname, hset]
    split
    next hc =>
      obtain ⟨hne, rfl⟩ := hc
      simp [hnone hne, h.unsettled]
    · cases hk : s.namedFutures tag with
      | none => rfl
      | some k => simp [hg k (hold hk)]
  have hget {k : Nat} (hk : k < s.futures.length) : s'.futures[k]? = s.futures[k]? := by
    rw [hf, getElem?_append_left hk]
  refine ⟨fun tag k => ?_, fun tag => ?_, fun tag => ?_, fun k hk => ?_⟩
  · rw [hname, hf]
    split
    next hc =>
      obtain ⟨hne, rfl⟩ := hc
      constructor
      · rintro ⟨⟩
        exact ⟨hne, f, hnew, rfl⟩
      rintro ⟨-, g, hg, hgt⟩
      by_cases hk : k < s.futures.length
      · rw [getElem?_append_left hk] at hg
        exact absurd hgt (hfresh hne g (mem_of_getElem? hg))
      have := (List.getElem?_eq_some_iff.1 hg).1
      simp only [length_append, length_singleton] at this
      exact congrArg some (by omega)
    next hc =>
      rw [h.futures tag k]
      refine and_congr_right fun hne => ?_
      by_cases hk : k < s.futures.length
      · rw [getElem?_append_left hk]
      constructor
      · rintro ⟨g, hg, -⟩
        exact absurd (List.getElem?_eq_some_iff.1 hg).1 hk
      rintro ⟨g, hg, hgt⟩
      rw [getElem?_append_right (by omega)] at hg
      obtain rfl : f = g := by
        cases hki : k - s.futures.length with
        | zero => simpa [hki] using hg
        | succ i => simp [hki] at hg
      exact absurd ⟨hne, hgt.symm⟩ hc
  · rw [hr, h.responses tag]
    exact hbind _ _ (fun k hk => by simp only [responseOf, hget hk]) tag
  · rw [ht, h.transports tag]
    exact hbind _ _ (fun k hk => by simp only [transportOf, hget hk]) tag
  · rw [hset]
    rw [hf, length_append] at hk
    exact h.unsettled k (by omega)

end

/-! ## Two walks over the same rules -/

/-- The metadata without what a visit overwrites. -/
abbrev queryOf (md : InboundContext) : InboundContext := forRule md none fun _ => none

/-- States of two walks at the same rule, with the same exchanges started. -/
structure Sim (rules : List DNSRule) (s q : WalkState) : Prop where
  effectiveOptions : s.effectiveOptions = q.effectiveOptions
  ruleIndex : s.ruleIndex = q.ruleIndex
  anonymousFuture : s.anonymousFuture = q.anonymousFuture
  namedFutures : s.namedFutures = q.namedFutures
  futures : s.futures = q.futures
  metadata : queryOf s.metadata = queryOf q.metadata
  unarmed : s.armedRules = [] ∧ q.armedRules = []
  noTerminal : s.terminalFuture = none ∧ q.terminalFuture = none
  named : Named s ∧ Named q
  /-- Tags in use come from rules before this one. -/
  defined : ∀ f ∈ s.futures, f.tag ≠ "" →
    ∃ j rule, j < s.ruleIndex ∧ rules[j]? = some rule ∧ rule.action.evaluateTag = f.tag

/-- Outcomes that differ in overwritten metadata only. -/
inductive SameOutcome : Outcome → Outcome → Prop
  | result (r : Result) : SameOutcome (.result r) (.result r)
  | predefined {response : Msg} {md md' : InboundContext} {options : Route.DNSQueryOptions}
      (h : queryOf md = queryOf md') : SameOutcome (.predefined response md options) (.predefined response md' options)

/-- The second walk never waits. -/
inductive SimConfig (rules : List DNSRule) : Config → Config → Prop
  | walk {s q : WalkState} (h : Sim rules s q) : SimConfig rules ⟨.walk, s⟩ ⟨.walk, q⟩
  | await {s q : WalkState} (k : Nat) (h : Sim rules s q) : SimConfig rules ⟨.resume (.await k), s⟩ ⟨.walk, q⟩
  | pending {s q : WalkState} (p : PendingExchange) (h : s.futures = q.futures)
      (ha : s.armedRules = [] ∧ q.armedRules = []) :
      SimConfig rules ⟨.resume (.pending p), s⟩ ⟨.resume (.pending p), q⟩
  | finished {o o' : Outcome} {s q : WalkState} (h : SameOutcome o o') :
      SimConfig rules ⟨.finished o, s⟩ ⟨.finished o', q⟩

section
variable {rules : List DNSRule} {s s' q q' : WalkState}

lemma Sim.symm (h : Sim rules s q) : Sim rules q s :=
  ⟨h.effectiveOptions.symm, h.ruleIndex.symm, h.anonymousFuture.symm, h.namedFutures.symm, h.futures.symm,
    h.metadata.symm, h.unarmed.symm, h.noTerminal.symm, h.named.symm, h.futures ▸ h.ruleIndex ▸ h.defined⟩

lemma Sim.looked (h : Sim rules s q) (hl : Looked s s') (hmd : s'.metadata = s.metadata) (hn : Named s') :
    Sim rules s' q where
  effectiveOptions := hl.effectiveOptions.trans h.effectiveOptions
  ruleIndex := hl.ruleIndex.trans h.ruleIndex
  anonymousFuture := hl.anonymousFuture.trans h.anonymousFuture
  namedFutures := hl.namedFutures.trans h.namedFutures
  futures := hl.futures.trans h.futures
  metadata := by rw [hmd]; exact h.metadata
  unarmed := ⟨hl.armedRules.trans h.unarmed.1, h.unarmed.2⟩
  noTerminal := ⟨hl.terminalFuture.trans h.noTerminal.1, h.noTerminal.2⟩
  named := ⟨hn, h.named.2⟩
  defined := by rw [hl.futures, hl.ruleIndex]; exact h.defined

lemma Sim.tick (h : Sim rules s q) : Sim rules s.tick q := h.looked (.tick s) rfl h.named.1.tick

lemma Sim.settle (sched : Schedule) (h : Sim rules s q) : Sim rules (s.settleDNSFutures sched) q :=
  h.looked (settle_looked sched s) (settle_metadata sched s) (settle_named sched h.named.1).1

lemma Sim.visit (sched : Schedule) (rule : Rule) (h : Sim rules s q) : Sim rules (s.visit sched rule).2 q := by
  obtain ⟨hn, hmd, -⟩ := visit_named sched h.named.1 rule
  exact h.looked (visit_looked sched rule s) hmd hn

variable (h : Sim rules s q)
include h

lemma Sim.next : SimConfig rules s.next q.next := by
  refine .walk ?_
  exact { h with
    ruleIndex := congrArg (· + 1) h.ruleIndex
    named := ⟨{ h.named.1 with }, { h.named.2 with }⟩
    defined := fun f hf ht => by
      obtain ⟨j, rule, hj, hrest⟩ := h.defined f hf ht
      exact ⟨j, rule, hj.trans (Nat.lt_succ_self _), hrest⟩ }

lemma Sim.responseOf (k : Nat) : s.responseOf k = q.responseOf k := by
  simp only [WalkState.responseOf, h.futures]

lemma Sim.transportOf : s.transportOf = q.transportOf := by
  funext k
  simp only [WalkState.transportOf, h.futures]

lemma Sim.examine (env : Env) {rule : Rule} (hready : rule.ResponseReady)
    (htags : ∀ tag ∈ rule.matchResponseTags, q.namedResponses tag = s.namedResponses tag)
    (hanon : rule.matchResponseAnonymous = true → d' = d) : (examine env rule d' q).1 = (examine env rule d s).1 ∧
      Sim rules (examine env rule d s).2 (examine env rule d' q).2 := by
  have hrebound : Rebound d d' s.namedResponses q.namedResponses (forRule s.metadata d s.namedResponses)
      (forRule q.metadata d' q.namedResponses) := by
    refine ⟨rfl, rfl, rfl, ?_⟩
    have hsplit (md : InboundContext) (d : Option Msg) (n : String → Option Msg) :
        forRule md d n = { queryOf md with dnsResponse := d, namedDNSResponses := n } := rfl
    rw [hsplit q.metadata, ← h.metadata]
    rfl
  obtain ⟨hv, hmd⟩ := Rule.match_rebound env hready htags hanon _ _ hrebound
  refine ⟨hv, ?_⟩
  exact { h with
    metadata := by
      show queryOf (rule.match env (forRule s.metadata d s.namedResponses)).2 =
        queryOf (rule.match env (forRule q.metadata d' q.namedResponses)).2
      rw [hmd.eq]
      rfl
    named := ⟨{ h.named.1 with }, { h.named.2 with }⟩ }

end

/-! ## Visits -/

def Walk.sequential (w : Walk) : Walk := { w with sched := fun _ => 0 }

/-- A visit that waits for nothing finds each tagged response it binds complete when
`settleDNSFutures` looks at it. -/
def SettledInTime (sched : Schedule) (rule : Rule) (s : WalkState) : Prop :=
  (s.visit sched rule).1 = none → ∀ tag ∈ rule.matchResponseTags, ∀ k, s.namedFutures tag = some k →
    (s.responseOf k).isSome → sched k ≤ s.clock + k

instance (sched : Schedule) (rule : Rule) (s : WalkState) : Decidable (SettledInTime sched rule s) :=
  decidable_of_iff ((s.visit sched rule).1 = none → ∀ tag ∈ rule.matchResponseTags, ∀ k ∈ s.namedFutures tag,
    (s.responseOf k).isSome → sched k ≤ s.clock + k) Iff.rfl

section
variable {rules : List DNSRule} {sched : Schedule} {s q : WalkState} {rule : Rule}

lemma visit_response (h : Named s) (hnone : (s.visit sched rule).1 = none) (hset : SettledInTime sched rule s)
    {tag : String} (ht : tag ∈ rule.matchResponseTags) :
    (s.visit sched rule).2.namedResponses tag = (s.namedFutures tag).bind s.responseOf ∧
      ((s.visit sched rule).2.namedResponses tag ≠ none →
        (s.visit sched rule).2.namedTransports tag = (s.namedFutures tag).bind s.transportOf) := by
  obtain ⟨hn, -, hsettled⟩ := visit_named sched h rule
  have hl := visit_looked sched rule s
  have hresponse (k : Nat) : (s.visit sched rule).2.responseOf k = s.responseOf k := by
    simp only [responseOf, hl.futures]
  have htransport (k : Nat) : (s.visit sched rule).2.transportOf k = s.transportOf k := by
    simp only [transportOf, hl.futures]
  rw [hn.responses tag, hn.transports tag, hl.namedFutures]
  cases hk : s.namedFutures tag with
  | none => simp
  | some k =>
    simp only [Option.bind_some, hresponse, htransport, hsettled]
    cases hr : s.responseOf k with
    | none => simp
    | some response =>
      obtain ⟨-, f, hf, -⟩ := (h.futures tag k).1 hk
      have hlen : k < s.futures.length := (List.getElem?_eq_some_iff.1 hf).1
      have hdone : (s.settleDNSFutures sched).settled k = true :=
        ((settle_named sched h).2 k hlen).2 (.inr (hset hnone tag ht k hk (by simp [hr])))
      simp [hdone]

lemma settledInTime_zero : SettledInTime (fun _ => 0) rule s := fun _ _ _ _ _ _ => Nat.zero_le _
lemma visit_zero : (s.visit (fun _ => 0) rule).1 = none := awaitFuture_of_resolved _ fun _ _ => Nat.zero_le _

lemma anonymousResponse_resolved (hk : s.anonymousFuture = some k) (hc : sched k ≤ s.clock) :
    s.anonymousResponse sched = s.responseOf k := by
  simp [anonymousResponse, hk, view, resolved, hc]

lemma anonymousResponse_none (hk : s.anonymousFuture = none) : s.anonymousResponse sched = none := by
  simp [anonymousResponse, hk]

lemma Sim.anonymous (h : Sim rules s q) (hc : ∀ k, s.anonymousFuture = some k → sched k ≤ s.clock) :
    q.anonymousResponse (fun _ => 0) = s.anonymousResponse sched := by
  cases hk : s.anonymousFuture with
  | none => rw [anonymousResponse_none hk, anonymousResponse_none (h.anonymousFuture ▸ hk)]
  | some k =>
    rw [anonymousResponse_resolved hk (hc k hk), h.responseOf,
      anonymousResponse_resolved (h.anonymousFuture ▸ hk) (Nat.zero_le _)]

lemma visit_anonymous (hnone : (s.visit sched rule).1 = none) (ha : rule.matchResponseAnonymous = true)
    (hk : (s.visit sched rule).2.anonymousFuture = some k) : sched k ≤ (s.visit sched rule).2.clock := by
  rw [(visit_looked sched rule s).anonymousFuture] at hk
  refine awaitFuture_none sched hnone k ?_
  rw [boundFutures_looked (settle_looked sched s)]
  simp [boundFutures, ha, hk]

end

/-! ## Steps -/

section
variable {w : Walk} {s q : WalkState} {rule : DNSRule} {md md' : InboundContext}
  {options : Route.DNSQueryOptions}

lemma Validated.fresh {rules : List DNSRule} (hv : Validated rules) {i j : Nat} {a b : DNSRule} (hij : i < j)
    (ha : rules[i]? = some a) (hb : rules[j]? = some b) (hne : a.action.evaluateTag ≠ "") :
    a.action.evaluateTag ≠ b.action.evaluateTag := by
  obtain ⟨hi, rfl⟩ := List.getElem?_eq_some_iff.1 ha
  obtain ⟨hj, rfl⟩ := List.getElem?_eq_some_iff.1 hb
  exact (pairwise_iff_getElem.1 hv.tags i j hi hj hij hne).symm

lemma queryOf_congr (h : md.resetRuleMatchCache = md'.resetRuleMatchCache) : queryOf md = queryOf md' := by
  show queryOf md.resetRuleMatchCache = queryOf md'.resetRuleMatchCache
  rw [h]

lemma queryOf_forRule (md : InboundContext) (d : Option Msg) (n : String → Option Msg) :
    queryOf (forRule md d n) = queryOf md := by
  cases md
  rfl

lemma Sim.examined (h : Sim w.router.rules s q) (env : Env) (rule : Rule) (d : Option Msg) :
    Sim w.router.rules (Dns.examine env rule d s).2 q := by
  have hframe := (Rule.match_framed env rule).frame (forRule s.metadata d s.namedResponses)
  refine { h with
    metadata := ?_
    named := ⟨{ h.named.1 with }, h.named.2⟩ }
  show queryOf (rule.match env (forRule s.metadata d s.namedResponses)).2 = queryOf q.metadata
  rw [queryOf_congr hframe, queryOf_forRule, h.metadata]

/-- The second state is the first with a future launched by its rule. -/
structure Launched (f : Future) (s s' : WalkState) : Prop where
  futures : s'.futures = s.futures ++ [f]
  anonymousFuture : s'.anonymousFuture = if f.tag = "" then some s.futures.length else s.anonymousFuture
  namedFutures : s'.namedFutures =
    if f.tag = "" then s.namedFutures else update s.namedFutures f.tag (some s.futures.length)
  namedResponses : s'.namedResponses = s.namedResponses
  namedTransports : s'.namedTransports = s.namedTransports
  settled : s'.settled = s.settled
  ruleIndex : s'.ruleIndex = s.ruleIndex + 1
  effectiveOptions : s'.effectiveOptions = s.effectiveOptions
  metadata : s'.metadata = s.metadata
  armedRules : s'.armedRules = s.armedRules
  terminalFuture : s'.terminalFuture = s.terminalFuture

lemma evaluate_launched (w : Walk) (s : WalkState) (tag : String) (transport : Transport) (options : RouteOptions) :
    ∃ s', w.evaluate s tag transport options = ⟨.walk, s'⟩ ∧
      Launched ⟨tag, transport, w.outcomes s.futures.length transport w.query.message
        (w.router.finalizeExchangeOptions (applyDNSRouteOptions s.effectiveOptions options))⟩ s s' := by
  simp only [evaluate]
  split
  next htag => exact ⟨_, rfl, rfl, (if_pos htag).symm, (if_pos htag).symm, rfl, rfl, rfl, rfl, rfl, rfl, rfl, rfl⟩
  next htag => exact ⟨_, rfl, rfl, (if_neg htag).symm, (if_neg htag).symm, rfl, rfl, rfl, rfl, rfl, rfl, rfl, rfl⟩

lemma Named.launched {s : WalkState} (h : Named s) (hl : Launched f s s')
    (hfresh : f.tag ≠ "" → ∀ g ∈ s.futures, g.tag ≠ f.tag) : Named s' :=
  h.launch hfresh hl.futures hl.namedFutures hl.namedResponses hl.namedTransports hl.settled

section
variable (hv : Validated w.router.rules) (h : Sim w.router.rules s q) (hrule : w.router.rules[s.ruleIndex]? = some rule)
include hv h hrule

lemma Sim.launched (hf : f.tag = rule.action.evaluateTag)
    {q' : WalkState} (hs : Launched f s s') (hq : Launched f q q') : Sim w.router.rules s' q' := by
  have hfresh (htag : f.tag ≠ "") : ∀ g ∈ s.futures, g.tag ≠ f.tag := by
    intro g hg heq
    obtain ⟨j, a, hj, ha, htagj⟩ := h.defined g hg (heq ▸ htag)
    refine hv.fresh hj ha hrule ?_ ?_
    · rw [htagj, heq]
      exact htag
    · rw [htagj, heq, hf]
  exact {
    effectiveOptions := by rw [hs.effectiveOptions, hq.effectiveOptions, h.effectiveOptions]
    ruleIndex := by rw [hs.ruleIndex, hq.ruleIndex, h.ruleIndex]
    anonymousFuture := by rw [hs.anonymousFuture, hq.anonymousFuture, h.anonymousFuture, h.futures]
    namedFutures := by rw [hs.namedFutures, hq.namedFutures, h.namedFutures, h.futures]
    futures := by rw [hs.futures, hq.futures, h.futures]
    metadata := by rw [hs.metadata, hq.metadata, h.metadata]
    unarmed := ⟨hs.armedRules.trans h.unarmed.1, hq.armedRules.trans h.unarmed.2⟩
    noTerminal := ⟨hs.terminalFuture.trans h.noTerminal.1, hq.terminalFuture.trans h.noTerminal.2⟩
    named := ⟨h.named.1.launched hs hfresh, h.named.2.launched hq (h.futures ▸ hfresh)⟩
    defined := by
      rw [hs.futures, hs.ruleIndex]
      intro g hg hne
      rcases mem_append.1 hg with hg | hg
      · obtain ⟨j, a, hj, hrest⟩ := h.defined g hg hne
        exact ⟨j, a, hj.trans (Nat.lt_succ_self _), hrest⟩
      obtain rfl := mem_singleton.1 hg
      exact ⟨s.ruleIndex, rule, Nat.lt_succ_self _, hrule, hf.symm⟩ }

lemma evaluate_sim (transport : Transport) (options : RouteOptions) :
    SimConfig w.router.rules (w.evaluate s rule.action.evaluateTag transport options)
      (w.sequential.evaluate q rule.action.evaluateTag transport options) := by
  obtain ⟨s', hs, hls⟩ := evaluate_launched w s rule.action.evaluateTag transport options
  obtain ⟨q', hq, hlq⟩ := evaluate_launched w.sequential q rule.action.evaluateTag transport options
  rw [hs, hq]
  rw [← h.futures, ← h.effectiveOptions] at hlq
  exact .walk (h.launched hv hrule rfl hls hlq)

end

lemma Sim.record (h : Sim w.router.rules s q) (e e' : Event) : Sim w.router.rules (s.record e) (q.record e') :=
  { h with
    named := ⟨{ h.named.1 with }, { h.named.2 with }⟩ }

lemma terminal_sim (h : Sim w.router.rules s q) {act act' : WalkState → Config}
    (hact : SimConfig w.router.rules (act (s.record (.effect (some s.ruleIndex))))
      (act' (q.record (.effect (some q.ruleIndex))))) :
    SimConfig w.router.rules (terminal s act) (terminal q act') := by
  simpa [terminal, h.unarmed.1, h.unarmed.2] using hact

lemma sameOutcome_respondWith {t t' : Option Transport} (hd : d = d') (ht : t = t') :
    SameOutcome (respondWith d t) (respondWith d' t') := by
  subst hd ht
  cases d <;> exact .result _

lemma sameOutcome_rejectWith (r : Router) (query : Query) (action : Reject) :
    SameOutcome (rejectWith r query action) (rejectWith r query action) := by
  simp only [rejectWith]
  split <;> exact .result _

/-- What the `respond` action answers with. -/
def RespondAgrees (sched : Schedule) (rule : Rule) (s q : WalkState) : Prop :=
  if rule.matchResponseTag ≠ "" then
    respondWith (s.namedResponses rule.matchResponseTag) (s.namedTransports rule.matchResponseTag) =
      respondWith (q.namedResponses rule.matchResponseTag) (q.namedTransports rule.matchResponseTag)
  else hasBindings rule = true → ∀ k, s.anonymousFuture = some k → sched k ≤ s.clock

variable (hv : Validated w.router.rules)
include hv

lemma act_sim (h : Sim w.router.rules s q) (hrule : w.router.rules[s.ruleIndex]? = some rule)
    (hrespond : rule.action = .respond → RespondAgrees w.sched rule.rule s q) :
    SimConfig w.router.rules (w.act rule s) (w.sequential.act rule q) ∨ ∃ k, w.act rule s = s.suspend (.await k) := by
  cases haction : rule.action with
  | routeOptions options =>
    left
    simp only [act, haction]
    refine Sim.next { h with
      effectiveOptions := by simp only [h.effectiveOptions]
      named := ⟨{ h.named.1 with }, { h.named.2 with }⟩ }
  | evaluate server tag options speculative =>
    left
    have htag : tag = rule.action.evaluateTag := by rw [haction]; rfl
    simp only [act, haction]
    have hrouter : w.sequential.router = w.router := rfl
    rw [hrouter]
    cases w.router.transport server with
    | none =>
      dsimp only
      split
      · refine Sim.next { h with
          anonymousFuture := rfl
          named := ⟨{ h.named.1 with }, { h.named.2 with }⟩ }
      · exact h.next
    | some transport =>
      dsimp only
      rw [htag]
      split
      · exact evaluate_sim hv h hrule transport options
      · exact terminal_sim h (evaluate_sim hv (h.record _ _) hrule transport options)
  | respond =>
    have hagree := hrespond haction
    have hq : w.sequential.respondAwait rule.rule q = none := by
      simp only [respondAwait]
      split
      · rfl
      · cases hk : q.anonymousFuture <;> simp [resolved, sequential, Option.filter]
    simp only [act, haction, h.unarmed.1, h.unarmed.2, length_nil, gt_iff_lt, lt_self_iff_false, if_false, hq]
    cases hwait : w.respondAwait rule.rule s with
    | some k => exact .inr ⟨k, rfl⟩
    | none =>
      left
      simp only [respond]
      simp only [RespondAgrees] at hagree
      split
      next htag =>
        rw [if_pos htag] at hagree
        refine .finished ?_
        show SameOutcome (respondWith (s.namedResponses _) (s.namedTransports _)) _
        rw [hagree]
        exact sameOutcome_respondWith rfl rfl
      next htag =>
        rw [if_neg htag] at hagree
        have hc : ∀ k, s.anonymousFuture = some k → w.sched k ≤ s.clock := by
          intro k hk
          by_cases hb : hasBindings rule.rule = true
          · exact hagree hb k hk
          simp only [ne_eq, not_not] at htag
          simpa [respondAwait, htag, hb, hk, Option.filter, resolved] using hwait
        have hsim := (h.tick.symm.tick.symm).record (.effect (some s.ruleIndex)) (.effect (some q.ruleIndex))
        have hanon := hsim.anonymous (fun k hk => (hc k hk).trans (Nat.le_succ _))
        exact .finished (sameOutcome_respondWith hanon.symm (by rw [hsim.transportOf, hsim.anonymousFuture]))
  | route server options speculative =>
    left
    simp only [act, haction, sequential, h.effectiveOptions]
    cases w.router.resolveDNSRoute server options w.allowFakeIP q.effectiveOptions with
    | none => exact h.next
    | some found =>
      obtain ⟨transport, options⟩ := found
      simp only [route, h.unarmed.1, h.unarmed.2, length_nil, gt_iff_lt, lt_self_iff_false, if_false,
        record, h.noTerminal.1, h.noTerminal.2, h.ruleIndex]
      exact .pending _ h.futures ⟨rfl, rfl⟩
  | reject action =>
    left
    simp only [act, haction]
    exact terminal_sim h (.finished (sameOutcome_rejectWith _ _ action))
  | predefined action =>
    left
    simp only [act, haction]
    refine terminal_sim h ?_
    simp only [record, finish, sequential, h.effectiveOptions]
    exact .finished (.predefined h.metadata)

lemma examined_sim {s₁ q₁ : WalkState} (h : Sim w.router.rules s₁ q₁)
    (h₀ : Sim w.router.rules s₁ q) (hrule : w.router.rules[s₁.ruleIndex]? = some rule)
    (htags : ∀ tag ∈ rule.rule.matchResponseTags, q₁.namedResponses tag = s₁.namedResponses tag)
    (htransports : ∀ tag ∈ rule.rule.matchResponseTags, s₁.namedResponses tag ≠ none →
      q₁.namedTransports tag = s₁.namedTransports tag)
    (hanon : rule.rule.matchResponseAnonymous = true → ∀ k, s₁.anonymousFuture = some k → w.sched k ≤ s₁.clock) :
    let (matched, s) := examine w.router.env rule.rule (s₁.anonymousResponse w.sched) s₁
    let (matched', q') := examine w.router.env rule.rule (q₁.anonymousResponse fun _ => 0) q₁
    SimConfig w.router.rules (if matched then w.act rule s else s.next) ⟨.walk, q⟩ ∨
      SimConfig w.router.rules (if matched then w.act rule s else s.next)
        (if matched' then w.sequential.act rule q' else q'.next) := by
  have hmem : rule ∈ w.router.rules := mem_of_getElem? hrule
  obtain ⟨hverdict, hsim⟩ := h.examine w.router.env (hv.ready rule hmem) htags
    (fun ha => h.anonymous (hanon ha))
  have hback := h₀.examined w.router.env rule.rule (s₁.anonymousResponse w.sched)
  generalize hs : examine w.router.env rule.rule (s₁.anonymousResponse w.sched) s₁ = out at hverdict hsim hback
  generalize hq : examine w.router.env rule.rule (q₁.anonymousResponse fun _ => 0) q₁ = out' at hverdict hsim
  obtain ⟨matched, s⟩ := out
  obtain ⟨matched', q'⟩ := out'
  obtain rfl : matched' = matched := hverdict
  have hstate : s.namedResponses = s₁.namedResponses ∧ s.namedTransports = s₁.namedTransports ∧
      s.anonymousFuture = s₁.anonymousFuture ∧ s₁.clock ≤ s.clock ∧ s.ruleIndex = s₁.ruleIndex := by
    obtain rfl : _ = s := congrArg Prod.snd hs
    exact ⟨rfl, rfl, rfl, Nat.le_succ _, rfl⟩
  have hstate' : q'.namedResponses = q₁.namedResponses ∧ q'.namedTransports = q₁.namedTransports := by
    obtain rfl : _ = q' := congrArg Prod.snd hq
    exact ⟨rfl, rfl⟩
  dsimp only at hsim hback ⊢
  split
  · have hrespond (haction : rule.action = .respond) : RespondAgrees w.sched rule.rule s q' := by
      simp only [RespondAgrees]
      split
      next htag =>
        have hbound : rule.rule.matchResponseTag ∈ rule.rule.matchResponseTags := Rule.matchResponseTag_mem htag
        rw [hstate.1, hstate.2.1, hstate'.1, hstate'.2, htags _ hbound]
        cases hr : s₁.namedResponses rule.rule.matchResponseTag with
        | none => rfl
        | some response => rw [htransports _ hbound (by simp [hr])]
      next htag =>
        intro hb k hk
        rw [hstate.2.2.1] at hk
        exact (hanon (hv.respond rule hmem haction (by simpa using htag) hb) k hk).trans hstate.2.2.2.1
    rcases act_sim hv hsim (hstate.2.2.2.2 ▸ hrule) hrespond with hact | ⟨k, hact⟩
    · exact .inr hact
    rw [hact]
    exact .inl (.await k hback.tick)
  · exact .inr hsim.next

/-- The visit of the rule the walk is at finds its responses settled in time, unless the rule is disabled. -/
def Walk.Undisturbed (w : Walk) (c : Config) : Prop :=
  c.control = .walk → ∀ rule, w.router.rules[c.state.ruleIndex]? = some rule →
    w.disabled c.state.ruleIndex c.state.clock = false → SettledInTime w.sched rule.rule c.state

instance (w : Walk) (c : Config) : Decidable (w.Undisturbed c) :=
  match h : c.control with
  | .walk => decidable_of_iff (∀ rule ∈ w.router.rules[c.state.ruleIndex]?,
      w.disabled c.state.ruleIndex c.state.clock = false → SettledInTime w.sched rule.rule c.state)
      ⟨fun hs _ => hs, fun hs => hs h⟩
  | .resume _ | .finished _ => isTrue fun hw => by simp [h] at hw

lemma examineRule_sim (h : Sim w.router.rules s q)
    (hrule : w.router.rules[s.ruleIndex]? = some rule) (hset : SettledInTime w.sched rule.rule s) :
    SimConfig w.router.rules (w.examineRule rule s) ⟨.walk, q⟩ ∨
      SimConfig w.router.rules (w.examineRule rule s) (w.sequential.examineRule rule q) := by
  by_cases hb : hasBindings rule.rule = true
  · have hq : (q.visit w.sequential.sched rule.rule).1 = none := visit_zero
    have hsim₀ := h.visit w.sched rule.rule
    have hsim := (hsim₀.symm.visit (fun _ => 0) rule.rule).symm
    have hl := visit_looked w.sched rule.rule s
    simp only [examineRule, hb, if_true]
    cases hvisit : s.visit w.sched rule.rule with
    | mk await s₁ =>
      rw [hvisit] at hsim₀ hsim hl
      cases hvisit' : q.visit w.sequential.sched rule.rule with
      | mk await' q₁ =>
        rw [hvisit'] at hq
        obtain rfl : await' = none := hq
        have hvisit'' : q.visit (fun _ => 0) rule.rule = (none, q₁) := hvisit'
        rw [hvisit''] at hsim
        cases await with
        | some k => exact .inl (.await k hsim₀.tick)
        | none =>
          have hnone : (s.visit w.sched rule.rule).1 = none := by rw [hvisit]
          have hbound {tag : String} (ht : tag ∈ rule.rule.matchResponseTags) :
              s₁.namedResponses tag = (s.namedFutures tag).bind s.responseOf ∧
                (s₁.namedResponses tag ≠ none → s₁.namedTransports tag = (s.namedFutures tag).bind s.transportOf) := by
            have := visit_response h.named.1 hnone hset ht
            rwa [hvisit] at this
          have hbound' {tag : String} (ht : tag ∈ rule.rule.matchResponseTags) :
              q₁.namedResponses tag = (q.namedFutures tag).bind q.responseOf ∧
                (q₁.namedResponses tag ≠ none → q₁.namedTransports tag = (q.namedFutures tag).bind q.transportOf) := by
            have := visit_response h.named.2 visit_zero (settledInTime_zero (s := q)) ht
            rwa [hvisit''] at this
          have hresponse : s.responseOf = q.responseOf := funext h.responseOf
          have hnamed {tag : String} (ht : tag ∈ rule.rule.matchResponseTags) :
              q₁.namedResponses tag = s₁.namedResponses tag := by
            rw [(hbound ht).1, (hbound' ht).1, h.namedFutures, hresponse]
          refine examined_sim hv hsim hsim₀ (hl.ruleIndex.symm ▸ hrule) (fun tag ht => hnamed ht) ?_ ?_
          · intro tag ht hne
            rw [(hbound ht).2 hne, (hbound' ht).2 (by rwa [hnamed ht]), h.namedFutures, h.transportOf]
          intro ha k hk
          have := visit_anonymous hnone ha (k := k) (by rw [hvisit]; exact hk)
          rwa [hvisit] at this
  · simp only [examineRule, hb, Bool.false_eq_true, if_false]
    have hunbound : rule.rule.matchResponseTags = [] ∧ rule.rule.matchResponseAnonymous = false := by
      simpa [hasBindings] using hb
    refine examined_sim hv h h hrule ?_ ?_ ?_
    · simp [hunbound.1]
    · simp [hunbound.1]
    · simp [hunbound.2]

variable (hrace : ∀ rule ∈ w.router.rules, rule.race = false)
  (hflags : ∀ i t t', w.disabled i t = w.disabled i t')
include hrace hflags

lemma step_sim (h : SimConfig w.router.rules c c') (hu : w.Undisturbed c) :
    SimConfig w.router.rules (w.step c) c' ∨ SimConfig w.router.rules (w.step c) (w.sequential.step c') := by
  cases h with
  | walk h =>
    rename_i s q
    simp only [step, walkStep]
    have hrules : w.sequential.router.rules[q.ruleIndex]? = w.router.rules[s.ruleIndex]? := by
      rw [h.ruleIndex]
      rfl
    rw [hrules]
    cases hrule : w.router.rules[s.ruleIndex]? with
    | none =>
      right
      simp only [h.unarmed.1, h.unarmed.2, length_nil, gt_iff_lt, lt_self_iff_false, if_false, h.effectiveOptions]
      exact .pending _ h.futures ⟨h.unarmed.1, h.unarmed.2⟩
    | some rule =>
      have hnorace := hrace rule (mem_of_getElem? hrule)
      have hdisabled : w.sequential.disabled q.ruleIndex q.clock = w.disabled s.ruleIndex s.clock := by
        rw [h.ruleIndex]
        exact hflags _ _ _
      simp only [hnorace, Bool.and_false, Bool.false_eq_true, if_false, hdisabled]
      split
      · exact .inr h.next
      next hon => exact examineRule_sim hv h hrule (hu rfl rule hrule (by simpa using hon))
  | await k h =>
    left
    have hsettle := h.settle w.sched
    simp only [step, resumeStep, sweep_unarmed hsettle.unarmed.1]
    split
    · exact .walk hsettle.tick
    · exact .await k hsettle.tick
  | pending p hf ha =>
    right
    have hs := settle_looked w.sched
    have hq := settle_looked w.sequential.sched
    simp only [step, resumeStep, sweep_unarmed ((hs _).armedRules.trans ha.1),
      sweep_unarmed ((hq _).armedRules.trans ha.2), finishPendingExchange, (hs _).futures, (hq _).futures, hf]
    split
    · exact .finished (.result _)
    · exact .finished (.result _)
  | finished h => exact .inr (.finished h)

/-! ## Runs -/

def Walk.Steady (w : Walk) (md : InboundContext) (options : Route.DNSQueryOptions) : Prop :=
  ∀ c, w.Reaches (Walk.start md options) c → w.Undisturbed c

omit hv hrace hflags in
lemma Walk.steady_of_finished {n : Nat} (hn : (w.run n (start md options)).control = .finished o)
    (hu : ∀ m < n, w.Undisturbed (w.run m (start md options))) : w.Steady md options := by
  rintro c ⟨m, rfl⟩
  by_cases hm : m < n
  · exact hu m hm
  obtain ⟨d, rfl⟩ : ∃ d, m = d + n := ⟨m - n, by omega⟩
  have hrun : w.run (d + n) (start md options) = w.run n (start md options) := by
    rw [run, iterate_add_apply]
    exact run_finished hn d
  rw [hrun]
  intro hw
  rw [hn] at hw
  cases hw

lemma run_sim (h : SimConfig w.router.rules c c') (hu : ∀ n, w.Undisturbed (w.run n c)) (n : Nat) :
    ∃ m, SimConfig w.router.rules (w.run n c) (w.sequential.run m c') := by
  induction n with
  | zero => exact ⟨0, h⟩
  | succ n ih =>
    obtain ⟨m, hm⟩ := ih
    have hnext : w.run (n + 1) c = w.step (w.run n c) := iterate_succ_apply' _ _ _
    rw [hnext]
    rcases step_sim hv hrace hflags hm (hu n) with hm | hm
    · exact ⟨m, hm⟩
    refine ⟨m + 1, ?_⟩
    have hnext' : w.sequential.run (m + 1) c' = w.sequential.step (w.sequential.run m c') :=
      iterate_succ_apply' _ _ _
    rwa [hnext']

omit hv hrace hflags in
lemma outcomeOf_run (hinv : Inv w.router.rules c) (hm : w.measure c ≤ w.fuel) {m : Nat}
    (ho : (w.run m c).control = .finished o) : w.outcomeOf c = o := by
  obtain ⟨o', ho'⟩ := run_finishes hinv hm
  have hcomm : w.run m (w.run w.fuel c) = w.run w.fuel (w.run m c) := by
    simp only [run, ← iterate_add_apply, Nat.add_comm]
  rw [run_finished ho, run_finished ho'] at hcomm
  simp only [outcomeOf, hcomm, ho]

omit hv hrace hflags in
lemma start_sim (hmd : queryOf md = queryOf md') (options : Route.DNSQueryOptions) :
    SimConfig w.router.rules (start md options) (start md' options) := by
  have hnamed (md : InboundContext) : Named { effectiveOptions := options, metadata := md } :=
    ⟨by simp, by simp, by simp, by simp⟩
  exact .walk ⟨rfl, rfl, rfl, rfl, rfl, hmd, ⟨rfl, rfl⟩, ⟨rfl, rfl⟩, ⟨hnamed md, hnamed md'⟩, by simp⟩

lemma exchange_sim (hmd : queryOf md = queryOf md') (hu : w.Steady md options) :
    SameOutcome (w.exchangeWithRules md options) (w.sequential.exchangeWithRules md' options) := by
  have hstart : Inv w.router.rules (start md options) := start_inv _
  have hstart' : Inv w.sequential.router.rules (start md' options) := start_inv _
  obtain ⟨o, ho⟩ := run_finishes hstart measure_start_le
  obtain ⟨m, hm⟩ := run_sim hv hrace hflags (start_sim hmd options) (fun n => hu _ ⟨n, rfl⟩) w.fuel
  have houtcome : w.exchangeWithRules md options = o := by
    rw [Walk.exchangeWithRules, (walkDNSRules_reaches _ hstart measure_start_le).2.2]
    exact outcomeOf_run hstart measure_start_le ho
  have houtcome' {o' : Outcome} (ho' : (w.sequential.run m (start md' options)).control = .finished o') :
      w.sequential.exchangeWithRules md' options = o' := by
    rw [Walk.exchangeWithRules, (walkDNSRules_reaches _ hstart' measure_start_le).2.2]
    exact outcomeOf_run hstart' measure_start_le ho'
  generalize w.run w.fuel (start md options) = c at hm ho
  generalize w.sequential.run m (start md' options) = c' at hm houtcome'
  cases hm with
  | walk | await | pending => cases ho
  | finished hsame =>
    cases ho
    rw [houtcome, houtcome' rfl]
    exact hsame

end

namespace Router
variable {r : Router}

def Runs.sequential (runs : Runs) : Runs := { runs with sched := fun _ _ => 0 }

/-- No visit is disturbed, in the walk at this depth or in those nested in it. -/
def Steady (r : Router) (runs : Runs) :
    Nat → Nat → Bool → List String → InboundContext → Query → Route.DNSQueryOptions → Prop
  | 0, _, _, _, _, _, _ => True
  | hops + 1, depth, allowFakeIP, chain, md, query, options =>
    (r.walkAt runs depth query allowFakeIP).Steady md options ∧
      ∀ response md' options', (r.walkAt runs depth query allowFakeIP).exchangeWithRules md options =
        .predefined response md' options' →
      ∀ chain' md'' query' options'', r.followArgs chain md' query response options' =
        some (chain', md'', query', options'') → Steady r runs hops (depth + 1) false chain' md'' query' options''

lemma followArgs_congr (chain : List String) {md md' : InboundContext} (h : queryOf md = queryOf md') (query : Query)
    (response : Msg) (options : Route.DNSQueryOptions) :
    (r.followArgs chain md query response options = none ∧ r.followArgs chain md' query response options = none) ∨
      ∃ chain' x x' query' options', queryOf x = queryOf x' ∧
        r.followArgs chain md query response options = some (chain', x, query', options') ∧
        r.followArgs chain md' query response options = some (chain', x', query', options') := by
  simp only [followArgs]
  split
  · exact .inl ⟨rfl, rfl⟩
  split
  · exact .inl ⟨rfl, rfl⟩
  split
  · exact .inl ⟨rfl, rfl⟩
  refine .inr ⟨_, _, _, _, _, ?_, rfl, rfl⟩
  have hlookup (md : InboundContext) (t : UInt16) (host : String) :
      queryOf { withLookupQueryMetadata md t with domain := host } =
        { withLookupQueryMetadata (queryOf md) t with domain := host } := rfl
  rw [hlookup, h, hlookup]

lemma resultOf_sim {chain : List String} {query : Query} {o' : Outcome} (h : SameOutcome o o')
    {exchange exchange' : List String → InboundContext → Query → Route.DNSQueryOptions → Result}
    (hex : ∀ response md options, o = .predefined response md options →
      ∀ chain' x x' query' options', queryOf x = queryOf x' →
        r.followArgs chain md query response options = some (chain', x, query', options') →
        exchange chain' x query' options' = exchange' chain' x' query' options') :
    r.resultOf exchange chain query o = r.resultOf exchange' chain query o' := by
  cases h with
  | result => rfl
  | @predefined response md md' options hmd =>
    simp only [resultOf, followPredefinedCNAME]
    rcases followArgs_congr (r := r) chain hmd query response options with ⟨hl, hr⟩ |
      ⟨chain', x, x', query', options', hx, hl, hr⟩
    · rw [hl, hr]
    rw [hl, hr]
    simp only [hex response md options rfl chain' x x' query' options' hx hl]

variable {runs : Runs} {chain : List String} {md md' : InboundContext} {query : Query}
  {options : Route.DNSQueryOptions} (hv : Validated r.rules) (hrace : ∀ rule ∈ r.rules, rule.race = false)
  (hflags : ∀ depth i t t', runs.disabled depth i t = runs.disabled depth i t')
include hv hrace hflags

lemma exchangeAlias_sim (hops depth : Nat) (hmd : queryOf md = queryOf md')
    (hu : r.Steady runs hops depth false chain md query options) :
    r.exchangeAlias runs hops depth chain md query options =
      r.exchangeAlias runs.sequential hops depth chain md' query options := by
  induction hops generalizing depth chain md md' query options with
  | zero => rfl
  | succ hops ih =>
    obtain ⟨hwalk, hnested⟩ := hu
    refine resultOf_sim (exchange_sim (w := r.walkAt runs depth query false) hv hrace (hflags depth) hmd hwalk) ?_
    intro response x options' ho chain' y y' query' options'' hy hargs
    exact ih (depth + 1) hy (hnested response x options' ho chain' y query' options'' hargs)

lemma exchangeWithRules_sim {allowFakeIP : Bool}
    (hu : r.Steady runs (r.aliasTargets.length + 1) 0 allowFakeIP chain md query options) :
    r.exchangeWithRules runs allowFakeIP chain md query options =
      r.exchangeWithRules runs.sequential allowFakeIP chain md query options := by
  obtain ⟨hwalk, hnested⟩ := hu
  refine resultOf_sim (exchange_sim (w := r.walkAt runs 0 query allowFakeIP) hv hrace (hflags 0) rfl hwalk) ?_
  intro response x options' ho chain' y y' query' options'' hy hargs
  exact exchangeAlias_sim hv hrace hflags _ 1 hy (hnested response x options' ho chain' y query' options'' hargs)

end Router

/-- The result of an exchange does not depend on when its evaluate exchanges complete, as long as no
bound response arrives between the two looks of a visit. -/
theorem exchange_order_irrelevant (r : Router) {v : Validation}
    (hvalid : validateLegacyDNSModeDisabledRules r.rules = .ok v) (hrace : ∀ rule ∈ r.rules, rule.race = false)
    (outcomes : Nat → Outcomes) (sched : Nat → Schedule) (disabled : Nat → Bool) (allowFakeIP : Bool)
    (chain : List String) (md : InboundContext) (query : Query) (options : Route.DNSQueryOptions)
    (hsteady : r.Steady ⟨outcomes, sched, fun _ i _ => disabled i⟩ (r.aliasTargets.length + 1) 0 allowFakeIP chain md
      query options) :
    r.exchangeWithRules ⟨outcomes, sched, fun _ i _ => disabled i⟩ allowFakeIP chain md query options =
      r.exchangeWithRules ⟨outcomes, fun _ _ => 0, fun _ i _ => disabled i⟩ allowFakeIP chain md query options :=
  Router.exchangeWithRules_sim (validate_ok hvalid) hrace (fun _ _ _ _ => rfl) hsteady

/-! ## A response that arrives between the two looks -/

/-- Two servers; the second rule answers with what the first rule's server said. -/
lemma queryTypeA_group : ∀ i ∈ [RuleItem.queryType [typeA]], i.group = .item := by decide

def twoServers : Router where
  env := .bare
  isFqdn _ := false
  transport tag := if tag = "x" then some ⟨"x", false⟩ else none
  default := ⟨"default", false⟩
  rules := [
    { rule := .default { items := [.queryType [typeA]], items_group := queryTypeA_group } none false none
      action := .evaluate "x" "x" {} false },
    { rule := .default { items := [.dnsResponseRCode rcodeSuccess] } none false (some "x")
      action := .respond }]

def twoServersQuery : Query := Router.followQuery "example.com." typeA

def twoServersOutcomes : Nat → Outcomes := fun _ _ transport _ _ =>
  .ok { id := if transport.tag = "x" then 1 else 2 }

theorem exchange_order_irrelevant_late :
    twoServers.exchangeWithRules ⟨twoServersOutcomes, fun _ _ => 10, fun _ _ _ => false⟩ true [] { queryType := typeA }
        twoServersQuery {} =
      twoServers.exchangeWithRules ⟨twoServersOutcomes, fun _ _ => 0, fun _ _ _ => false⟩ true [] { queryType := typeA }
        twoServersQuery {} :=
  exchange_order_irrelevant twoServers (v := ⟨false, ["x"]⟩) rfl (by decide) twoServersOutcomes (fun _ _ => 10)
    (fun _ => false) true [] { queryType := typeA } twoServersQuery {}
    ⟨steady_of_finished (n := 8) rfl (by decide), fun _ _ _ _ _ _ _ _ _ => trivial⟩

/-- The response arrives after `settleDNSFutures` has looked for it and before the walk asks whether
it is there: the rule that binds it sees none, and the default server is asked. -/
theorem late_completion_asks_default : validateLegacyDNSModeDisabledRules twoServers.rules = .ok ⟨false, ["x"]⟩ ∧
    (∀ rule ∈ twoServers.rules, rule.race = false) ∧
    (twoServers.exchangeWithRules ⟨twoServersOutcomes, fun _ _ => 3, fun _ _ _ => false⟩ true []
      { queryType := typeA } twoServersQuery {}).transport = some ⟨"default", false⟩ ∧
    (twoServers.exchangeWithRules ⟨twoServersOutcomes, fun _ _ => 0, fun _ _ _ => false⟩ true []
      { queryType := typeA } twoServersQuery {}).transport = some ⟨"x", false⟩ := by
  refine ⟨rfl, by decide, ?_, ?_⟩ <;> decide +kernel

end SingBox.Dns
