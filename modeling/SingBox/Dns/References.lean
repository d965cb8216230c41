import SingBox.Dns.Legacy
import SingBox.Dns.Interleaving
import SingBox.Route.References
import SingBox.Rule.PreLookup
/-!
# DNS references

`route/reference_rule.go`: which transports the DNS rules can use under a Clash
mode. A rule that is known to match always and has a final action shadows the
rules behind it and the default transport. The router, however, passes over
some of these rules for reasons that are not in the rule.
-/
namespace SingBox.Dns
open List Option
open Route (StaticMatch evaluateRule evaluateRule_below invertsNothing matched_of_below DNSQueryOptions)

/-! ## Collection -/

/-- A rule of the DNS router with the options it was made from. -/
structure ConfiguredDNSRule where
  options : RuleOptions
  action : RuleAction
  race : Bool := false
  disabled : Bool := false
  race_valid : race = true → action.raceable = true ∧ hasBindings options.newRule = true := by simp

def ConfiguredDNSRule.runtime (rule : ConfiguredDNSRule) : DNSRule where
  rule := rule.options.newRule
  action := rule.action
  race := rule.race
  race_valid := rule.race_valid

def enabledRuleOptions (rules : List ConfiguredDNSRule) : List ConfiguredDNSRule := rules.filter (!·.disabled)

/-- The switch of `collectDNSRuleReferences`: the server an action names, and whether it is final. -/
def RuleAction.references : RuleAction → Option String × Bool
  | .route server .. => (some server, true)
  | .evaluate server .. => (some server, false)
  | .respond | .reject _ | .predefined _ => (none, true)
  | .routeOptions _ => (none, false)

/-- `collectDNSRuleReferences`, and whether the default transport is shadowed. -/
def collectDNSRuleReferences (equalFold : String → String → Bool) (mode : String) :
    List ConfiguredDNSRule → List String → List String × Bool
  | [], transports => (transports, false)
  | rule :: rules, transports =>
    let m := evaluateRule equalFold mode rule.options
    if m = .never then collectDNSRuleReferences equalFold mode rules transports
    else
      let transports := transports ++ rule.action.references.1.toList
      if rule.action.references.2 && m = .always then (transports, true)
      else collectDNSRuleReferences equalFold mode rules transports

/-- The transports `ReferenceManager.update` takes from the DNS rules and the default. -/
def ruleTransports (r : Router) (mode : String) (rules : List ConfiguredDNSRule) : List String :=
  let (transports, shadowed) := collectDNSRuleReferences r.env.equalFold mode (enabledRuleOptions rules) []
  if shadowed then transports else transports ++ [r.default.tag]

open ConfiguredDNSRule Walk LegacyQuery WalkState

section Collect
variable {equalFold : String → String → Bool} {mode : String} {rules : List ConfiguredDNSRule}
  {rule : ConfiguredDNSRule}

/-- The collection ends with the rule. -/
def Stops (equalFold : String → String → Bool) (mode : String) (rule : ConfiguredDNSRule) : Prop :=
  rule.action.references.2 = true ∧ evaluateRule equalFold mode rule.options = .always

instance : Decidable (Stops equalFold mode rule) := inferInstanceAs (Decidable (_ ∧ _))

/-- What the collection makes of the rule depends on the static match: the rule ends it, or the server it names is
left out. -/
def Relied (equalFold : String → String → Bool) (mode : String) (rule : ConfiguredDNSRule) : Prop :=
  Stops equalFold mode rule ∨
    rule.action.references.1.isSome = true ∧ evaluateRule equalFold mode rule.options = .never

instance : Decidable (Relied equalFold mode rule) := inferInstanceAs (Decidable (_ ∨ _))

/-- The server that the rule names, if any, is not left out. -/
def NotDropped (equalFold : String → String → Bool) (mode : String) (rule : ConfiguredDNSRule) : Prop :=
  rule.action.references.1.isSome = true → evaluateRule equalFold mode rule.options ≠ .never

/-- The rules the collection comes to. -/
def reachedRules (equalFold : String → String → Bool) (mode : String) (rules : List ConfiguredDNSRule) :
    List ConfiguredDNSRule := Lists.upTo (fun rule => Stops equalFold mode rule) (enabledRuleOptions rules)

lemma collect_mono (rules : List ConfiguredDNSRule) (transports : List String) :
    ∀ x ∈ transports, x ∈ (collectDNSRuleReferences equalFold mode rules transports).1 := by
  induction rules generalizing transports with
  | nil => exact fun x hx => hx
  | cons rule rules ih =>
    intro x hx
    unfold collectDNSRuleReferences
    dsimp only
    split
    · exact ih transports x hx
    split
    · exact mem_append_left _ hx
    · exact ih _ x (mem_append_left _ hx)

lemma collect_cons_of_not_stops (h : ¬ Stops equalFold mode rule)
    (rules : List ConfiguredDNSRule) (transports : List String) :
    ∃ transports', collectDNSRuleReferences equalFold mode (rule :: rules) transports =
      collectDNSRuleReferences equalFold mode rules transports' := by
  rw [collectDNSRuleReferences]
  split
  · exact ⟨_, rfl⟩
  rw [if_neg (by simpa [Stops] using h)]
  exact ⟨_, rfl⟩

lemma collect_mem {before after : List ConfiguredDNSRule} {server : String}
    (hbefore : ∀ r ∈ before, ¬ Stops equalFold mode r) (hm : evaluateRule equalFold mode rule.options ≠ .never)
    (hserver : rule.action.references.1 = some server) (transports : List String) :
    server ∈ (collectDNSRuleReferences equalFold mode (before ++ rule :: after) transports).1 := by
  induction before generalizing transports with
  | nil =>
    rw [nil_append, collectDNSRuleReferences]
    rw [if_neg hm]
    have hmem : server ∈ transports ++ rule.action.references.1.toList := by simp [hserver]
    split
    · exact hmem
    · exact collect_mono _ _ _ hmem
  | cons r before ih =>
    obtain ⟨hr, hbefore⟩ := forall_mem_cons.1 hbefore
    obtain ⟨transports', he⟩ := collect_cons_of_not_stops hr (before ++ rule :: after) transports
    rw [cons_append, he]
    exact ih hbefore transports'

lemma collect_not_shadowed (h : ∀ r ∈ rules, ¬ Stops equalFold mode r) (transports : List String) :
    (collectDNSRuleReferences equalFold mode rules transports).2 = false := by
  induction rules generalizing transports with
  | nil => rfl
  | cons r rules ih =>
    obtain ⟨hr, h⟩ := forall_mem_cons.1 h
    obtain ⟨transports', he⟩ := collect_cons_of_not_stops hr rules transports
    rw [he]
    exact ih h transports'

def Reached (equalFold : String → String → Bool) (mode : String) (rules : List ConfiguredDNSRule) (i : Nat) : Prop :=
  ∀ rule ∈ enabledRuleOptions (rules.take i), ¬ Stops equalFold mode rule

lemma Reached.zero : Reached equalFold mode rules 0 := by
  intro rule hrule
  cases hrule

section
variable {i : Nat} (h : Reached equalFold mode rules i)
include h

lemma Reached.succ (hrule : rules[i]? = some rule) (hpass : rule.disabled = false → ¬ Stops equalFold mode rule) :
    Reached equalFold mode rules (i + 1) := by
  intro r hr
  rw [take_add_one, hrule, enabledRuleOptions, filter_append, mem_append] at hr
  rcases hr with hr | hr
  · exact h r hr
  simp only [toList_some, mem_filter, mem_singleton, Bool.not_eq_true'] at hr
  obtain ⟨rfl, hd⟩ := hr
  exact hpass hd

lemma Reached.split (hrule : rules[i]? = some rule) (hd : rule.disabled = false) :
    ∃ before after, enabledRuleOptions rules = before ++ rule :: after ∧ ∀ r ∈ before, ¬ Stops equalFold mode r := by
  obtain ⟨hi, rfl⟩ := List.getElem?_eq_some_iff.1 hrule
  refine ⟨enabledRuleOptions (rules.take i), enabledRuleOptions (rules.drop (i + 1)), ?_, h⟩
  conv_lhs => rw [← take_append_drop i rules, drop_eq_getElem_cons hi]
  simp only [enabledRuleOptions, filter_append, filter_cons, hd, Bool.not_false, if_true]

lemma Reached.mem (hrule : rules[i]? = some rule) (hd : rule.disabled = false) :
    rule ∈ reachedRules equalFold mode rules := by
  obtain ⟨before, after, hsplit, hbefore⟩ := h.split hrule hd
  rw [reachedRules, hsplit]
  exact Lists.mem_upTo fun r hr => decide_eq_false (hbefore r hr)

lemma Reached.server {server : String} (hrule : rules[i]? = some rule) (hd : rule.disabled = false)
    (hm : NotDropped equalFold mode rule) (hserver : rule.action.references.1 = some server) :
    server ∈ (collectDNSRuleReferences equalFold mode (enabledRuleOptions rules) []).1 := by
  obtain ⟨before, after, hsplit, hbefore⟩ := h.split hrule hd
  rw [hsplit]
  exact collect_mem hbefore (hm (by rw [hserver]; rfl)) hserver []

lemma Reached.default (hi : rules.length ≤ i) :
    (collectDNSRuleReferences equalFold mode (enabledRuleOptions rules) []).2 = false := by
  rw [Reached, take_of_length_le hi] at h
  exact collect_not_shadowed h []

end
end Collect

/-! ## Rules that decide -/

def LeavesUnmatched (equalFold : String → String → Bool) (mode : String) (options : RuleOptions) : Prop :=
  ∃ (other : Env) (md : InboundContext), other.clashMode = some mode ∧ other.equalFold = equalFold ∧
    (options.newRule.match other md.resetRuleCache).1 = false

/-- The transport of a server is there, and the query may use it. -/
def Usable (r : Router) (allowFakeIP : Bool) (server : String) : Prop :=
  ∃ transport ∈ r.transport server, transport.isFakeIP = true → allowFakeIP = true

variable (r : Router) (ks : List Nat)

lemma usable_cases (allowFakeIP : Bool) (server : String) :
    (∃ transport, r.transport server = some transport ∧ (transport.isFakeIP && !allowFakeIP) = false) ∨
      ¬ Usable r allowFakeIP server ∧
        ∀ transport, r.transport server = some transport → (transport.isFakeIP && !allowFakeIP) = true := by
  by_cases h : Usable r allowFakeIP server
  · obtain ⟨transport, ht, hallow⟩ := h
    exact .inl ⟨transport, ht, by cases hf : transport.isFakeIP <;> simp [hallow, hf]⟩
  · refine .inr ⟨h, fun transport ht => ?_⟩
    by_contra hskip
    exact h ⟨transport, ht, fun hf => by simpa [hf] using hskip⟩

section
variable (r : Router) (mode : String) (allowFakeIP : Bool) (rules : List ConfiguredDNSRule)

/-- What the collection relies on in both modes, of the rules it comes to: no inverted part of a rule whose static
match counts is without conditions, and a rule that routes every query of the mode names a transport that can be
used. -/
structure Reliable : Prop where
  invert : ∀ rule ∈ reachedRules r.env.equalFold mode rules, Relied r.env.equalFold mode rule →
    invertsNothing r.env.equalFold mode rule.options = false
  route : ∀ rule ∈ reachedRules r.env.equalFold mode rules, ∀ server options speculative,
    rule.action = .route server options speculative →
      Usable r allowFakeIP server ∨ LeavesUnmatched r.env.equalFold mode rule.options

/-- A reliable list of rules in a router that is in the mode and knows its transports by their tags. -/
structure Settled : Prop extends Reliable r mode allowFakeIP rules where
  clashMode : r.env.clashMode = some mode
  fold : ∀ a b, r.env.equalFold a b = r.env.equalFold b a
  tag : ∀ server transport, r.transport server = some transport → transport.tag = server

/-- The tag of a transport is collected, or it is the default and not shadowed. -/
def Referenced (transport : Transport) : Prop :=
  transport.tag ∈ (collectDNSRuleReferences r.env.equalFold mode (enabledRuleOptions rules) []).1 ∨
    (collectDNSRuleReferences r.env.equalFold mode (enabledRuleOptions rules) []).2 = false ∧ transport = r.default

end

variable {md : InboundContext} {i : Nat} {response : Option Msg} {c : Config} {t : Transport}

section Static
variable {r : Router} {mode : String} {rules : List ConfiguredDNSRule} {allowFakeIP : Bool}
  {rule : ConfiguredDNSRule} (hmode : r.env.clashMode = some mode)
  (hfold : ∀ a b, r.env.equalFold a b = r.env.equalFold b a)

include hmode hfold in
lemma static_match
    (hinvert : Relied r.env.equalFold mode rule → invertsNothing r.env.equalFold mode rule.options = false)
    (hd : md.deferredIPCIDRMatchGroups = 0) :
    (Stops r.env.equalFold mode rule → (rule.options.newRule.match r.env md).1 = true) ∧
      ((rule.options.newRule.match r.env md).1 = true → NotDropped r.env.equalFold mode rule) := by
  have hbelow (hrelied : Relied r.env.equalFold mode rule) :=
    matched_of_below (evaluateRule_below hmode hfold (hinvert hrelied) hd)
  refine ⟨fun hs => (hbelow (.inl hs)).1 hs.2, fun hmatched hserver hnever => ?_⟩
  rw [(hbelow (.inr ⟨hserver, hnever⟩)).2 hnever] at hmatched
  cases hmatched

include hfold in
lemma LeavesUnmatched.not_stops (h : LeavesUnmatched r.env.equalFold mode rule.options)
    (hinvert : Relied r.env.equalFold mode rule → invertsNothing r.env.equalFold mode rule.options = false) :
    ¬ Stops r.env.equalFold mode rule := by
  intro hs
  obtain ⟨other, md, hother, heq, hnot⟩ := h
  have hbelow : (evaluateRule other.equalFold mode rule.options).truth.Below
      ((rule.options.newRule.match other).verdict md.resetRuleCache) :=
    evaluateRule_below hother (heq ▸ hfold) (heq ▸ hinvert (.inl hs)) rfl
  rw [heq, hs.2] at hbelow
  rw [(matched_of_below hbelow).1 rfl] at hnot
  cases hnot

include hfold in
lemma Reliable.route_not_stops (h : Reliable r mode allowFakeIP rules)
    (hrule : rule ∈ reachedRules r.env.equalFold mode rules) {server : String} {options : RouteOptions}
    {speculative : Bool} (hact : rule.action = .route server options speculative)
    (hnot : ¬ Usable r allowFakeIP server) : ¬ Stops r.env.equalFold mode rule :=
  ((h.route rule hrule server options speculative hact).resolve_left hnot).not_stops hfold (h.invert rule hrule)

end Static

/-! ## The legacy mode -/

def legacyQuery (r : Router) (rules : List ConfiguredDNSRule) (allowFakeIP isAddressQuery : Bool) : LegacyQuery where
  router := { r with rules := rules.map ConfiguredDNSRule.runtime }
  disabled i := (rules[i]?.map (·.disabled)).getD false
  allowFakeIP
  isAddressQuery

lemma foldl_merge_disabled {α : Type} (f : α → ModeFlags) (l : List α) (flags : ModeFlags) :
    (l.foldl (fun flags a => flags.merge (f a)) flags).disabled = false ↔
      flags.disabled = false ∧ ∀ a ∈ l, (f a).disabled = false := by
  induction l generalizing flags with
  | nil => simp
  | cons a l ih =>
    rw [foldl_cons, ih]
    simp [ModeFlags.merge, and_assoc]

lemma legacy_rule {rules : List DNSRule} {flags : ModeFlags} (h : resolveLegacyDNSMode rules = .ok (true, flags))
    {rule : DNSRule} (hrule : rule ∈ rules) :
    rule.action.usesResponses = false ∧ (modeRequirementsInRule rule.rule).disabled = false := by
  have hdisabled : (modeRequirements rules).disabled = false := by
    unfold resolveLegacyDNSMode at h
    dsimp only at h
    split at h
    · cases h
    split at h
    · cases h
    next hn => simpa using hn
  have := ((foldl_merge_disabled _ _ _).1 hdisabled).2 rule hrule
  simp only [ModeFlags.merge, RuleAction.modeRequirements, Bool.or_eq_false_iff] at this
  exact ⟨this.1.1, this.2⟩

lemma legacyPreMatch_fst {env : Env} {rule : Rule} (h : (modeRequirementsInRule rule).disabled = false)
    (md : InboundContext) : (rule.legacyPreMatch env md).1 = (rule.match env md.beforeLookup).1 := by
  cases rule with
  | logical mode rules invert => rfl
  | default items ruleSetItem invert matchResponse =>
    cases matchResponse with
    | none => rfl
    | some tag =>
      simp [modeRequirementsInRule, modeRequirementsInDefaultRule, defaultRuleDisablesLegacyDNSMode] at h

section Legacy
variable {q : LegacyQuery} {mode : String} {rules : List ConfiguredDNSRule} {flags : ModeFlags}
  {rule : ConfiguredDNSRule}
  (hr : Settled q.router mode q.allowFakeIP rules)
  (hlegacy : resolveLegacyDNSMode (rules.map ConfiguredDNSRule.runtime) = .ok (true, flags))
  (hlimit : ∀ rule ∈ reachedRules q.router.env.equalFold mode rules, rule.options.newRule.withAddressLimit = true →
    rule.action.references.2 = true → LeavesUnmatched q.router.env.equalFold mode rule.options)
  (hdisabled : ∀ i rule, rules[i]? = some rule → q.disabled i = rule.disabled)

include hr hlegacy in
lemma legacyAction_cases (hrule : rules[i]? = some rule)
    (hd : rule.disabled = false) (hreached : Reached q.router.env.equalFold mode rules i)
    (hm : NotDropped q.router.env.equalFold mode rule) (options : DNSQueryOptions) :
    (∀ transport options', q.legacyAction rule.action options = .ok (transport, options') →
      ∀ t ∈ transport, Referenced q.router mode rules t) ∧
    ∀ options', q.legacyAction rule.action options = .error options' → ¬ Stops q.router.env.equalFold mode rule := by
  have hen := hreached.mem hrule hd
  have hnotFinal (hf : rule.action.references.2 = false) : ¬ Stops q.router.env.equalFold mode rule := fun hs => by
    simp [Stops, hf] at hs
  cases hact : rule.action with
  | routeOptions options | evaluate server tag options speculative =>
    exact ⟨by simp [legacyAction], fun _ _ => hnotFinal (by rw [hact]; rfl)⟩
  | respond =>
    have := (legacy_rule hlegacy (mem_map_of_mem (mem_of_getElem? hrule))).1
    simp [runtime, hact, RuleAction.usesResponses] at this
  | reject action | predefined action => simp [legacyAction]
  | route server routeOptions speculative =>
    obtain ⟨transport, ht, hok⟩ | ⟨hnot, hskip⟩ := usable_cases q.router q.allowFakeIP server
    · simp only [legacyAction, ht, hok]
      refine ⟨fun t options' heq t' hmem => ?_, by simp⟩
      obtain rfl : transport = t' := by
        rw [← (Prod.mk.inj (Except.ok.inj heq)).1] at hmem
        simpa using hmem
      rw [Referenced, hr.tag server transport ht]
      exact .inl (hreached.server hrule hd hm (by rw [hact]; rfl))
    have hpassed : q.legacyAction (.route server routeOptions speculative) options = .error options := by
      simp only [legacyAction]
      split
      · rfl
      next transport ht => rw [if_pos (hskip transport ht)]
    rw [hpassed]
    exact ⟨by simp, fun _ _ => hr.route_not_stops hr.fold hen hact hnot⟩

include hr hlegacy in
lemma legacyPreMatch_static (hrule : rule ∈ rules) (hen : rule ∈ reachedRules q.router.env.equalFold mode rules)
    (hd : md.deferredIPCIDRMatchGroups = 0) :
    (Stops q.router.env.equalFold mode rule → (rule.runtime.rule.legacyPreMatch q.router.env md).1 = true) ∧
    ((rule.runtime.rule.legacyPreMatch q.router.env md).1 = true → NotDropped q.router.env.equalFold mode rule) := by
  rw [legacyPreMatch_fst (legacy_rule hlegacy (mem_map_of_mem hrule)).2]
  exact static_match hr.clashMode hr.fold (hr.invert rule hen) hd

include hr hlegacy hlimit hdisabled in
lemma matchDNS_referenced (l : List ConfiguredDNSRule) : ∀ (i : Nat) (md : InboundContext)
    (options : DNSQueryOptions), rules.drop i = l → Reached q.router.env.equalFold mode rules i →
    (∀ t ∈ (q.matchDNS i (l.map runtime) md options).transport, Referenced q.router mode rules t) ∧
      ∀ j rule, (q.matchDNS i (l.map runtime) md options).rule = some (j, rule) →
        rule.rule.withAddressLimit = true → Reached q.router.env.equalFold mode rules (j + 1) := by
  induction l with
  | nil =>
    intro i md options hdrop hreached
    rw [map_nil, matchDNS]
    refine ⟨fun t ht => .inr ⟨hreached.default (drop_eq_nil_iff.1 hdrop), ?_⟩, by simp⟩
    exact (some.inj ht).symm
  | cons rule l ih =>
    intro i md options hdrop hreached
    have hi : i < rules.length := by
      by_contra hge
      rw [drop_eq_nil_of_le (by omega)] at hdrop
      cases hdrop
    rw [drop_eq_getElem_cons hi, cons.injEq] at hdrop
    obtain ⟨hget, hdrop⟩ := hdrop
    have hrule : rules[i]? = some rule := by rw [getElem?_eq_getElem hi, hget]
    have hnext (hpass : rule.disabled = false → ¬ Stops q.router.env.equalFold mode rule) (md : InboundContext)
        (options : DNSQueryOptions) := ih (i + 1) md options hdrop (hreached.succ hrule hpass)
    rw [map_cons, matchDNS, hdisabled i rule hrule]
    by_cases hd : rule.disabled = true
    · rw [if_pos hd]
      exact hnext (fun h => by simp [hd] at h) md options
    rw [if_neg hd]
    rw [Bool.not_eq_true] at hd
    have hen := hreached.mem hrule hd
    have hlimited (hlim : rule.runtime.rule.withAddressLimit = true) : ¬ Stops q.router.env.equalFold mode rule :=
      fun hs => (hlimit rule hen hlim hs.1).not_stops hr.fold (hr.invert rule hen) hs
    by_cases hskip : (rule.runtime.rule.withAddressLimit && !q.isAddressQuery) = true
    · rw [if_pos hskip]
      exact hnext (fun _ => hlimited (Bool.and_eq_true _ _ ▸ hskip).1) md options
    rw [if_neg hskip]
    obtain ⟨halways, hkept⟩ := legacyPreMatch_static hr hlegacy (mem_of_getElem? hrule)
      hen (show InboundContext.deferredIPCIDRMatchGroups
        { md.resetRuleCache with destinationAddressMatchFromResponse := false } = 0 from rfl)
    generalize rule.runtime.rule.legacyPreMatch q.router.env _ = out at halways hkept
    obtain ⟨matched, md⟩ := out
    cases matched with
    | false => exact hnext (fun _ hs => by cases halways hs) md options
    | true =>
      simp only [if_true]
      obtain ⟨hok, herr⟩ := legacyAction_cases hr hlegacy hrule hd hreached (hkept rfl) options
      rw [show rule.runtime.action = rule.action from rfl]
      cases hact : q.legacyAction rule.action options with
      | error options' => exact hnext (fun _ => herr options' hact) md options'
      | ok decided =>
        refine ⟨hok decided.1 decided.2 hact, fun j rule' hj hlim => ?_⟩
        obtain ⟨rfl, rfl⟩ : i = j ∧ rule.runtime = rule' := by simpa using hj
        exact hreached.succ hrule fun _ => hlimited hlim

include hr hlegacy hlimit hdisabled in
lemma transportsFrom_referenced (hrules : q.router.rules = rules.map runtime)
    (refused : Nat → Bool) (options : DNSQueryOptions) (fuel : Nat) :
    ∀ (i : Nat) (md : InboundContext), Reached q.router.env.equalFold mode rules i →
      ∀ t ∈ q.transportsFrom refused options fuel i md, Referenced q.router mode rules t := by
  induction fuel with
  | zero => exact fun _ _ _ _ ht => by cases ht
  | succ fuel ih =>
    intro i md hreached t ht
    rw [transportsFrom, hrules, ← map_drop] at ht
    obtain ⟨hall, hlimited⟩ := matchDNS_referenced hr hlegacy hlimit hdisabled
      (rules.drop i) i md options rfl hreached
    generalize q.matchDNS i _ md options = m at hall hlimited ht
    obtain ⟨transport, rule, md', options'⟩ := m
    cases transport with
    | none => cases ht
    | some transport =>
      have htransport : Referenced q.router mode rules transport := hall transport rfl
      cases rule with
      | none =>
        obtain rfl := mem_singleton.1 ht
        exact htransport
      | some found =>
        obtain ⟨j, rule⟩ := found
        dsimp only at ht
        split at ht
        next hagain =>
          rcases mem_cons.1 ht with rfl | ht
          · exact htransport
          · exact ih (j + 1) md' (hlimited j rule rfl (Bool.and_eq_true _ _ ▸ hagain).1) t ht
        · obtain rfl := mem_singleton.1 ht
          exact htransport

end Legacy

/-! ## The walk -/

def configuredWalk (r : Router) (rules : List ConfiguredDNSRule) (outcomes : Outcomes) (sched : Schedule)
    (query : Query) (allowFakeIP : Bool) : Walk where
  router := { r with rules := rules.map ConfiguredDNSRule.runtime }
  outcomes
  sched
  disabled i _ := (rules[i]?.map (·.disabled)).getD false
  query
  allowFakeIP

def Outcome.transport : Outcome → Option Transport
  | .result r => r.transport
  | .predefined .. => none

/-- The transport of the exchange a walk has come to, or of its result. -/
def Control.transport : Control → Option Transport
  | .resume (.pending p) => some p.transport
  | .finished outcome => outcome.transport
  | .walk | .resume (.await _) | .resume .drain => none

/-- The transports a walk uses: those of its background exchanges and of the last one. -/
def Config.transports (c : Config) : List Transport := c.state.futures.map (·.transport) ++ c.control.transport.toList

section Walk
variable {w : Walk} {mode : String} {rules : List ConfiguredDNSRule} {s s' : WalkState} {rule : ConfiguredDNSRule}

section
variable (w mode rules)

/-- An armed rule is an enabled one that the collection reaches. -/
def ArmedReached (a : ArmedRule) : Prop :=
  ∃ rule, rules[a.ruleIndex]? = some rule ∧ rule.disabled = false ∧ a.rule = rule.runtime ∧
    Reached w.router.env.equalFold mode rules a.ruleIndex

/-- What a walk has used so far is referenced, and its place is one that the collection reaches. -/
structure Covered (s : WalkState) : Prop where
  futures : ∀ f ∈ s.futures, Referenced w.router mode rules f.transport
  named : ∀ tag t, s.namedTransports tag = some t → Referenced w.router mode rules t
  armed : ∀ a ∈ s.armedRules, ArmedReached w mode rules a
  reached : Reached w.router.env.equalFold mode rules s.ruleIndex

structure CoveredConfig (c : Config) : Prop where
  state : Covered w mode rules c.state
  control : ∀ t ∈ c.control.transport, Referenced w.router mode rules t

end

section
variable (h : Covered w mode rules s)
include h

namespace Covered

lemma tick : Covered w mode rules s.tick := { h with }
lemma record (e : Event) : Covered w mode rules (s.record e) := { h with }

lemma settle : Covered w mode rules (s.settleDNSFutures w.sched) := by
  have hfold (l : List (Future × Nat)) (hl : ∀ f ∈ l, Referenced w.router mode rules f.1.transport) (t : WalkState)
      (ht : Covered w mode rules t) : Covered w mode rules (l.foldl (settleFuture w.sched) t) := by
    induction l generalizing t with
    | nil => exact ht
    | cons f l ih =>
      obtain ⟨hf, hl⟩ := forall_mem_cons.1 hl
      refine ih hl _ ?_
      simp only [settleFuture]
      split
      · exact ht.tick
      split
      · exact { ht with }
      refine { ht with named := fun tag t' hn => ?_ }
      by_cases htag : tag = f.1.tag
      · subst htag
        obtain rfl : f.1.transport = t' := by simpa using hn
        exact hf
      · exact ht.named tag t' (by simpa [Function.update_of_ne htag] using hn)
  refine hfold _ (fun f hf => h.futures f.1 ?_) s h
  exact fst_mem_of_mem_zipIdx hf

lemma await : Covered w mode rules (s.awaitFuture w.sched ks).2 := by
  obtain ⟨c, hc⟩ := awaitFuture_eq w.sched ks s
  rw [hc]
  exact { h with }

lemma pending : Covered w mode rules (s.pendingFutures w.sched ks).2 := by
  induction ks generalizing s with
  | nil => exact h
  | cons k ks ih => exact ih h.tick

lemma examine (rule : Rule) (response : Option Msg) :
    Covered w mode rules (examine w.router.env rule response s).2 := { h with }

lemma transportOf {k : Nat} (ht : s.transportOf k = some t) :
    Referenced w.router mode rules t := by
  obtain ⟨f, hf, rfl⟩ := map_eq_some_iff.1 ht
  exact h.futures f (mem_of_getElem? hf)

end Covered

omit h in
lemma respondWith_transport {transport : Option Transport}
    (h : (respondWith response transport).transport = some t) : transport = some t := by
  cases response with
  | none => cases h
  | some response => exact h

omit h in
lemma rejectWith_transport (query : Query) (action : Reject) :
    (rejectWith r query action).transport = none := by
  unfold rejectWith
  split <;> rfl

/-! ### Steps -/

lemma Covered.suspend (suspension : Suspension)
    (hp : ∀ p, suspension = .pending p → Referenced w.router mode rules p.transport) :
    CoveredConfig w mode rules (s.suspend suspension) where
  state := h.tick
  control t ht := by
    cases suspension with
    | await k | drain => cases ht
    | pending p => exact some.inj ht ▸ hp p rfl

lemma Covered.drain : CoveredConfig w mode rules (s.suspend .drain) :=
  h.suspend .drain fun _ hp => Suspension.noConfusion hp

lemma Covered.finish {outcome : Outcome} (ho : ∀ t ∈ outcome.transport, Referenced w.router mode rules t) :
    CoveredConfig w mode rules (s.finish outcome) := ⟨h, ho⟩

lemma Covered.next (hrule : rules[s.ruleIndex]? = some rule)
    (hpass : rule.disabled = false → ¬ Stops w.router.env.equalFold mode rule) :
    CoveredConfig w mode rules s.next where
  state := { h with reached := h.reached.succ hrule hpass }
  control _ ht := by cases ht

lemma Covered.launch {transport : Transport}
    (ht : Referenced w.router mode rules transport) (tag : String) (options : DNSQueryOptions) :
    Covered w mode rules (w.launchDNSEvaluate s tag transport options) where
  futures f hf := by
    rcases mem_append.1 hf with hf | hf
    · exact h.futures f hf
    rw [mem_singleton.1 hf]
    exact ht
  __ := h

end

lemma resolveDNSRoute_transport (server : String) (routeOptions : RouteOptions) (allowFakeIP : Bool)
    (options : DNSQueryOptions) :
    (∀ transport options', r.resolveDNSRoute server routeOptions allowFakeIP options = some (transport, options') →
      r.transport server = some transport) ∧
    (r.resolveDNSRoute server routeOptions allowFakeIP options = none → ¬ Usable r allowFakeIP server) := by
  unfold Router.resolveDNSRoute
  obtain ⟨transport, ht, hok⟩ | ⟨hnot, hskip⟩ := usable_cases r allowFakeIP server
  · simp only [ht, hok]
    exact ⟨fun t options' h => by simp_all, by simp⟩
  · refine ⟨fun transport options' h => ?_, fun _ => hnot⟩
    split at h
    · cases h
    next transport ht =>
      rw [if_pos (hskip transport ht)] at h
      cases h

variable (hr : Settled w.router mode w.allowFakeIP rules)
include hr in
lemma examine_static (hen : rule ∈ reachedRules w.router.env.equalFold mode rules) (response : Option Msg)
    (s : WalkState) :
    (Stops w.router.env.equalFold mode rule →
      (Dns.examine w.router.env rule.runtime.rule response s).1 = true) ∧
    ((Dns.examine w.router.env rule.runtime.rule response s).1 = true → NotDropped w.router.env.equalFold mode rule) :=
  static_match hr.clashMode hr.fold (hr.invert rule hen)
    (show (forRule s.metadata response s.namedResponses).deferredIPCIDRMatchGroups = 0 from rfl)

include hr in
lemma Reached.referenced {server : String} {transport : Transport}
    (h : Reached w.router.env.equalFold mode rules i) (hrule : rules[i]? = some rule) (hd : rule.disabled = false)
    (hm : NotDropped w.router.env.equalFold mode rule) (hserver : rule.action.references.1 = some server) (ht : w.router.transport server = some transport) :
    Referenced w.router mode rules transport := by
  rw [Referenced, hr.tag server transport ht]
  exact .inl (h.server hrule hd hm hserver)

def Commit.transport : Commit → Option Transport
  | .outcome o => o.transport
  | .pending p => some p.transport

include hr in
lemma commitArmed_referenced {a : ArmedRule} (ha : ArmedReached w mode rules a) (h : Covered w mode rules s)
    {s₀ : WalkState} (hm : (Dns.examine w.router.env a.rule.rule response s₀).1 = true)
    {commit : Commit} (hc : w.commitArmed a s = .ok commit) :
    ∀ t ∈ commit.transport, Referenced w.router mode rules t := by
  obtain ⟨rule, hrule, hd, harule, hreached⟩ := ha
  rw [harule] at hm
  have hkept := (examine_static hr (hreached.mem hrule hd) response s₀).2 hm
  unfold commitArmed at hc
  rw [harule] at hc
  cases hact : rule.action with
  | routeOptions options | evaluate server tag options speculative => simp [runtime, hact] at hc
  | respond =>
    simp only [runtime, hact, Except.ok.injEq] at hc
    subst hc
    intro t ht
    simp only [Commit.transport, armedResponse] at ht
    split at ht
    · exact h.named _ t (respondWith_transport ht)
    split at ht
    · exact h.transportOf (respondWith_transport ht)
    obtain ⟨k, -, hk⟩ := bind_eq_some_iff.1 (respondWith_transport ht)
    exact h.transportOf hk
  | reject action =>
    simp only [runtime, hact, Except.ok.injEq] at hc
    subst hc
    intro t ht
    rw [Commit.transport, rejectWith_transport] at ht
    cases ht
  | predefined action =>
    simp only [runtime, hact, Except.ok.injEq] at hc
    subst hc
    exact fun t ht => by cases ht
  | route server options speculative =>
    simp only [runtime, hact] at hc
    cases hres : w.router.resolveDNSRoute server options w.allowFakeIP a.options with
    | none => simp [hres] at hc
    | some found =>
      simp only [hres, Except.ok.injEq] at hc
      subst hc
      intro t ht
      cases ht
      exact hreached.referenced hr hrule hd hkept (by rw [hact]; rfl) ((resolveDNSRoute_transport ..).1 found.1 found.2 hres)

include hr in
lemma sweep_referenced (i : Nat) (todo : List ArmedRule) : ∀ (kept : List ArmedRule) (s : WalkState),
    s.ruleIndex = i → Covered w mode rules s → (∀ a ∈ kept, ArmedReached w mode rules a) →
    (∀ a ∈ todo, ArmedReached w mode rules a) → (w.sweep kept todo s).2.ruleIndex = i ∧
      Covered w mode rules (w.sweep kept todo s).2 ∧
      ∀ commit, (w.sweep kept todo s).1 = some commit →
        ∀ t ∈ commit.transport, Referenced w.router mode rules t := by
  induction todo with
  | nil => exact fun kept s hi h hk _ => ⟨hi, { h with armed := hk }, by simp [sweep]⟩
  | cons a todo ih =>
    intro kept s hi h hk ha
    obtain ⟨haa, ha⟩ := forall_mem_cons.1 ha
    have hawait := h.await a.futures
    have hindex := (awaitFuture_looked w.sched a.futures s).ruleIndex.trans hi
    simp only [sweep]
    split
    next k s' heq =>
      rw [heq] at hawait hindex
      exact ih _ s' hindex hawait (forall_mem_append.2 ⟨hk, by simpa using haa⟩) ha
    next s' heq =>
      rw [heq] at hawait hindex
      split
      · exact ih _ _ hindex (hawait.tick.record _) hk ha
      have hexam := hawait.examine a.rule.rule (w.armedView a s')
      split
      next hm =>
        split
        next commit hc =>
          refine ⟨hindex, { hexam with armed := forall_mem_append.2 ⟨hk, ha⟩ }, ?_⟩
          intro commit' heq'
          cases heq'
          exact commitArmed_referenced hr haa hexam hm hc
        next reason _ =>
          cases reason with
          | none => exact ih _ _ hindex hexam hk ha
          | some reason => exact ih _ _ hindex (hexam.record _) hk ha
      next => exact ih _ _ hindex (hexam.record _) hk ha

lemma CoveredConfig.afterSweep {out : Option Commit × WalkState} (h : Covered w mode rules out.2)
    (hc : ∀ commit, out.1 = some commit → ∀ t ∈ commit.transport, Referenced w.router mode rules t)
    (hnext : out.1 = none → CoveredConfig w mode rules out.2.next) : CoveredConfig w mode rules (afterSweep out) := by
  obtain ⟨commit, s⟩ := out
  cases commit with
  | none => exact hnext rfl
  | some commit =>
    cases commit with
    | outcome outcome => exact h.finish (hc _ rfl)
    | pending p =>
      have hempty : Covered w mode rules { s with armedRules := [] } :=
        { h with armed := fun _ ha => absurd ha not_mem_nil }
      refine hempty.suspend _ fun p' hp => ?_
      obtain rfl := Suspension.pending.inj hp
      exact hc _ rfl p.transport rfl

section
variable (h : Covered w mode rules s)
include h

lemma Covered.finishPending {p : PendingExchange}
    (hp : Referenced w.router mode rules p.transport) : CoveredConfig w mode rules (w.finishPendingExchange s p) := by
  have hresult (transport : Transport) (outcome : Except String Msg) :
      (Outcome.result (exchangeResult (some transport) outcome)).transport = some transport := by
    cases outcome <;> rfl
  unfold finishPendingExchange
  split
  next future heq =>
    obtain ⟨k, -, hk⟩ := bind_eq_some_iff.1 heq
    refine h.finish fun t ht => ?_
    rw [hresult] at ht
    exact some.inj ht ▸ h.futures future (mem_of_getElem? hk)
  next =>
    refine (h.record _).finish fun t ht => ?_
    rw [hresult] at ht
    exact some.inj ht ▸ hp

lemma Covered.terminal {act : WalkState → Config}
    (hact : CoveredConfig w mode rules (act (s.record (.effect (some s.ruleIndex))))) :
    CoveredConfig w mode rules (Walk.terminal s act) := by
  unfold Walk.terminal
  split
  · exact h.drain
  · exact hact

lemma Covered.evaluate
    (hrule : rules[s.ruleIndex]? = some rule) (hpass : rule.disabled = false → ¬ Stops w.router.env.equalFold mode rule)
    {transport : Transport} (ht : Referenced w.router mode rules transport) (tag : String) (options : RouteOptions) :
    CoveredConfig w mode rules (w.evaluate s tag transport options) := by
  have hlaunch := h.launch ht tag (applyDNSRouteOptions s.effectiveOptions options)
  unfold Walk.evaluate
  split
  · exact Covered.next { hlaunch with } hrule hpass
  · exact Covered.next { hlaunch with } hrule hpass

lemma Covered.respond (rule : Rule) : CoveredConfig w mode rules (w.respond rule s) := by
  unfold Walk.respond
  split
  · exact h.finish fun t ht => h.named _ t (respondWith_transport ht)
  refine h.finish fun t ht => ?_
  obtain ⟨k, -, hk⟩ := bind_eq_some_iff.1 (respondWith_transport ht)
  exact h.transportOf hk

lemma Covered.route {transport : Transport}
    (ht : Referenced w.router mode rules transport) (options : DNSQueryOptions) (speculative : Bool) :
    CoveredConfig w mode rules (w.route s transport options speculative) := by
  have hpending {s : WalkState} (h : Covered w mode rules s) {p : PendingExchange}
      (hp : Referenced w.router mode rules p.transport) : CoveredConfig w mode rules (s.suspend (.pending p)) :=
    h.suspend _ fun p' heq => Suspension.pending.inj heq ▸ hp
  unfold Walk.route
  split
  · split
    · exact Covered.drain { h.launch ht "" options with }
    · exact h.drain
  dsimp only
  split
  next k _ =>
    split
    · refine hpending (h.record _) ?_
      change Referenced w.router mode rules ((s.transportOf k).getD transport)
      cases hk : s.transportOf k with
      | none => exact ht
      | some t => exact h.transportOf hk
    · exact hpending (h.record _) ht
  next => exact hpending (h.record _) ht

include hr in
lemma act_covered (hrule : rules[s.ruleIndex]? = some rule)
    (hd : rule.disabled = false) (hm : NotDropped w.router.env.equalFold mode rule) :
    CoveredConfig w mode rules (w.act rule.runtime s) := by
  have hreferenced {server : String} {transport : Transport} (hserver : rule.action.references.1 = some server)
      (ht : w.router.transport server = some transport) : Referenced w.router mode rules transport :=
    h.reached.referenced hr hrule hd hm hserver ht
  have hgoesOn (hf : rule.action.references.2 = false) (_ : rule.disabled = false) :
      ¬ Stops w.router.env.equalFold mode rule := fun hs => by simp [Stops, hf] at hs
  unfold act
  rw [show rule.runtime.action = rule.action from rfl]
  cases hact : rule.action with
  | routeOptions options =>
    exact Covered.next { h with } hrule (hgoesOn (by rw [hact]; rfl))
  | evaluate server tag options speculative =>
    have hpass := hgoesOn (by rw [hact]; rfl)
    dsimp only
    cases ht : w.router.transport server with
    | none =>
      dsimp only
      split
      · exact Covered.next { h with } hrule hpass
      · exact h.next hrule hpass
    | some transport =>
      have htransport := hreferenced (by rw [hact]; rfl) ht
      dsimp only
      split
      · exact h.evaluate hrule hpass htransport tag options
      · exact h.terminal ((h.record _).evaluate hrule hpass htransport tag options)
  | respond =>
    dsimp only
    split
    · exact h.drain
    split
    · exact h.suspend (.await _) fun _ hp => Suspension.noConfusion hp
    · exact (h.tick.record _).respond rule.runtime.rule
  | route server options speculative =>
    obtain ⟨hfound, hnot⟩ := resolveDNSRoute_transport w.router server options w.allowFakeIP s.effectiveOptions
    dsimp only
    cases hres : w.router.resolveDNSRoute server options w.allowFakeIP s.effectiveOptions with
    | none =>
      exact h.next hrule fun _ => hr.route_not_stops hr.fold (h.reached.mem hrule hd) hact (hnot hres)
    | some found =>
      exact h.route (hreferenced (by rw [hact]; rfl) (hfound found.1 found.2 hres)) found.2 speculative
  | reject action =>
    refine h.terminal ((h.record _).finish fun t ht => ?_)
    rw [rejectWith_transport] at ht
    cases ht
  | predefined action => exact h.terminal ((h.record _).finish fun t ht => by cases ht)

include hr in
lemma examineRule_covered (hrule : rules[s.ruleIndex]? = some rule) (hd : rule.disabled = false) :
    CoveredConfig w mode rules (w.examineRule rule.runtime s) := by
  have hlook := bindings_looked w.sched rule.runtime.rule s
  have hvisit : Covered w mode rules
      (if hasBindings rule.runtime.rule then s.visit w.sched rule.runtime.rule else (none, s)).2 := by
    split
    · exact h.settle.await _
    · exact h
  simp only [examineRule]
  split
  next k s' heq =>
    rw [heq] at hvisit
    exact hvisit.suspend (.await k) fun _ hp => Suspension.noConfusion hp
  next s' heq =>
    rw [heq] at hvisit hlook
    have hrule' : rules[s'.ruleIndex]? = some rule := hlook.ruleIndex ▸ hrule
    obtain ⟨halways, hkept⟩ := examine_static hr (h.reached.mem hrule hd) (s'.anonymousResponse w.sched) s'
    have hexam := hvisit.examine rule.runtime.rule (s'.anonymousResponse w.sched)
    split
    next hmatched => exact act_covered hr hexam hrule' hd (hkept hmatched)
    next hmatched => exact hexam.next hrule' fun _ hs => hmatched (halways hs)

end

variable (hrace : ∀ rule ∈ reachedRules w.router.env.equalFold mode rules, rule.race = true →
    LeavesUnmatched w.router.env.equalFold mode rule.options)
  (hrules : w.router.rules = rules.map ConfiguredDNSRule.runtime)
  (hdisabled : ∀ i t rule, rules[i]? = some rule → w.disabled i t = rule.disabled)

include hr in
lemma sweepArmed_referenced (h : Covered w mode rules s) :
    (w.sweepArmedDNSRules s).2.ruleIndex = s.ruleIndex ∧ Covered w mode rules (w.sweepArmedDNSRules s).2 ∧
      ∀ commit, (w.sweepArmedDNSRules s).1 = some commit → ∀ t ∈ commit.transport, Referenced w.router mode rules t :=
  sweep_referenced hr s.ruleIndex s.armedRules [] s rfl h (fun _ ha => absurd ha not_mem_nil) h.armed

include hr hrace in
lemma arm_covered (h : Covered w mode rules s) (hrule : rules[s.ruleIndex]? = some rule)
    (hd : rule.disabled = false) (hraces : rule.race = true) : CoveredConfig w mode rules (w.arm rule.runtime s) := by
  have hen := h.reached.mem hrule hd
  -- An armed rule does not end the walk, so it must not end the collection either.
  have hpass : ¬ Stops w.router.env.equalFold mode rule :=
    (hrace rule hen hraces).not_stops hr.fold (hr.invert rule hen)
  simp only [arm]
  set s₁ := s.settleDNSFutures w.sched with hs₁
  have hlook : Looked s (s₁.pendingFutures w.sched (s₁.boundFutures rule.runtime.rule)).2 :=
    (settle_looked w.sched s).trans (pendingFutures_looked w.sched _ s₁)
  have hpending := h.settle.pending (s₁.boundFutures rule.runtime.rule)
  rw [← hs₁] at hpending
  generalize s₁.pendingFutures w.sched (s₁.boundFutures rule.runtime.rule) = out at hlook hpending ⊢
  obtain ⟨pending, s₂⟩ := out
  have hrule₂ : rules[s₂.ruleIndex]? = some rule := hlook.ruleIndex ▸ hrule
  generalize hs₃ : record { s₂ with armedRules := s₂.armedRules ++ [_] } _ = s₃
  have hindex : s₃.ruleIndex = s₂.ruleIndex := by rw [← hs₃]; rfl
  have harmed : Covered w mode rules s₃ := by
    rw [← hs₃]
    refine { hpending with armed := forall_mem_append.2 ⟨hpending.armed, ?_⟩ }
    intro a ha
    rw [mem_singleton.1 ha]
    exact ⟨rule, hrule₂, hd, rfl, hpending.reached⟩
  split
  · obtain ⟨hkept, hswept, hcommit⟩ := sweepArmed_referenced hr harmed
    refine .afterSweep hswept hcommit fun _ => hswept.next ?_ fun _ => hpass
    rw [hkept, hindex]
    exact hrule₂
  · exact harmed.next (hindex ▸ hrule₂) fun _ => hpass

include hr hrace hrules hdisabled in
lemma walkStep_covered (h : Covered w mode rules s) : CoveredConfig w mode rules (w.walkStep s) := by
  unfold walkStep
  rw [hrules, getElem?_map]
  cases hrule : rules[s.ruleIndex]? with
  | none =>
    dsimp only [map_none]
    split
    · exact h.drain
    refine (h.record _).suspend _ fun p hp => ?_
    obtain rfl := Suspension.pending.inj hp
    exact .inr ⟨h.reached.default (getElem?_eq_none_iff.1 hrule), rfl⟩
  | some rule =>
    dsimp only [map_some]
    rw [hdisabled _ _ rule hrule]
    by_cases hd : rule.disabled = true
    · rw [if_pos hd]
      exact h.next hrule fun hn => by simp [hd] at hn
    rw [if_neg hd]
    rw [Bool.not_eq_true] at hd
    split
    next harm => exact arm_covered hr hrace h hrule hd (Bool.and_eq_true _ _ ▸ harm).2
    next => exact examineRule_covered hr h hrule hd

include hr in
lemma resumeStep_covered (h : Covered w mode rules s) {suspension : Suspension}
    (hs : ∀ p, suspension = .pending p → Referenced w.router mode rules p.transport) :
    CoveredConfig w mode rules (w.resumeStep suspension s) := by
  obtain ⟨-, hswept, hcommit⟩ := sweepArmed_referenced hr h.settle
  have hwalk {s : WalkState} (h : Covered w mode rules s) : CoveredConfig w mode rules ⟨.walk, s.tick⟩ :=
    ⟨h.tick, fun t ht => by cases ht⟩
  unfold resumeStep
  generalize w.sweepArmedDNSRules (s.settleDNSFutures w.sched) = out at hswept hcommit
  obtain ⟨commit, s'⟩ := out
  cases commit with
  | some commit =>
    cases commit with
    | outcome outcome => exact hswept.finish (hcommit _ rfl)
    | pending p => exact hswept.finishPending (hcommit _ rfl p.transport rfl)
  | none =>
    cases suspension with
    | pending p => exact hswept.finishPending (hs p rfl)
    | await k =>
      dsimp only
      split
      · exact hwalk hswept
      · exact hswept.suspend (.await k) fun _ hp => Suspension.noConfusion hp
    | drain =>
      dsimp only
      split
      · exact hswept.drain
      · exact hwalk hswept

include hr hrace hrules hdisabled in
lemma step_covered (h : CoveredConfig w mode rules c) : CoveredConfig w mode rules (w.step c) := by
  obtain ⟨control, s⟩ := c
  cases control with
  | walk => exact walkStep_covered hr hrace hrules hdisabled h.state
  | resume suspension =>
    exact resumeStep_covered hr h.state fun p hp => h.control p.transport (by rw [hp]; rfl)
  | finished outcome => exact h

include hr hrace hrules hdisabled in
lemma run_covered (n : Nat) (h : CoveredConfig w mode rules c) :
    CoveredConfig w mode rules (w.run n c) := by
  induction n generalizing c with
  | zero => exact h
  | succ n ih =>
    rw [run_succ]
    exact ih (step_covered hr hrace hrules hdisabled h)

lemma start_covered (md : InboundContext) (options : DNSQueryOptions) :
    CoveredConfig w mode rules (start md options) where
  state := {
    futures _ hf := absurd hf not_mem_nil
    named _ _ h := by cases h
    armed _ ha := absurd ha not_mem_nil
    reached := .zero }
  control _ ht := by cases ht

lemma CoveredConfig.referenced (h : CoveredConfig w mode rules c) :
    ∀ t ∈ c.transports, Referenced w.router mode rules t := by
  intro t ht
  rcases mem_append.1 ht with ht | ht
  · obtain ⟨f, hf, rfl⟩ := mem_map.1 ht
    exact h.state.futures f hf
  · exact h.control t (mem_toList.1 ht)

end Walk

/-! ## Soundness -/

/-- Every transport that a query uses is referenced, in the legacy mode and in the other: if of the rules the
collection comes to no inverted one is without conditions and none that is certain to match is passed over. -/
theorem dns_transports_referenced (r : Router) (mode : String) (hmode : r.env.clashMode = some mode)
    (hfold : ∀ a b, r.env.equalFold a b = r.env.equalFold b a)
    (htag : ∀ server transport, r.transport server = some transport → transport.tag = server)
    (rules : List ConfiguredDNSRule) (allowFakeIP : Bool) (hreliable : Reliable r mode allowFakeIP rules) :
    (∀ flags, resolveLegacyDNSMode (rules.map ConfiguredDNSRule.runtime) = .ok (true, flags) →
      (∀ rule ∈ reachedRules r.env.equalFold mode rules, rule.options.newRule.withAddressLimit = true →
        rule.action.references.2 = true → LeavesUnmatched r.env.equalFold mode rule.options) →
      ∀ isAddressQuery refused options md,
        ∀ t ∈ (legacyQuery r rules allowFakeIP isAddressQuery).transports refused options md,
          Referenced r mode rules t) ∧
    ((∀ rule ∈ reachedRules r.env.equalFold mode rules, rule.race = true →
        LeavesUnmatched r.env.equalFold mode rule.options) →
      ∀ outcomes sched query md options n,
        ∀ t ∈ ((configuredWalk r rules outcomes sched query allowFakeIP).run n (Walk.start md options)).transports,
          Referenced r mode rules t) := by
  have hsettled : Settled { r with rules := rules.map ConfiguredDNSRule.runtime } mode allowFakeIP rules :=
    ⟨⟨hreliable.invert, hreliable.route⟩, hmode, hfold, htag⟩
  constructor
  · intro flags hlegacy hlimit isAddressQuery refused options md
    exact transportsFrom_referenced (q := legacyQuery r rules allowFakeIP isAddressQuery) hsettled hlegacy hlimit
      (fun i rule hrule => by simp [legacyQuery, hrule]) rfl refused options _ 0 md .zero
  intro hrace outcomes sched query md options n
  refine (run_covered (w := configuredWalk r rules outcomes sched query allowFakeIP) hsettled hrace rfl
    (fun i t rule hrule => ?_) n (start_covered md options)).referenced
  simp [configuredWalk, hrule]

/-- A router in the mode `rule` with a local, a remote and a FakeIP server. -/
def ruleModeRouter : Router where
  env := { Env.bare with clashMode := some "rule" }
  isFqdn _ := false
  transport tag := [⟨"local", false⟩, ⟨"remote", false⟩, ⟨"fakeip", true⟩].find? (·.tag = tag)
  default := ⟨"local", false⟩
  rules := []

/-- Every mode but `global` asks the remote server. -/
def notGlobal : ConfiguredDNSRule where
  options := .default { clashMode := ["global"] } true
  action := .route "remote" {} false

/-- A rule without conditions that routes to the FakeIP server. -/
def allFakeIP : ConfiguredDNSRule where
  options := .default {} false
  action := .route "fakeip" {} false

/-- The collection does not come to the rule with the FakeIP server. -/
def remoteFirst : List ConfiguredDNSRule := [notGlobal, allFakeIP]

theorem dns_transports_referenced_remote :
    (((configuredWalk ruleModeRouter remoteFirst (fun _ _ _ _ => .ok {}) (fun _ => 0) twoServersQuery false).run 4
        (Walk.start {} {})).transports.map (·.tag) = ["remote"]) ∧
      ruleTransports ruleModeRouter "rule" remoteFirst = ["remote"] ∧
      ∀ outcomes sched query md options n,
        ∀ t ∈ ((configuredWalk ruleModeRouter remoteFirst outcomes sched query false).run n
          (Walk.start md options)).transports, Referenced ruleModeRouter "rule" remoteFirst t := by
  refine ⟨by decide +kernel, by decide +kernel, ?_⟩
  have hreached : reachedRules ruleModeRouter.env.equalFold "rule" remoteFirst = [notGlobal] := rfl
  have hreliable : Reliable ruleModeRouter "rule" false remoteFirst := by
    refine ⟨by rw [hreached]; decide +kernel, fun rule hrule server options speculative hact => .inl ?_⟩
    obtain rfl : rule = notGlobal := by simpa [hreached] using hrule
    obtain ⟨rfl, -, -⟩ := RuleAction.route.inj hact
    exact ⟨⟨"remote", false⟩, by decide +kernel, fun h => by cases h⟩
  refine (dns_transports_referenced ruleModeRouter "rule" rfl (fun a b => Bool.beq_comm) ?_ remoteFirst false
    hreliable).2 ?_
  · intro server transport h
    simpa using find?_some h
  intro rule hrule hrace
  obtain rfl : rule = notGlobal := by simpa [hreached] using hrule
  cases hrace

/-- Outside the mode `global`, and for public addresses in it, the remote server is asked. -/
def publicRemote : ConfiguredDNSRule where
  options := .default { items := { destinationIPCIDRItems := [.ipIsPrivate false] }, clashMode := ["global"] } true
  action := .route "remote" {} false

/-- Outside the mode `global` the response of the remote server is the answer, as soon as it is there;
the local server is asked at the same time. -/
def raceRemote : List ConfiguredDNSRule := [
  { options := .default { items := { items := [.queryType [typeA]], items_group := queryTypeA_group } } false
    action := .evaluate "remote" "x" {} true },
  { options := .default { clashMode := ["global"], matchResponse := some "x" } true
    action := .respond
    race := true
    race_valid := by decide },
  { options := .default { items := { items := [.queryType [typeA]], items_group := queryTypeA_group } } false
    action := .evaluate "local" "y" {} true }]

/-- A rule that is certain to match and has a final action does not always end the search. A lookup
passes over the rule with the FakeIP server; a query for another type passes over the rule with the
address limit in the legacy mode; and a race rule is armed, and the walk goes on. Each time the local
server is used and not referenced. -/
theorem dns_transport_not_referenced : (NonLegacy ([allFakeIP].map ConfiguredDNSRule.runtime) ∧
      ((configuredWalk ruleModeRouter [allFakeIP] (fun _ _ _ _ => .ok {}) (fun _ => 0) twoServersQuery false).run 4
        (Walk.start {} {})).transports.map (·.tag) = ["local"] ∧
      ruleTransports ruleModeRouter "rule" [allFakeIP] = ["fakeip"]) ∧
    ((∃ flags, resolveLegacyDNSMode ([publicRemote].map ConfiguredDNSRule.runtime) = .ok (true, flags)) ∧
      ((legacyQuery ruleModeRouter [publicRemote] false false).transports (fun _ => false) {} {}).map (·.tag) =
        ["local"] ∧
      ruleTransports ruleModeRouter "rule" [publicRemote] = ["remote"]) ∧
    (NonLegacy (raceRemote.map ConfiguredDNSRule.runtime) ∧
      ((configuredWalk ruleModeRouter raceRemote (fun _ _ _ _ => .ok {}) (fun _ => 9) twoServersQuery false).run 3
        (Walk.start { queryType := typeA } {})).transports.map (·.tag) = ["remote", "local"] ∧
      ruleTransports ruleModeRouter "rule" raceRemote = ["remote"]) := by
  refine ⟨⟨⟨⟨_, rfl⟩, ⟨_, rfl⟩⟩, ?_, ?_⟩, ⟨⟨_, rfl⟩, ?_, ?_⟩, ⟨⟨⟨_, rfl⟩, ⟨_, rfl⟩⟩, ?_, ?_⟩⟩ <;> decide +kernel

end SingBox.Dns
