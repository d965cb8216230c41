import SingBox.Dns.Validation
import SingBox.Lib.Machine
/-!
# The DNS mode under rule-set updates

Whether a rule list asks for the legacy DNS mode depends on the rule-sets it
names. The mode is fixed when the router starts. A rule-set that is loaded
again afterwards is checked against it in one step and installed in another.
-/
namespace SingBox

/-- `ContainsDNSQueryTypeRule` of the rule-set's metadata. -/
def RuleSet.containsDNSQueryTypeRule (s : RuleSet) : Bool :=
  HeadlessRule.anyHas (fun items => items.allItems.any fun | .queryType _ => true | _ => false) s.rules

namespace Rule

mutual

def withRuleSets (sets : String → RuleSet) : Rule → Rule
  | .default items ruleSetItem invert matchResponse =>
    .default items (ruleSetItem.map fun r => { r with setList := r.setList.map fun s => sets s.tag }) invert matchResponse
  | .logical mode rules invert => .logical mode (withRuleSetsIn sets rules) invert

def withRuleSetsIn (sets : String → RuleSet) : List Rule → List Rule
  | [] => []
  | rule :: rules => rule.withRuleSets sets :: withRuleSetsIn sets rules

end

lemma bindings_withRuleSets (sets : String → RuleSet) (rule : Rule) :
    (rule.withRuleSets sets).matchResponseTags = rule.matchResponseTags ∧
      (rule.withRuleSets sets).matchResponseAnonymous = rule.matchResponseAnonymous := by
  induction rule using Rule.ind with
  | default items ruleSetItem invert matchResponse =>
    simp [withRuleSets, matchResponseTags, matchResponseAnonymous]
  | logical mode rules invert ih =>
    have hsub : matchResponseTagsOf (withRuleSetsIn sets rules) = matchResponseTagsOf rules ∧
        matchResponseAnonymousOf (withRuleSetsIn sets rules) = matchResponseAnonymousOf rules := by
      induction rules with
      | nil => exact ⟨rfl, rfl⟩
      | cons rule rules ihrules =>
        obtain ⟨htags, hanonymous⟩ := ih rule List.mem_cons_self
        obtain ⟨htagsOf, hanonymousOf⟩ := ihrules fun r hr => ih r (List.mem_cons_of_mem _ hr)
        simp only [withRuleSetsIn, matchResponseTagsOf, matchResponseAnonymousOf, htags, hanonymous, htagsOf,
          hanonymousOf, and_self]
    simp only [withRuleSets, matchResponseTags, matchResponseAnonymous, hsub.1, hsub.2, and_self]

end Rule

namespace Dns

lemma hasBindings_withRuleSets (sets : String → RuleSet) (rule : Rule) :
    hasBindings (rule.withRuleSets sets) = hasBindings rule := by
  simp [hasBindings, Rule.bindings_withRuleSets]

def DNSRule.withRuleSets (sets : String → RuleSet) (rule : DNSRule) : DNSRule :=
  { rule with
    rule := rule.rule.withRuleSets sets
    race_valid := fun h => by
      rw [hasBindings_withRuleSets]
      exact rule.race_valid h }

/-! ## Which mode the rules ask for -/

/-- `dnsRuleModeFlags`. -/
structure ModeFlags where
  disabled : Bool := false
  needed : Bool := false
  neededFromStrategy : Bool := false

def ModeFlags.merge (f other : ModeFlags) : ModeFlags :=
  ⟨f.disabled || other.disabled, f.needed || other.needed, f.neededFromStrategy || other.neededFromStrategy⟩

/-- `dnsRuleActionDisablesLegacyDNSMode`. -/
def RuleAction.disablesLegacyDNSMode (race : Bool) : RuleAction → Bool
  | .route _ options speculative | .evaluate _ _ options speculative =>
    race || options.disableOptimisticCache || speculative
  | .routeOptions options => race || options.disableOptimisticCache
  | .respond | .reject _ | .predefined _ => race

/-- `dnsRuleActionHasStrategy`. -/
def RuleAction.hasStrategy : RuleAction → Bool
  | .route _ options _ | .evaluate _ _ options _ | .routeOptions options => options.strategy ≠ .asIS
  | .respond | .reject _ | .predefined _ => false

/-- `evaluate` and `respond`, which the legacy mode does not have. -/
def RuleAction.usesResponses : RuleAction → Bool
  | .evaluate .. | .respond => true
  | _ => false

/-- `defaultRuleDisablesLegacyDNSMode`, the action apart. -/
def defaultRuleDisablesLegacyDNSMode (items : DefaultItems) (matchResponse : Option String) : Bool :=
  matchResponse.isSome || items.allItems.any RuleItem.isResponseRecord ||
    items.allItems.any fun
      | .ipVersion _ | .queryType _ => true
      | _ => false

/-- `defaultRuleNeedsLegacyDNSModeFromAddressFilter`. -/
def defaultRuleNeedsLegacyDNSMode (items : DefaultItems) (ruleSetItem : Option RuleSetItem)
    (matchResponse : Option String) : Bool :=
  (ruleSetItem.map (·.ipCidrAcceptEmpty)).getD false ||
    (matchResponse.isNone && items.allItems.any (·.group = .destinationIPCIDR))

/-- `dnsRuleModeRequirementsInDefaultRule`, the action apart. -/
def modeRequirementsInDefaultRule (items : DefaultItems) (ruleSetItem : Option RuleSetItem)
    (matchResponse : Option String) : ModeFlags :=
  let sets := (ruleSetItem.map (·.setList)).getD []
  let matchSource := (ruleSetItem.map (·.ipCidrMatchSource)).getD false
  { disabled := defaultRuleDisablesLegacyDNSMode items matchResponse || sets.any (·.containsDNSQueryTypeRule)
    needed := defaultRuleNeedsLegacyDNSMode items ruleSetItem matchResponse ||
      sets.any fun s => !matchSource && s.containsIPCIDRRule }

mutual

/-- `dnsRuleModeRequirementsInRule` on a rule without an action, as sub-rules are. -/
def modeRequirementsInRule : Rule → ModeFlags
  | .default items ruleSetItem _ matchResponse => modeRequirementsInDefaultRule items ruleSetItem matchResponse
  | .logical _ rules _ => modeRequirementsInRules rules

def modeRequirementsInRules : List Rule → ModeFlags
  | [] => {}
  | rule :: rules => (modeRequirementsInRule rule).merge (modeRequirementsInRules rules)

end

def RuleAction.modeRequirements (race : Bool) (action : RuleAction) : ModeFlags where
  disabled := action.usesResponses || action.disablesLegacyDNSMode race
  needed := action.hasStrategy
  neededFromStrategy := action.hasStrategy

/-- `dnsRuleModeRequirements`. -/
def modeRequirements (rules : List DNSRule) : ModeFlags :=
  rules.foldl (fun flags rule =>
    flags.merge ((rule.action.modeRequirements rule.race).merge (modeRequirementsInRule rule.rule))) {}

def ruleStrategyMessage : String :=
  deprecatedMessage "Legacy `strategy` DNS rule action option" "1.14.0" "1.16.0"
    "https://sing-box.sagernet.org/migration/#migrate-dns-rule-action-strategy-to-rule-items"

def resolveLegacyDNSMode (rules : List DNSRule) : Except String (Bool × ModeFlags) :=
  let flags := modeRequirements rules
  if flags.disabled && flags.neededFromStrategy then .error ruleStrategyMessage
  else if flags.disabled then .ok (false, flags)
  else .ok (flags.needed, flags)

/-- The rules can be used outside the legacy mode: `buildRules` would not ask for it and accepts them. -/
def NonLegacy (rules : List DNSRule) : Prop :=
  (∃ flags, resolveLegacyDNSMode rules = .ok (false, flags)) ∧ ∃ v, validateLegacyDNSModeDisabledRules rules = .ok v

/-! ## Reloads -/

/-- The DNS router as the reloads of rule-sets see it. `ruleSets` is what each
rule-set was last loaded from, as far as its metadata go; `reloading` are the
rule-sets that were validated and are not yet installed. -/
structure ModeState where
  rawRules : List DNSRule
  started : Bool := false
  legacyDNSMode : Bool := false
  closing : Bool := false
  ruleSets : String → RuleSet
  reloading : List RuleSet := []

namespace ModeState

def rulesWith (s : ModeState) (ruleSets : String → RuleSet) : List DNSRule :=
  s.rawRules.map (·.withRuleSets ruleSets)

/-- `buildRules` at the start of the router, as far as it looks at the mode. -/
def start (rawRules : List DNSRule) (ruleSets : String → RuleSet) : Except String ModeState := do
  let rules := rawRules.map (·.withRuleSets ruleSets)
  let (legacyDNSMode, _) ← resolveLegacyDNSMode rules
  if !legacyDNSMode then
    let _ ← validateLegacyDNSModeDisabledRules rules
  return { rawRules, started := true, legacyDNSMode, ruleSets }

/-- `ValidateRuleSetMetadataUpdate`; the tag is the one of the rule-set. -/
def validateRuleSetMetadataUpdate (s : ModeState) (ruleSet : RuleSet) : Except String Unit :=
  if s.rawRules.length = 0 then .ok ()
  else
    let rules := s.rulesWith (Function.update s.ruleSets ruleSet.tag ruleSet)
    if s.closing then .ok ()
    else if !s.started then do
      let (candidateLegacyDNSMode, _) ← resolveLegacyDNSMode rules
      if !candidateLegacyDNSMode then
        let _ ← validateLegacyDNSModeDisabledRules rules
    else do
      let (candidateLegacyDNSMode, flags) ← resolveLegacyDNSMode rules
      if s.legacyDNSMode then
        if !candidateLegacyDNSMode && flags.disabled then
          let _ ← validateLegacyDNSModeDisabledRules rules
          .error addressFilterMessage
        else .ok ()
      else if candidateLegacyDNSMode then .error addressFilterMessage
      else
        let _ ← validateLegacyDNSModeDisabledRules rules
        .ok ()

end ModeState

/-- The two steps of `reloadRules`. -/
inductive ReloadEvent where
  | validate (ruleSet : RuleSet)
  | install (tag : String)

namespace ModeState

/-- One step of a reload. A rule-set is reloaded once at a time; one that is not accepted is left as it is. -/
def step (s : ModeState) : ReloadEvent → Option ModeState
  | .validate ruleSet =>
    if s.reloading.any (·.tag = ruleSet.tag) then none
    else match s.validateRuleSetMetadataUpdate ruleSet with
      | .ok _ => some { s with reloading := ruleSet :: s.reloading }
      | .error _ => some s
  | .install tag =>
    match s.reloading.find? (·.tag = tag) with
    | some ruleSet => some { s with
        ruleSets := Function.update s.ruleSets tag ruleSet
        reloading := s.reloading.filter (·.tag ≠ tag) }
    | none => none

/-- No rule-set is validated while another one waits to be installed. -/
def Serial (s : ModeState) : ReloadEvent → Prop
  | .validate _ => s.reloading = []
  | .install _ => True

instance (s : ModeState) (e : ReloadEvent) : Decidable (s.Serial e) :=
  match e with
  | .validate _ => decidable_of_iff (s.reloading.isEmpty = true) List.isEmpty_iff
  | .install _ => isTrue trivial

/-- A router outside the legacy mode; the rules stay usable with what is installed, and with the one
rule-set that may wait to be. -/
structure Valid (s : ModeState) : Prop where
  started : s.started = true
  mode : s.legacyDNSMode = false
  closing : s.closing = false
  installed : NonLegacy (s.rulesWith s.ruleSets)
  reloading : s.reloading = [] ∨ ∃ ruleSet, s.reloading = [ruleSet] ∧
    NonLegacy (s.rulesWith (Function.update s.ruleSets ruleSet.tag ruleSet))

/-- An update the router accepts outside the legacy mode keeps the rules usable there. -/
lemma validate_nonLegacy {s : ModeState} (h : s.Valid) {ruleSet : RuleSet} {u : Unit}
    (hv : s.validateRuleSetMetadataUpdate ruleSet = .ok u) :
    NonLegacy (s.rulesWith (Function.update s.ruleSets ruleSet.tag ruleSet)) := by
  unfold validateRuleSetMetadataUpdate at hv
  split at hv
  · rename_i hlen
    rw [rulesWith, List.length_eq_zero_iff.1 hlen]
    exact ⟨⟨{}, rfl⟩, {}, rfl⟩
  simp only [h.closing, h.started, h.mode, Bool.false_eq_true, if_false, Bool.not_true] at hv
  obtain ⟨⟨candidate, flags⟩, hresolve, hv⟩ := except_bind_ok hv
  split at hv
  · cases hv
  rename_i hcandidate
  obtain ⟨v, hvalidate, -⟩ := except_bind_ok hv
  obtain rfl : candidate = false := by simpa using hcandidate
  exact ⟨⟨flags, hresolve⟩, v, hvalidate⟩

lemma start_valid {rawRules : List DNSRule} {ruleSets : String → RuleSet} {s : ModeState}
    (h : start rawRules ruleSets = .ok s) (hmode : s.legacyDNSMode = false) : s.Valid := by
  obtain ⟨⟨legacyDNSMode, flags⟩, hresolve, h⟩ := except_bind_ok h
  cases legacyDNSMode with
  | true =>
    cases h
    cases hmode
  | false =>
    obtain ⟨v, hvalidate, h⟩ := except_bind_ok h
    cases h
    exact ⟨rfl, rfl, rfl, ⟨⟨flags, hresolve⟩, v, hvalidate⟩, .inl rfl⟩

lemma step_valid {s s' : ModeState} {e : ReloadEvent} (h : s.Valid) (hserial : s.Serial e)
    (hs : s.step e = some s') : s'.Valid := by
  cases e with
  | validate ruleSet =>
    simp only [step] at hs
    split at hs
    · cases hs
    split at hs
    · rename_i hv
      cases hs
      exact { h with reloading := .inr ⟨ruleSet, by rw [hserial], validate_nonLegacy h hv⟩ }
    · cases hs
      exact h
  | install tag =>
    simp only [step] at hs
    split at hs
    · rename_i ruleSet hfind
      cases hs
      rcases h.reloading with hempty | ⟨waiting, hone, hok⟩
      · simp [hempty] at hfind
      -- the only rule-set that waits is the one that is installed
      obtain rfl : waiting = ruleSet := by
        have := List.mem_of_find?_eq_some hfind
        rw [hone, List.mem_singleton] at this
        exact this.symm
      obtain rfl : waiting.tag = tag := by simpa using List.find?_some hfind
      exact { h with installed := hok, reloading := .inl (by simp [hone]) }
    · cases hs

end ModeState

/-- When reloads follow one another, a router that started outside the legacy
mode could start so again after each of them. -/
theorem serial_reloads_keep_mode (rawRules : List DNSRule) (ruleSets : String → RuleSet) (s₀ s : ModeState)
    (es : List ReloadEvent) (hstart : ModeState.start rawRules ruleSets = .ok s₀) (hmode : s₀.legacyDNSMode = false)
    (hrun : Machine.run ModeState.step s₀ es = some s)
    (hserial : Machine.Along ModeState.step ModeState.Serial s₀ es) : NonLegacy (s.rulesWith s.ruleSets) :=
  (Machine.run_inv (fun _ _ _ h hc hs => ModeState.step_valid h hc hs) (ModeState.start_valid hstart hmode) hserial
    hrun).installed

section
variable (tag : String)

def oneItem (items : HeadlessItems) : RuleSet := ⟨tag, [.default items false]⟩
def queryTypeSet : RuleSet := oneItem tag { items := [.queryType [typeA]] }
def domainSet : RuleSet := oneItem tag { destinationAddressItems := [.domainKeyword ["example"] .asIS] }

def mixedSet : RuleSet :=
  oneItem tag {
    destinationAddressItems := [.domainKeyword ["example"] .asIS]
    destinationIPCIDRItems := [.ipCIDR false {}] }

def twoSetRules : List DNSRule :=
  ["a", "b"].map fun tag =>
    { rule := .default {} (some { setList := [domainSet tag] }) false none, action := .route "remote" {} false }

/-- The first rule-set asks about query types when the router starts. -/
def twoSets : RuleSet := if tag = "a" then queryTypeSet tag else domainSet tag

end

theorem serial_reloads_keep_mode_twice :
    ∃ s₀ s, ModeState.start twoSetRules twoSets = .ok s₀ ∧ Machine.run ModeState.step s₀
        [.validate (domainSet "a"), .install "a", .validate (queryTypeSet "b"), .install "b"] = some s ∧
      NonLegacy (s.rulesWith s.ruleSets) := by
  have hstart : ModeState.start twoSetRules twoSets = .ok ⟨twoSetRules, true, false, false, twoSets, []⟩ := rfl
  have hrun : (Machine.run ModeState.step ⟨twoSetRules, true, false, false, twoSets, []⟩
      [.validate (domainSet "a"), .install "a", .validate (queryTypeSet "b"), .install "b"]).isSome := by decide +kernel
  obtain ⟨s, hs⟩ := Option.isSome_iff_exists.1 hrun
  exact ⟨_, s, hstart, hs, serial_reloads_keep_mode _ _ _ s _ hstart rfl hs (by decide +kernel)⟩

/-- Two reloads, each accepted beside what the other replaces. -/
theorem reloads_reach_legacy_mode :
    ((ModeState.start twoSetRules twoSets).toOption.bind fun s₀ => Machine.run ModeState.step s₀
      [.validate (domainSet "a"), .validate (mixedSet "b"), .install "a", .install "b"]).map
        (fun s => (s.legacyDNSMode, s.reloading.length,
          (resolveLegacyDNSMode (s.rulesWith s.ruleSets)).toOption.map Prod.fst)) = some (false, 0, some true) := by
  decide +kernel

end Dns
end SingBox
