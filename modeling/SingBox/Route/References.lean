import SingBox.Lib.Lists
import SingBox.Route.Match
import SingBox.Rule.RuleSets
/-!
# Route references

`route/reference_rule.go`: which outbounds the route rules can use under a
Clash mode. Rules are read as they are configured, without a connection: a rule
always matches, never matches, or it is not known. This three-valued reading is
compared with the verdicts of `Rule/Frame.lean`.
-/
open Kleene

namespace SingBox
open List

def RuleItem.isClashMode : RuleItem → Bool
  | .clashMode _ => true
  | _ => false

lemma DefaultItems.empty_noClashMode : ∀ i ∈ ({} : DefaultItems).allItems, i.isClashMode = false := by decide

/-- `RawDefaultRule` and `RawDefaultDNSRule`, `Invert` apart: what the constructors make of the fields.
`settings` says that a field is set that makes no item of its own (`domain_match_strategy`,
`rule_set_ip_cidr_match_source`). -/
structure RuleConditions where
  items : DefaultItems := {}
  ruleSetItem : Option RuleSetItem := none
  matchResponse : Option String := none
  clashMode : List String := []
  settings : Bool := false
  noClashMode : ∀ i ∈ items.allItems, i.isClashMode = false := by first | exact DefaultItems.empty_noClashMode | decide

/-- `option.Rule` and `option.DNSRule`, the action apart. -/
inductive RuleOptions where
  | default (conditions : RuleConditions) (invert : Bool)
  | logical (mode : LogicalMode) (rules : List RuleOptions) (invert : Bool)

namespace RuleConditions

/-- Whether a condition other than `clash_mode` is set. -/
def otherConditions (c : RuleConditions) : Bool :=
  c.items.allItems.length > 0 || c.ruleSetItem.isSome || c.matchResponse.isSome || c.settings

def allItems (c : RuleConditions) : DefaultItems :=
  if c.clashMode.length > 0 then
    { c.items with
      items := .clashMode c.clashMode :: c.items.items
      items_group := forall_mem_cons.2 ⟨rfl, c.items.items_group⟩ }
  else c.items

end RuleConditions

namespace RuleOptions

mutual

/-- `NewRule` and `NewDNSRule`, the action apart. -/
def newRule : RuleOptions → Rule
  | .default c invert => .default c.allItems c.ruleSetItem invert c.matchResponse
  | .logical mode rules invert => .logical mode (newRules rules) invert

def newRules : List RuleOptions → List Rule
  | [] => []
  | rule :: rules => rule.newRule :: newRules rules

end

lemma ind {P : RuleOptions → Prop} (default : ∀ c invert, P (.default c invert))
    (logical : ∀ mode rules invert, (∀ r ∈ rules, P r) → P (.logical mode rules invert)) : ∀ r, P r
  | .default c invert => default c invert
  | .logical mode rules invert => logical mode rules invert fun r hr =>
    have := sizeOf_lt_of_mem hr
    ind default logical r

lemma newRules_eq_map (rules : List RuleOptions) : newRules rules = rules.map newRule := by
  induction rules with
  | nil => rfl
  | cons r rules ih => simp [newRules, ih]

end RuleOptions

namespace Route

/-! ## Static matches -/

inductive StaticMatch where
  | unknown | never | always
  deriving DecidableEq

namespace StaticMatch

def invert : StaticMatch → StaticMatch
  | .never => .always
  | .always => .never
  | .unknown => .unknown

def truth : StaticMatch → Truth
  | .never => .no
  | .unknown => .unsure
  | .always => .yes

@[simp] lemma truth_never : never.truth = .no := rfl
@[simp] lemma truth_unknown : unknown.truth = .unsure := rfl
@[simp] lemma truth_always : always.truth = .yes := rfl
@[simp] lemma truth_invert (m : StaticMatch) : m.invert.truth = m.truth.not := by cases m <;> rfl

end StaticMatch

def evaluateClashMode (equalFold : String → String → Bool) (clashModes : List String) (mode : String)
    (invert otherConditions : Bool) : StaticMatch :=
  let m : StaticMatch :=
    if clashModes.length > 0 && !clashModes.any (equalFold · mode) then .never
    else if !otherConditions then .always
    else .unknown
  if invert then m.invert else m

/-- The loop of `evaluateLogical`. -/
def evaluateLoop (logicalMode : LogicalMode) : List StaticMatch → StaticMatch → StaticMatch
  | [], m => m
  | ruleMatch :: ruleMatches, m =>
    if logicalMode = .and ∧ ruleMatch = .never then .never
    else if logicalMode = .or ∧ ruleMatch = .always then .always
    else evaluateLoop logicalMode ruleMatches (if ruleMatch = .unknown then .unknown else m)

def evaluateLogical (ruleMatches : List StaticMatch) (logicalMode : LogicalMode) (invert : Bool) : StaticMatch :=
  let m := evaluateLoop logicalMode ruleMatches (if logicalMode = .and then .always else .never)
  if invert then m.invert else m

mutual

/-- `evaluateRule` and `evaluateDNSRule`. -/
def evaluateRule (equalFold : String → String → Bool) (mode : String) : RuleOptions → StaticMatch
  | .default c invert => evaluateClashMode equalFold c.clashMode mode invert c.otherConditions
  | .logical logicalMode rules invert => evaluateLogical (evaluateRules equalFold mode rules) logicalMode invert

def evaluateRules (equalFold : String → String → Bool) (mode : String) : List RuleOptions → List StaticMatch
  | [] => []
  | rule :: rules => evaluateRule equalFold mode rule :: evaluateRules equalFold mode rules

end

lemma evaluateRules_eq_map (equalFold : String → String → Bool) (mode : String) (rules : List RuleOptions) :
    evaluateRules equalFold mode rules = rules.map (evaluateRule equalFold mode) := by
  induction rules with
  | nil => rfl
  | cons r rules ih => simp [evaluateRules, ih]

section
variable (equalFold : String → String → Bool) (mode : String)

mutual

/-- The evaluation comes to a default rule that is inverted and has no condition. -/
def invertsNothing : RuleOptions → Bool
  | .default c invert => invert && c.clashMode.length = 0 && !c.otherConditions
  | .logical logicalMode rules _ => anyInvertsNothing logicalMode rules

def anyInvertsNothing (logicalMode : LogicalMode) : List RuleOptions → Bool
  | [] => false
  | rule :: rules => invertsNothing rule ||
    (evaluateRule equalFold mode rule).truth != logicalMode.stops && anyInvertsNothing logicalMode rules

end

variable {equalFold mode}

lemma invertsNothing_of_any {logicalMode : LogicalMode} {before after : List RuleOptions} {rule : RuleOptions}
    (h : anyInvertsNothing equalFold mode logicalMode (before ++ rule :: after) = false)
    (hb : ∀ b ∈ before, (evaluateRule equalFold mode b).truth ≠ logicalMode.stops) :
    invertsNothing equalFold mode rule = false := by
  induction before with
  | nil =>
    rw [nil_append, anyInvertsNothing, Bool.or_eq_false_iff] at h
    exact h.1
  | cons b before ih =>
    obtain ⟨hb, hbefore⟩ := forall_mem_cons.1 hb
    rw [cons_append, anyInvertsNothing, Bool.or_eq_false_iff] at h
    exact ih (by simpa [hb] using h.2) hbefore

end

/-! ## Collection -/

/-- A rule of the router with the options it was made from. -/
structure ConfiguredRule where
  options : RuleOptions
  action : RuleAction
  disabled : Bool := false

def ConfiguredRule.runtime (rule : ConfiguredRule) : RouteRule where
  rule := rule.options.newRule
  action := rule.action
  disabled := rule.disabled

def enabledRuleOptions (rules : List ConfiguredRule) : List ConfiguredRule := rules.filter (!·.disabled)

/-- The two lists `collectRuleReferences` appends to. -/
structure References where
  outbounds : List String := []
  transports : List String := []

/-- The switch of `collectRuleReferences`: the references of an action, and whether it is final. -/
def RuleAction.collect (env : RouteEnv) (refs : References) : RuleAction → References × Bool
  | .route outbound _ =>
    ({ refs with outbounds := refs.outbounds ++ [outbound] }, !isPassOutbound env outbound)
  | .bypass outbound _ =>
    if outbound ≠ "" then ({ refs with outbounds := refs.outbounds ++ [outbound] }, true) else (refs, false)
  | .direct | .reject .. | .hijackDNS => (refs, true)
  | .resolve action => ({ refs with transports := refs.transports ++ [action.server] }, false)
  | .routeOptions _ | .sniff _ | .sniffOverrideDestination => (refs, false)

/-- The outbound a selected action names; nothing for the other actions that end the walk. -/
def RuleAction.names : RuleAction → Option (Option String)
  | .route outbound _ | .bypass outbound _ => some (some outbound)
  | .reject .. | .hijackDNS => some none
  | _ => none

/-- `collectRuleReferences`, and whether the default outbound is shadowed. -/
def collectRuleReferences (env : RouteEnv) (mode : String) : List ConfiguredRule → References → References × Bool
  | [], refs => (refs, false)
  | rule :: rules, refs =>
    let m := evaluateRule env.equalFold mode rule.options
    if m = .never then collectRuleReferences env mode rules refs
    else
      let (refs, final) := rule.action.collect env refs
      if final && m = .always then (refs, true) else collectRuleReferences env mode rules refs

section
variable (env : RouteEnv) (mode : String) (rule : ConfiguredRule)

/-- The collection ends with the rule. -/
def ConfiguredRule.ends : Bool :=
  (rule.action.collect env {}).2 && evaluateRule env.equalFold mode rule.options = .always

/-- What the collection makes of the rule depends on the static match: the rule ends it, or the outbound it selects
is left out. -/
def ConfiguredRule.relied : Bool :=
  rule.ends env mode || (rule.action.collect env {}).2 && rule.action.names.join.isSome &&
    evaluateRule env.equalFold mode rule.options = .never

/-- The rules the collection comes to. -/
def reachedRules (rules : List ConfiguredRule) : List ConfiguredRule :=
  Lists.upTo (·.ends env mode) (enabledRuleOptions rules)

end

/-- The outbounds `ReferenceManager.update` takes from the route rules and the default. -/
def ruleOutbounds (env : RouteEnv) (mode : String) (rules : List ConfiguredRule) : List String :=
  let (refs, shadowed) := collectRuleReferences env mode (enabledRuleOptions rules) {}
  if shadowed then refs.outbounds else refs.outbounds ++ [env.outbound.default.tag]

/-! ## Static matches are right -/

section
variable (ruleMatches : List StaticMatch)

lemma evaluateLoop_and {m : StaticMatch} (hm : m ≠ .never) :
    (evaluateLoop .and ruleMatches m).truth = m.truth.and (.all (ruleMatches.map StaticMatch.truth)) := by
  induction ruleMatches generalizing m with
  | nil => simp [evaluateLoop]
  | cons ruleMatch ruleMatches ih =>
    cases ruleMatch with
    | never => simp [evaluateLoop]
    | always => simpa [evaluateLoop] using ih hm
    | unknown =>
      have hunknown := ih (m := .unknown) nofun
      cases m with
      | never => exact absurd rfl hm
      | _ => simp [evaluateLoop, hunknown, Truth.unsure_and]

lemma evaluateLoop_or {m : StaticMatch} (hm : m ≠ .always) :
    (evaluateLoop .or ruleMatches m).truth = m.truth.or (.any (ruleMatches.map StaticMatch.truth)) := by
  induction ruleMatches generalizing m with
  | nil => simp [evaluateLoop]
  | cons ruleMatch ruleMatches ih =>
    cases ruleMatch with
    | always => simp [evaluateLoop]
    | never => simpa [evaluateLoop] using ih hm
    | unknown =>
      have hunknown := ih (m := .unknown) nofun
      cases m with
      | always => exact absurd rfl hm
      | _ => simp [evaluateLoop, hunknown, Truth.unsure_or]

lemma evaluateLogical_truth (mode : LogicalMode) (invert : Bool) : (evaluateLogical ruleMatches mode invert).truth =
      let t := mode.combine (ruleMatches.map StaticMatch.truth)
      if invert then t.not else t := by
  have h : (evaluateLoop mode ruleMatches (if mode = .and then .always else .never)).truth =
      mode.combine (ruleMatches.map StaticMatch.truth) := by
    cases mode with
    | and => simpa [LogicalMode.combine] using evaluateLoop_and ruleMatches (m := .always) (by simp)
    | or => simpa [LogicalMode.combine] using evaluateLoop_or ruleMatches (m := .never) (by simp)
  simp only [evaluateLogical, ← h]
  cases invert <;> simp

end

section
variable {env : Env} {mode : String}
variable {c : RuleConditions} {md : InboundContext} (hmode : env.clashMode = some mode)
  (hfold : ∀ a b, env.equalFold a b = env.equalFold b a)

include hmode hfold in
/-- A rule whose Clash modes leave out the current one does not match, whatever else it asks for. -/
lemma matchInner_of_mode (hlen : c.clashMode.length > 0)
    (hnone : c.clashMode.any (env.equalFold · mode) = false) (ruleSetItem : Option (RuleGroupMatch → Matcher))
    (md : InboundContext) : (matchInner env c.allItems ruleSetItem).verdict md = .no := by
  rw [matchInner_verdict, if_neg]
  have hitem : RuleItem.match env md (.clashMode c.clashMode) = false := by
    simp only [RuleItem.match, hmode, Option.any_some]
    rw [← hnone]
    exact any_congr rfl fun a => hfold mode a
  simp [RuleConditions.allItems, hlen, hitem]

include hmode hfold in
lemma matchInner_of_only_mode (hlen : c.clashMode.length > 0)
    (hsome : c.clashMode.any (env.equalFold · mode) = true) (hitems : c.items.allItems.length = 0)
    (hd : md.deferredIPCIDRMatchGroups = 0) : (matchInner env c.allItems none).verdict md = .yes := by
  have hitem : RuleItem.match env md (.clashMode c.clashMode) = true := by
    simp only [RuleItem.match, hmode, Option.any_some]
    rw [← hsome]
    exact any_congr rfl fun a => hfold mode a
  simp only [DefaultItems.allItems, length_append, Nat.add_eq_zero_iff, length_eq_zero_iff] at hitems
  obtain ⟨⟨⟨⟨⟨h1, h2⟩, h3⟩, h4⟩, h5⟩, h6⟩ := hitems
  rw [matchInner_verdict, if_pos (by simp [RuleConditions.allItems, hlen, hitem, h1])]
  have hgroups : evaluateGroups env c.allItems md = ({}, md) := by
    simp [evaluateGroups, RuleConditions.allItems, hlen, h2, h3, h4, h5, h6, destinationIPCIDRMatchesSource,
      destinationIPCIDRMatchesDestination]
  simp [hgroups, matchGroups, RuleGroupMatch.done, hd]

lemma matched_of_verdict {m : Matcher} :
    (m.verdict md = .yes → (m md).1 = true) ∧ (m.verdict md = .no → (m md).1 = false) := by
  refine ⟨fun h => ?_, truth_eq_no.1⟩
  cases hm : (m md).1 with
  | true => rfl
  | false => simp [Matcher.verdict, hm] at h

lemma matched_of_below {m : StaticMatch} {f : Matcher} (h : m.truth.Below (f.verdict md)) :
    (m = .always → (f md).1 = true) ∧ (m = .never → (f md).1 = false) := by
  refine ⟨fun hm => matched_of_verdict.1 ?_, fun hm => matched_of_verdict.2 ?_⟩ <;>
    · subst hm
      exact (h.resolve_left nofun).symm

include hmode hfold

lemma default_below {invert : Bool} (hinvert : invertsNothing env.equalFold mode (.default c invert) = false)
    (hd : md.deferredIPCIDRMatchGroups = 0) :
    (evaluateClashMode env.equalFold c.clashMode mode invert c.otherConditions).truth.Below
      ((Rule.match env (.default c.allItems c.ruleSetItem invert c.matchResponse)).verdict md) := by
  have hlength (hlen : c.clashMode.length > 0) : (c.allItems.allItems.length == 0) = false := by
    simp [RuleConditions.allItems, hlen, DefaultItems.allItems]
  unfold evaluateClashMode
  by_cases hmodes : (c.clashMode.length > 0 && !c.clashMode.any (env.equalFold · mode)) = true
  · -- the current mode is not one of the rule's
    rw [if_pos hmodes]
    simp only [Bool.and_eq_true, decide_eq_true_eq, Bool.not_eq_true'] at hmodes
    have hdefault (md : InboundContext) (hd : md.deferredIPCIDRMatchGroups = 0) :
        (Rule.matchDefault env c.allItems c.ruleSetItem invert).verdict md = if invert then .yes else .no := by
      rw [Rule.matchDefault, defaultMatch_verdict env _ _ _ hd, hlength hmodes.1, Bool.false_and, if_neg (by simp),
        matchInner_of_mode hmode hfold hmodes.1 hmodes.2]
      rfl
    refine .inr ?_
    rw [show (if invert then StaticMatch.never.invert else .never).truth = if invert then .yes else .no by
      cases invert <;> rfl]
    cases hresponse : c.matchResponse with
    | none => exact (hdefault md hd).symm
    | some tag =>
      simp only [Matcher.verdict, Rule.match, Rule.matchForMatch]
      generalize (if tag ≠ "" then md.namedDNSResponses tag else md.dnsResponse) = response
      -- a response is matched on a copy
      have hcopy := hdefault (Rule.withResponse md response) hd
      cases response with
      | none => cases invert <;> simp [hd]
      | some m =>
        cases invert with
        | true => simp [matched_of_verdict.1 hcopy, hd]
        | false => simp [matched_of_verdict.2 hcopy]
  · rw [if_neg hmodes]
    by_cases hother : c.otherConditions = true
    · simp only [hother, Bool.not_true, Bool.false_eq_true, if_false]
      cases invert <;> exact .inl rfl
    simp only [Bool.not_eq_true] at hother
    have hnone := hother
    simp only [RuleConditions.otherConditions, Bool.or_eq_false_iff, decide_eq_false_iff_not, gt_iff_lt, not_lt,
      Nat.le_zero, Option.isSome_eq_false_iff, Option.isNone_iff_eq_none] at hnone
    obtain ⟨⟨⟨hitems, hset⟩, hresponse⟩, -⟩ := hnone
    rw [hother, hset, hresponse]
    refine .inr (Eq.symm ?_)
    show (defaultMatch env c.allItems none invert).verdict md = _
    rw [defaultMatch_verdict env _ _ _ hd]
    by_cases hlen : c.clashMode.length > 0
    · have hsome : c.clashMode.any (env.equalFold · mode) = true := by simpa [hlen] using hmodes
      rw [hlength hlen, Bool.false_and, if_neg (by simp), matchInner_of_only_mode hmode hfold hlen hsome hitems hd]
      cases invert <;> rfl
    have hinvert : invert = false := by
      simpa [invertsNothing, hother, Nat.le_zero.1 (Nat.not_lt.1 hlen)] using hinvert
    rw [RuleConditions.allItems, if_neg hlen, hitems, hinvert]
    rfl

/-- Static matches are right about every match under the mode, except where a rule without conditions is inverted. -/
lemma evaluateRule_below {rule : RuleOptions} (hinvert : invertsNothing env.equalFold mode rule = false)
    (hd : md.deferredIPCIDRMatchGroups = 0) :
    (evaluateRule env.equalFold mode rule).truth.Below ((rule.newRule.match env).verdict md) := by
  induction rule using RuleOptions.ind generalizing md with
  | default c invert => exact default_below hmode hfold hinvert hd
  | logical logicalMode rules invert ih =>
    have hrules : (logicalMode.combine (rules.map fun r => (evaluateRule env.equalFold mode r).truth)).Below
        (logicalMode.combine (rules.map fun r => (r.newRule.match env).verdict md.resetRuleCache)) := by
      have hbelow : ∀ before x after, rules = before ++ x :: after →
          (∀ b ∈ before, (evaluateRule env.equalFold mode b).truth ≠ logicalMode.stops) →
          (evaluateRule env.equalFold mode x).truth.Below ((x.newRule.match env).verdict md.resetRuleCache) := by
        rintro before x after rfl hb
        exact ih x (by simp) (invertsNothing_of_any hinvert hb) rfl
      cases logicalMode with
      | and => exact Truth.Below.all hbelow
      | or => exact Truth.Below.any hbelow
    rw [RuleOptions.newRule, Rule.match, logicalMatch_verdict logicalMode (Rule.matchers_framed env _) invert hd]
    rw [evaluateRule, evaluateLogical_truth]
    simp only [evaluateRules_eq_map, Rule.matchers_eq_map, RuleOptions.newRules_eq_map, map_map, Function.comp_def]
    cases invert with
    | true => exact hrules.not
    | false => exact hrules

end

/-! ## The walk uses what is collected -/

section
variable {env : SniffEnv} {mode : String}
variable {network : String} {chain : List Outbound}

lemma collect_outbounds (env : RouteEnv) (action : RuleAction) (refs : References) :
    ∀ x ∈ refs.outbounds, x ∈ (action.collect env refs).1.outbounds := by
  intro x hx
  unfold RuleAction.collect
  split
  · exact mem_append_left _ hx
  · split
    · exact mem_append_left _ hx
    · exact hx
  all_goals exact hx

lemma collectRuleReferences_outbounds (env : RouteEnv) (mode : String) (rules : List ConfiguredRule)
    (refs : References) : ∀ x ∈ refs.outbounds, x ∈ (collectRuleReferences env mode rules refs).1.outbounds := by
  induction rules generalizing refs with
  | nil => exact fun x hx => hx
  | cons rule rules ih =>
    intro x hx
    unfold collectRuleReferences
    dsimp only
    split
    · exact ih refs x hx
    have hx := collect_outbounds env rule.action refs x hx
    split
    · exact hx
    · exact ih _ x hx

/-- The end of a walk is accounted for by the references: a selected rule names one of them, and no
connection is left to a default that is shadowed. -/
def Matched.Covered (outbounds : List String) (shadowed : Bool) : Matched → Prop
  | .selected _ action _ => ∃ named, action.names = some named ∧ ∀ outbound ∈ named, outbound ∈ outbounds
  | .unmatched _ => shadowed = false
  | .failed .. => True

/-- An action that ends the walk is collected with the outbound it names; one that does not is not final,
`direct` apart. -/
lemma matchedStep_collect (env : SniffEnv) (action : RuleAction) (s : WalkState) (refs : References) :
    (∃ t named, matchedStep env action s = .select t ∧ action.names = some named ∧
        (action.collect env.toRouteEnv {}).2 = true ∧
        ∀ outbound ∈ named, outbound ∈ (action.collect env.toRouteEnv refs).1.outbounds) ∨
      (∃ t, matchedStep env action s = .next t ∧
        ((action.collect env.toRouteEnv {}).2 = false ∨ action = .direct)) ∨
      ∃ err t, matchedStep env action s = .fail err t := by
  cases action with
  | route outbound options =>
    cases hpass : isPassOutbound env.toRouteEnv outbound with
    | true => exact .inr (.inl ⟨s, by simp [matchedStep, hpass], .inl (by simp [RuleAction.collect, hpass])⟩)
    | false =>
      exact .inl ⟨_, some outbound, by simp only [matchedStep, hpass]; rfl, rfl, by simp [RuleAction.collect, hpass],
        by simp [RuleAction.collect]⟩
  | routeOptions options | sniffOverrideDestination => exact .inr (.inl ⟨_, rfl, .inl rfl⟩)
  | bypass outbound options =>
    by_cases hempty : outbound = ""
    · exact .inr (.inl ⟨s, by simp [matchedStep, hempty], .inl (by simp [RuleAction.collect, hempty])⟩)
    · exact .inl ⟨_, some outbound, by simp only [matchedStep, hempty]; rfl, rfl, by simp [RuleAction.collect, hempty],
        by simp [RuleAction.collect, hempty]⟩
  | direct => exact .inr (.inl ⟨s, rfl, .inr rfl⟩)
  | reject method noDrop recent | hijackDNS => exact .inl ⟨s, none, rfl, rfl, rfl, by simp⟩
  | sniff action =>
    cases h : s.sniff env action with
    | next t => exact .inr (.inl ⟨t, h, .inl rfl⟩)
    | select t =>
      unfold WalkState.sniff at h
      dsimp only at h
      split at h <;> cases h
    | fail err t => exact .inr (.inr ⟨err, t, h⟩)
  | resolve action =>
    cases h : actionResolve env.toRouteEnv s.md action with
    | error err => exact .inr (.inr ⟨err, s, by simp [matchedStep, h]⟩)
    | ok md => exact .inr (.inl ⟨{ s with md }, by simp [matchedStep, h], .inl rfl⟩)

lemma collect_final (env : RouteEnv) (action : RuleAction) (refs : References) :
    (action.collect env refs).2 = (action.collect env {}).2 := by
  cases action with
  | bypass outbound options => by_cases h : outbound = "" <;> simp [RuleAction.collect, h]
  | _ => rfl

lemma collectRuleReferences_cons (env : RouteEnv) (mode : String) (rule : ConfiguredRule) (rules : List ConfiguredRule)
    (refs : References) : collectRuleReferences env mode (rule :: rules) refs =
      if rule.ends env mode then ((rule.action.collect env refs).1, true)
      else collectRuleReferences env mode rules
        (if evaluateRule env.equalFold mode rule.options = .never then refs else (rule.action.collect env refs).1) := by
  rw [collectRuleReferences, ConfiguredRule.ends, ← collect_final env rule.action refs]
  by_cases hnever : evaluateRule env.equalFold mode rule.options = .never
  · simp [hnever]
  · simp [hnever]

/-- Every walk is covered by what is collected, when the static matches that count are right and no `direct` rule is
taken to match always. -/
lemma matchLoop_covered {rules : List ConfiguredRule}
    (hsound : ∀ rule ∈ reachedRules env.toRouteEnv mode rules, rule.relied env.toRouteEnv mode = true →
      ∀ md : InboundContext, (evaluateRule env.equalFold mode rule.options).truth.Below
        ((rule.options.newRule.match env.toEnv).verdict md.resetRuleCache))
    (hdirect : ∀ rule ∈ reachedRules env.toRouteEnv mode rules, rule.action = .direct →
      rule.ends env.toRouteEnv mode = false) (refs : References) (index : Nat) (s : WalkState) :
    (matchLoop env index (rules.map ConfiguredRule.runtime) s).Covered
      (collectRuleReferences env.toRouteEnv mode (enabledRuleOptions rules) refs).1.outbounds
      (collectRuleReferences env.toRouteEnv mode (enabledRuleOptions rules) refs).2 := by
  induction rules generalizing refs index s with
  | nil => rfl
  | cons rule rules ih =>
    simp only [map_cons, matchLoop, matchStep]
    cases hdisabled : rule.disabled with
    | true =>
      have henabled : enabledRuleOptions (rule :: rules) = enabledRuleOptions rules := by
        simp [enabledRuleOptions, hdisabled]
      rw [reachedRules, henabled] at hsound hdirect
      rw [henabled]
      simpa [ConfiguredRule.runtime, hdisabled] using ih hsound hdirect refs (index + 1) s
    | false =>
      have henabled : enabledRuleOptions (rule :: rules) = rule :: enabledRuleOptions rules := by
        simp [enabledRuleOptions, hdisabled]
      rw [reachedRules, henabled, Lists.upTo] at hsound hdirect
      rw [henabled, collectRuleReferences_cons]
      obtain ⟨hrule, hsound⟩ := forall_mem_cons.1 hsound
      obtain ⟨hruleDirect, hdirect⟩ := forall_mem_cons.1 hdirect
      have hmatch (hrelied : rule.relied env.toRouteEnv mode = true) := matched_of_below (hrule hrelied s.md)
      simp only [ConfiguredRule.runtime, hdisabled, RouteRule.matches, Bool.false_eq_true, if_false]
      generalize rule.options.newRule.match env.toEnv s.md.resetRuleCache = out at hmatch
      obtain ⟨matched, md⟩ := out
      -- the walk goes on with the next rule, and so does the collection
      have hnext (hgoes : rule.ends env.toRouteEnv mode = false) := by
        rw [hgoes] at hsound hdirect
        exact ih hsound hdirect
      cases matched with
      | false =>
        have hgoes : rule.ends env.toRouteEnv mode = false := by
          by_contra hends
          rw [Bool.not_eq_false] at hends
          obtain ⟨-, halways⟩ := (Bool.and_eq_true _ _).mp hends
          cases (hmatch (by simp [ConfiguredRule.relied, hends])).1 (of_decide_eq_true halways)
        rw [hgoes]
        exact hnext hgoes _ (index + 1) { s with md }
      | true =>
        simp only [if_true]
        rcases matchedStep_collect env rule.action { s with md } refs with
          ⟨t, named, hstep, hnames, hfinal, hmem⟩ | ⟨t, hstep, hfinal⟩ | ⟨err, t, hstep⟩
        · rw [hstep]
          refine ⟨named, hnames, fun outbound ho => ?_⟩
          have hnever : evaluateRule env.equalFold mode rule.options ≠ .never := by
            rintro hnever
            obtain rfl := Option.mem_def.1 ho
            cases (hmatch (by simp [ConfiguredRule.relied, hfinal, hnames, hnever])).2 hnever
          rw [if_neg hnever]
          split
          · exact hmem outbound ho
          · exact collectRuleReferences_outbounds _ _ _ _ _ (hmem outbound ho)
        · have hgoes : rule.ends env.toRouteEnv mode = false := by
            rcases hfinal with hfinal | hdir
            · rw [ConfiguredRule.ends, hfinal, Bool.false_and]
            · exact hruleDirect hdir
          rw [hstep, hgoes]
          exact hnext hgoes _ (index + 1) t
        · rw [hstep]
          trivial

lemma except_map_ok {ε α β : Type} {x : Except ε α} {f : α → β} {b : β} (h : x.map f = .ok b) :
    ∃ a, x = .ok a ∧ f a = b := by
  cases x with
  | error e => cases h
  | ok a => exact ⟨a, rfl, Except.ok.inj h⟩

lemma resolveOutbound_head {env : RouteEnv} {outbound : Outbound} {md : InboundContext}
    (h : resolveOutbound env outbound network md = .ok chain) :
    chain.head? = some outbound := by
  have hone (h : (if network ∈ outbound.network then .ok [outbound]
      else .error (network.toUpper ++ " is not supported by outbound: " ++ outbound.tag)) = Except.ok chain) :
      chain.head? = some outbound := by
    split at h
    · exact Except.ok.inj h ▸ rfl
    · cases h
  rw [resolveOutbound, resolveOutboundLoop] at h
  split at h
  · exact hone h
  · exact hone h
  dsimp only at h
  split at h
  · cases h
  obtain ⟨rest, -, rfl⟩ := except_map_ok h
  rfl

lemma selectOutbound_covered {m : Matched} {outbounds : List String} {shadowed : Bool}
    (hm : m.Covered outbounds shadowed) {s : WalkState}
    (h : selectOutbound env network m = .ok (some chain, s)) : ∃ o, chain.head? = some o ∧
      o.tag ∈ if shadowed then outbounds else outbounds ++ [env.outbound.default.tag] := by
  have hchain {o : Outbound} {s' : WalkState}
      (h : (resolveOutbound env.toRouteEnv o network s'.md).map (some ·, s') = .ok (some chain, s)) :
      chain.head? = some o := by
    obtain ⟨chain', hr, heq⟩ := except_map_ok h
    simp only [Prod.mk.injEq, Option.some.injEq] at heq
    exact heq.1 ▸ resolveOutbound_head hr
  have hnamed {tag : String} {s' : WalkState} {o : Outbound} (htag : tag ∈ outbounds)
      (hfound : env.outbound.outbound tag = some o)
      (h : (resolveOutbound env.toRouteEnv o network s'.md).map (some ·, s') = .ok (some chain, s)) :
      ∃ o, chain.head? = some o ∧
        o.tag ∈ if shadowed then outbounds else outbounds ++ [env.outbound.default.tag] := by
    have ho : o.tag = tag := by simpa using find?_some hfound
    refine ⟨o, hchain h, ?_⟩
    rw [ho]
    split
    · exact htag
    · exact mem_append_left _ htag
  cases m with
  | failed index err => cases h
  | unmatched s' =>
    refine ⟨_, hchain h, ?_⟩
    rw [if_neg (by simp [show shadowed = false from hm])]
    exact mem_append_right _ (mem_singleton_self _)
  | selected index action s' =>
    obtain ⟨named, hnames, hmem⟩ := hm
    cases action with
    | route tag options | bypass tag options =>
      obtain ⟨o, hfound, h⟩ := named_outbound h
      exact hnamed (hmem tag (Option.some.inj hnames ▸ rfl)) hfound h
    | reject method noDrop recent => cases method <;> cases h
    | hijackDNS => cases h
    | _ => cases hnames

lemma injectDetour_not_outbound {α : Type} (env : SniffEnv) (network : String) (injectable : Bool × Bool → Bool)
    (md : InboundContext) (remaining : List α) (chain : List Outbound) (c : Conn α) :
    injectDetour env network injectable md remaining ≠ .handed (.outbound chain) c := by
  unfold injectDetour
  split
  · nofun
  split
  · nofun
  · split <;> nofun

end

/-- Every outbound a connection is handed to is one of the references, and a shadowed default is never
reached: in a Clash mode, if among the rules the collection comes to none whose static match counts has an inverted
part without conditions, and none with the action `direct` matches every connection. -/
theorem routed_outbound_referenced (env : SniffEnv) (mode : String) (hmode : env.clashMode = some mode)
    (hfold : ∀ a b, env.equalFold a b = env.equalFold b a) (rules : List ConfiguredRule)
    (hinvert : ∀ rule ∈ reachedRules env.toRouteEnv mode rules, rule.relied env.toRouteEnv mode = true →
      invertsNothing env.equalFold mode rule.options = false)
    (hdirect : ∀ rule ∈ reachedRules env.toRouteEnv mode rules, rule.action = .direct →
      ∃ (other : Env) (md : InboundContext), other.clashMode = some mode ∧ other.equalFold = env.equalFold ∧
        (rule.options.newRule.match other md.resetRuleCache).1 = false) (md : InboundContext) :
    (∀ conn chain c, routeConnection env (rules.map ConfiguredRule.runtime) md conn = .handed (.outbound chain) c →
      ∃ o, chain.head? = some o ∧ o.tag ∈ ruleOutbounds env.toRouteEnv mode rules) ∧
    (∀ conn chain c, routePacketConnection env (rules.map ConfiguredRule.runtime) md conn =
      .handed (.outbound chain) c → ∃ o, chain.head? = some o ∧ o.tag ∈ ruleOutbounds env.toRouteEnv mode rules) ∧
    ((collectRuleReferences env.toRouteEnv mode (enabledRuleOptions rules) {}).2 = true →
      ∀ input s, matchRule env (rules.map ConfiguredRule.runtime) md input ≠ .unmatched s) := by
  have hcovered (md : InboundContext) (input : Input) :
      (matchRule env (rules.map ConfiguredRule.runtime) md input).Covered
        (collectRuleReferences env.toRouteEnv mode (enabledRuleOptions rules) {}).1.outbounds
        (collectRuleReferences env.toRouteEnv mode (enabledRuleOptions rules) {}).2 := by
    unfold matchRule
    split
    · trivial
    refine matchLoop_covered
      (fun rule hrule hrelied md => evaluateRule_below hmode hfold (hinvert rule hrule hrelied) rfl)
      (fun rule hrule hact => ?_) {} 0 _
    by_contra hends
    rw [Bool.not_eq_false] at hends
    obtain ⟨other, md', hother, heq, hnot⟩ := hdirect rule hrule hact
    have hbelow : (evaluateRule other.equalFold mode rule.options).truth.Below
        ((rule.options.newRule.match other).verdict md'.resetRuleCache) :=
      evaluateRule_below hother (heq ▸ hfold) (heq ▸ hinvert rule hrule (by simp [ConfiguredRule.relied, hends])) rfl
    obtain ⟨-, halways⟩ := (Bool.and_eq_true _ _).mp hends
    rw [heq, of_decide_eq_true halways] at hbelow
    rw [(matched_of_below hbelow).1 rfl] at hnot
    cases hnot
  refine ⟨fun conn chain c h => ?_, fun conn chain c h => ?_, fun hshadowed input s hunmatched => ?_⟩
  · unfold routeConnection at h
    split at h
    · exact (injectDetour_not_outbound _ _ _ _ _ _ _ h).elim
    dsimp only at h
    split at h
    · cases h
    split at h
    · cases h
    split at h
    · cases h
    next chain' s hselect =>
      obtain ⟨htarget, -⟩ := Routed.handed.inj h
      cases chain' with
      | none => cases htarget
      | some chain' =>
        obtain rfl := Target.outbound.inj htarget
        exact selectOutbound_covered (hcovered _ _) hselect
  · unfold routePacketConnection at h
    split at h
    · exact (injectDetour_not_outbound _ _ _ _ _ _ _ h).elim
    dsimp only at h
    split at h
    · cases h
    split at h
    · cases h
    · cases h
    next chain' s hselect =>
      obtain ⟨⟨⟩, -⟩ := Routed.handed.inj h
      exact selectOutbound_covered (hcovered _ _) hselect
  · have := hcovered md input
    rw [hunmatched, hshadowed] at this
    cases this

/-- A router in the mode `rule` with a proxy beside the direct outbound. -/
def ruleModeEnv : SniffEnv :=
  { SniffEnv.bare with
    clashMode := some "rule"
    outbound := {
      outbounds := [{ tag := "direct", type := "direct" }, { tag := "proxy", type := "socks" }]
      default := { tag := "direct", type := "direct" } } }

def Routed.outboundTag {α : Type} : Routed α → Option String
  | .handed (.outbound chain) _ => chain.head?.map (·.tag)
  | _ => none

lemma exampleKeyword_group :
    ∀ i ∈ [RuleItem.domainKeyword ["example"] .asIS], i.group = .destinationAddress := by decide

/-- Domains go `direct`, and the mode decides about the rest; the collection does not come to the last rule. -/
def modeRules : List ConfiguredRule :=
  [⟨.default { items := { destinationAddressItems := [.domainKeyword ["example"] .asIS]
                          destinationAddress_group := exampleKeyword_group } } false, .direct, false⟩,
    ⟨.default { clashMode := ["global"] } true, .route "proxy" {}, false⟩, ⟨.default {} false, .direct, false⟩]

theorem routed_outbound_referenced_proxy :
    (routeConnection ruleModeEnv (modeRules.map ConfiguredRule.runtime) {} ⟨[], []⟩).outboundTag = some "proxy" ∧
      (collectRuleReferences ruleModeEnv.toRouteEnv "rule" (enabledRuleOptions modeRules) {}).2 = true ∧
      ∀ input s, matchRule ruleModeEnv (modeRules.map ConfiguredRule.runtime) {} input ≠ .unmatched s := by
  have hshadowed : (collectRuleReferences ruleModeEnv.toRouteEnv "rule" (enabledRuleOptions modeRules) {}).2 = true := by
    decide +kernel
  refine ⟨by decide +kernel, hshadowed, ?_⟩
  refine (routed_outbound_referenced ruleModeEnv "rule" rfl (fun a b => ?_) modeRules ?_ ?_ {}).2.2 hshadowed
  · exact Bool.beq_comm
  · decide +kernel
  intro rule hrule hact
  have hreached : reachedRules ruleModeEnv.toRouteEnv "rule" modeRules = modeRules.take 2 := rfl
  rw [hreached] at hrule
  simp only [modeRules, take_succ_cons, take_zero, mem_cons, not_mem_nil, or_false] at hrule
  rcases hrule with rfl | rfl
  · exact ⟨ruleModeEnv.toEnv, {}, rfl, rfl, by decide +kernel⟩
  · cases hact

/-- A rule with the action `direct` counts as final, but the walk goes on behind it; and a rule
without conditions is taken never to match when it is inverted, but it always does. -/
theorem routed_outbound_not_referenced :
    (routeConnection ruleModeEnv ([⟨.default {} false, .direct, false⟩].map ConfiguredRule.runtime) {} ⟨[], []⟩).outboundTag =
        some "direct" ∧
      ruleOutbounds ruleModeEnv.toRouteEnv "rule" [⟨.default {} false, .direct, false⟩] = [] ∧
    (routeConnection ruleModeEnv ([⟨.default {} true, .route "proxy" {}, false⟩].map ConfiguredRule.runtime) {}
        ⟨[], []⟩).outboundTag = some "proxy" ∧
      ruleOutbounds ruleModeEnv.toRouteEnv "rule" [⟨.default {} true, .route "proxy" {}, false⟩] = ["direct"] := by
  refine ⟨?_, ?_, ?_, ?_⟩ <;> decide +kernel

end Route
end SingBox
