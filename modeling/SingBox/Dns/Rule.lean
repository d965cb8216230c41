import SingBox.Route.Action
/-!
# DNS rules

The rules of the DNS router with their actions, which evaluated responses a
rule binds (`match_response`), and the checks the router makes on a rule list
before it uses it (`validateLegacyDNSModeDisabledRules`).
-/
namespace SingBox.Dns
open Route (DomainStrategy DNSQueryOptions)

/-- `RuleActionDNSRouteOptions`. -/
structure RouteOptions where
  strategy : DomainStrategy := .asIS
  timeout : Nat := 0
  disableCache : Bool := false
  disableOptimisticCache : Bool := false
  rewriteTTL : Option UInt32 := none
  clientSubnet : Prefix := ⟨.invalid, 0⟩
  removeClientSubnet : Bool := false
  deriving DecidableEq

/-- The methods of `RuleActionReject`; `reply` is refused for DNS rules. -/
inductive RejectMethod where
  | default | drop
  deriving DecidableEq

/-- `RuleActionReject`, as far as the router reads it. -/
structure Reject where
  rcode : Int := -1
  method : RejectMethod := .default
  deriving DecidableEq

/-- `RuleActionPredefined`. -/
structure Predefined where
  rcode : Nat := rcodeSuccess
  answer : List RR := []
  ns : List RR := []
  extra : List RR := []
  deriving DecidableEq

inductive RuleAction where
  | routeOptions (options : RouteOptions)
  | evaluate (server tag : String) (options : RouteOptions) (speculative : Bool)
  | respond
  | route (server : String) (options : RouteOptions) (speculative : Bool)
  | reject (action : Reject)
  | predefined (action : Predefined)
  deriving DecidableEq

/-- What `validateDNSRuleAction` asks of the action of a `race` rule: a final action, not
speculative. -/
def RuleAction.raceable : RuleAction → Bool
  | .route _ _ speculative => !speculative
  | .respond | .reject _ | .predefined _ => true
  | .routeOptions _ | .evaluate .. => false

end SingBox.Dns

namespace SingBox.Rule

def matchResponseTag : Rule → String
  | .default _ _ _ matchResponse => matchResponse.getD ""
  | .logical .. => ""

mutual

def matchResponseTags : Rule → List String
  | .default _ _ _ matchResponse => (matchResponse.filter (· ≠ "")).toList
  | .logical _ rules _ => (matchResponseTagsOf rules).eraseDups

def matchResponseTagsOf : List Rule → List String
  | [] => []
  | rule :: rules => rule.matchResponseTags ++ matchResponseTagsOf rules

end

mutual

def matchResponseAnonymous : Rule → Bool
  | .default _ _ _ matchResponse => matchResponse == some ""
  | .logical _ rules _ => matchResponseAnonymousOf rules

def matchResponseAnonymousOf : List Rule → Bool
  | [] => false
  | rule :: rules => rule.matchResponseAnonymous || matchResponseAnonymousOf rules

end
end SingBox.Rule

namespace SingBox.Dns

def hasBindings (rule : Rule) : Bool := rule.matchResponseTags.length > 0 || rule.matchResponseAnonymous

/-- `adapter.DNSRule`, as `NewDNSRule` makes it. -/
structure DNSRule where
  rule : Rule
  action : RuleAction
  race : Bool := false
  race_valid : race = true → action.raceable = true ∧ hasBindings rule = true := by simp

end SingBox.Dns

/-! ## Validation -/

namespace SingBox

def RuleItem.isDestinationIPCIDR : RuleItem → Bool
  | .ipCIDR false _ => true
  | _ => false

mutual

/-- `HasHeadlessRule`. -/
def HeadlessRule.has (p : HeadlessItems → Bool) : HeadlessRule → Bool
  | .default items _ => p items
  | .logical _ rules _ => HeadlessRule.anyHas p rules

def HeadlessRule.anyHas (p : HeadlessItems → Bool) : List HeadlessRule → Bool
  | [] => false
  | rule :: rules => rule.has p || HeadlessRule.anyHas p rules

end

/-- `ContainsIPCIDRRule` of the rule-set's metadata. -/
def RuleSet.containsIPCIDRRule (s : RuleSet) : Bool :=
  HeadlessRule.anyHas (fun items => items.allItems.any RuleItem.isDestinationIPCIDR) s.rules

/-- `ContainsNonIPCIDRRule` of the rule-set's metadata. -/
def RuleSet.containsNonIPCIDRRule (s : RuleSet) : Bool :=
  HeadlessRule.anyHas (fun items => items.allItems.any fun i => !i.isDestinationIPCIDR) s.rules

/-- The items that read the response whatever the rule matches it with:
`response_rcode`, `response_answer`, `response_ns` and `response_extra`. -/
def RuleItem.isResponseRecord : RuleItem → Bool
  | .dnsResponseRCode _ | .dnsResponseRecord .. => true
  | _ => false

end SingBox

namespace SingBox.Dns

/-- `dnsRuleResponseUse`. -/
structure ResponseUse where
  needsAnonymous : Bool := false
  referencedTags : List String := []

def responseFieldsMessage : String :=
  "Response Match Fields (ip_cidr, ip_is_private, ip_accept_any, response_rcode, response_answer, response_ns, " ++
    "response_extra) require match_response to be enabled"

/-- `MessageWithLink` of a deprecation note that has a link. -/
def deprecatedMessage (description deprecatedVersion scheduledVersion migrationLink : String) : String :=
  description ++ " is deprecated in sing-box " ++ deprecatedVersion ++ " and will be removed in sing-box " ++
    scheduledVersion ++ ", checkout documentation for migration: " ++ migrationLink

def addressFilterLink : String :=
  "https://sing-box.sagernet.org/migration/#migrate-address-filter-fields-to-response-matching"

def addressFilterMessage : String :=
  deprecatedMessage "Legacy Address Filter Fields in DNS rules" "1.14.0" "1.16.0" addressFilterLink

def acceptEmptyMessage : String :=
  deprecatedMessage "Legacy `rule_set_ip_cidr_accept_empty` DNS rule item" "1.14.0" "1.16.0" addressFilterLink

def logicalRespondMessage : String :=
  "respond on a logical rule cannot bind a `match_response` tag from its sub rules; use a non-logical rule"

/-- `validateLegacyDNSModeDisabledDefaultRule`; `respond` says that the rule's
action is `respond`. -/
def validateDefaultRule (items : DefaultItems) (ruleSetItem : Option RuleSetItem) (matchResponse : Option String)
    (respond : Bool) : Except String ResponseUse :=
  let sets := (ruleSetItem.map (·.setList)).getD []
  if items.allItems.any (fun i => i.isResponseRecord || i.group = .destinationIPCIDR) && matchResponse.isNone then
    .error responseFieldsMessage
  else if matchResponse.isNone && sets.any (fun s => s.containsIPCIDRRule && !s.containsNonIPCIDRRule) then
    .error addressFilterMessage
  else if (ruleSetItem.map (·.ipCidrAcceptEmpty)).getD false then .error acceptEmptyMessage
  else
    .ok {
      needsAnonymous := matchResponse == some "" || (respond && matchResponse.getD "" = "")
      referencedTags := (matchResponse.filter (· ≠ "")).toList }

mutual

/-- `validateLegacyDNSModeDisabledRuleTree`. Sub-rules carry no action. -/
def validateRuleTree : Rule → Bool → Except String ResponseUse
  | .default items ruleSetItem _ matchResponse, respond => validateDefaultRule items ruleSetItem matchResponse respond
  | .logical _ rules _, respond => do
    let use ← validateSubRules 0 rules
    if respond then
      if use.referencedTags.length > 0 then .error logicalRespondMessage
      else .ok { use with needsAnonymous := true }
    else .ok use

def validateSubRules (index : Nat) : List Rule → Except String ResponseUse
  | [] => .ok {}
  | rule :: rules =>
    match validateRuleTree rule false with
    | .error e => .error s!"sub rule[{index}]: {e}"
    | .ok use => do
      let rest ← validateSubRules (index + 1) rules
      .ok ⟨use.needsAnonymous || rest.needsAnonymous, use.referencedTags ++ rest.referencedTags⟩

end

/-- What the loop of `validateLegacyDNSModeDisabledRules` keeps, its warnings
apart. -/
structure Validation where
  seenAnonymousEvaluate : Bool := false
  definedTags : List String := []

def validateRule (index : Nat) (v : Validation) (rule : DNSRule) : Except String Validation := do
  let use ← (validateRuleTree rule.rule (rule.action = .respond)).mapError fun e =>
    s!"validate dns rule[{index}]: {e}"
  if use.needsAnonymous && !v.seenAnonymousEvaluate then
    if v.definedTags.length > 0 then
      .error s!"dns rule[{index}]: response-based matching requires a preceding evaluate action without `tag`; use `match_response` with an evaluate tag to reference a tagged result"
    else .error s!"dns rule[{index}]: response-based matching requires a preceding evaluate action"
  else
    match use.referencedTags.find? (fun tag => !v.definedTags.contains tag) with
    | some tag => .error s!"dns rule[{index}]: undefined evaluate tag: {tag}"
    | none =>
      match rule.action with
      | .evaluate _ tag .. =>
        if tag = "" then .ok { v with seenAnonymousEvaluate := true }
        else if v.definedTags.contains tag then .error s!"dns rule[{index}]: duplicate evaluate tag: {tag}"
        else .ok { v with definedTags := v.definedTags ++ [tag] }
      | _ => .ok v

def validateLoop (index : Nat) (v : Validation) : List DNSRule → Except String Validation
  | [] => .ok v
  | rule :: rules => do validateLoop (index + 1) (← validateRule index v rule) rules

def validateLegacyDNSModeDisabledRules (rules : List DNSRule) : Except String Validation := validateLoop 0 {} rules

end SingBox.Dns
