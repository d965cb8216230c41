import SingBox.Rule.Item
/-!
# Rule matching

`route/rule`: default and logical rules, rule-sets and the reference item that
merges a rule-set with the rule holding it. A match reads the metadata and
returns it as it leaves it.
-/
namespace SingBox

abbrev Matcher := InboundContext → Bool × InboundContext

/-! ## Match state -/

/-- The four groups of which a rule needs one item each. -/
inductive Group where
  | sourceAddress | sourcePort | destinationAddress | destinationPort
  deriving DecidableEq

/-- The bits of `ruleMatchState`. -/
def Group.bit : Group → UInt8
  | .sourceAddress => 1
  | .sourcePort => 2
  | .destinationAddress => 4
  | .destinationPort => 8

structure RuleGroupMatch where
  required : UInt8 := 0
  satisfied : UInt8 := 0

namespace RuleGroupMatch

def done (g : RuleGroupMatch) : Bool := g.required &&& ~~~g.satisfied == 0

def mergeWith (g other : RuleGroupMatch) : RuleGroupMatch :=
  ⟨g.required ||| other.required, g.satisfied ||| other.satisfied⟩

/-- A group becomes required, and satisfied when `matched`. -/
def add (g : RuleGroupMatch) (group : Group) (matched : Bool) : RuleGroupMatch :=
  ⟨g.required ||| group.bit, if matched then g.satisfied ||| group.bit else g.satisfied⟩

/-- `has`, on the satisfied groups. -/
def has (g : RuleGroupMatch) (group : Group) : Bool := g.satisfied &&& group.bit != 0

end RuleGroupMatch

structure RuleMatchSnapshot where
  ipCidrMatchSource : Bool
  ipCidrAcceptEmpty : Bool
  deferredIPCIDRMatchGroups : UInt8

def snapshotRuleMatch (md : InboundContext) : RuleMatchSnapshot :=
  ⟨md.ipCidrMatchSource, md.ipCidrAcceptEmpty, md.deferredIPCIDRMatchGroups⟩

def RuleMatchSnapshot.restore (s : RuleMatchSnapshot) (md : InboundContext) : InboundContext :=
  { md with
    ipCidrMatchSource := s.ipCidrMatchSource
    ipCidrAcceptEmpty := s.ipCidrAcceptEmpty
    deferredIPCIDRMatchGroups := s.deferredIPCIDRMatchGroups }

/-- `metadata.DeferredIPCIDRMatchGroups |= groups`. -/
def InboundContext.defer (md : InboundContext) (groups : UInt8) : InboundContext :=
  { md with deferredIPCIDRMatchGroups := md.deferredIPCIDRMatchGroups ||| groups }

/-- `metadata.DeferredIPCIDRMatchGroups &^= groups`. -/
def InboundContext.settle (md : InboundContext) (groups : UInt8) : InboundContext :=
  { md with deferredIPCIDRMatchGroups := md.deferredIPCIDRMatchGroups &&& ~~~groups }

/-! ## Default rules -/

lemma RuleItem.group_nil (group : ItemGroup) : ∀ i ∈ ([] : List RuleItem), i.group = group := nofun

/-- The item lists of `abstractDefaultRule`, as its constructors fill them. -/
structure DefaultItems where
  items : List RuleItem := []
  sourceAddressItems : List RuleItem := []
  sourcePortItems : List RuleItem := []
  destinationAddressItems : List RuleItem := []
  destinationIPCIDRItems : List RuleItem := []
  destinationPortItems : List RuleItem := []
  items_group : ∀ i ∈ items, i.group = .item := by first | exact RuleItem.group_nil _ | decide
  sourceAddress_group : ∀ i ∈ sourceAddressItems, i.group = .sourceAddress :=
    by first | exact RuleItem.group_nil _ | decide
  sourcePort_group : ∀ i ∈ sourcePortItems, i.group = .sourcePort := by first | exact RuleItem.group_nil _ | decide
  destinationAddress_group : ∀ i ∈ destinationAddressItems, i.group = .destinationAddress :=
    by first | exact RuleItem.group_nil _ | decide
  destinationIPCIDR_group : ∀ i ∈ destinationIPCIDRItems, i.group = .destinationIPCIDR :=
    by first | exact RuleItem.group_nil _ | decide
  destinationPort_group : ∀ i ∈ destinationPortItems, i.group = .destinationPort :=
    by first | exact RuleItem.group_nil _ | decide

/-- `allItems`, the rule-set reference apart. -/
def DefaultItems.allItems (r : DefaultItems) : List RuleItem :=
  r.items ++ r.sourceAddressItems ++ r.sourcePortItems ++ r.destinationAddressItems ++
    r.destinationIPCIDRItems ++ r.destinationPortItems

def matchAnyItem (env : Env) (items : List RuleItem) (md : InboundContext) : Bool :=
  items.any (·.match env md)

section
variable (env : Env) (r : DefaultItems)

section
variable (md : InboundContext)

def destinationIPCIDRMatchesSource : Bool :=
  md.ipCidrMatchSource && r.destinationIPCIDRItems.length > 0

def destinationIPCIDRMatchesDestination : Bool :=
  !md.ignoreDestinationIPCIDRMatch && !md.ipCidrMatchSource && r.destinationIPCIDRItems.length > 0

def evaluateGroups : RuleGroupMatch × InboundContext :=
  let groups : RuleGroupMatch := {}
  let groups := if r.sourceAddressItems.length > 0 then
    groups.add .sourceAddress (matchAnyItem env r.sourceAddressItems md) else groups
  let groups := if destinationIPCIDRMatchesSource r md then
    groups.add .sourceAddress (!groups.has .sourceAddress && matchAnyItem env r.destinationIPCIDRItems md)
    else groups
  let groups := if r.sourcePortItems.length > 0 then
    groups.add .sourcePort (matchAnyItem env r.sourcePortItems md) else groups
  let groups := if r.destinationAddressItems.length > 0 then
    groups.add .destinationAddress (matchAnyItem env r.destinationAddressItems md) else groups
  let groups := if destinationIPCIDRMatchesDestination r md then
    groups.add .destinationAddress (!groups.has .destinationAddress && matchAnyItem env r.destinationIPCIDRItems md)
    else groups
  let groups := if r.destinationPortItems.length > 0 then
    groups.add .destinationPort (matchAnyItem env r.destinationPortItems md) else groups
  (groups,
    if md.ignoreDestinationIPCIDRMatch && !md.ipCidrMatchSource && r.destinationIPCIDRItems.length > 0 &&
        r.destinationAddressItems.length == 0 then
      md.defer (Group.bit .destinationAddress)
    else md)

/-- `evaluateForMerge`: `none` when an item outside the groups fails. -/
def evaluateForMerge : Option RuleGroupMatch × InboundContext :=
  let (groups, md) := evaluateGroups env r md
  if r.items.all (·.match env md) then (some groups, md) else (none, md)

end

variable (ruleSetItem : Option (RuleGroupMatch → Matcher))

/-- What `matchInner` makes of the rule's own groups: the reference's `matchWithOuterGroups`, or
`done` without a reference. -/
def matchGroups (groups : RuleGroupMatch) : Matcher :=
  match ruleSetItem with
  | some matchWithOuterGroups => matchWithOuterGroups groups
  | none => fun md => (groups.done, md)

def matchInner : Matcher := fun md =>
  let (groups, md) := evaluateGroups env r md
  if r.items.all (·.match env md) then
    let (matched, md) := matchGroups ruleSetItem groups md
    (matched, if matched then md.settle groups.satisfied else md)
  else (false, md)

/-- `abstractDefaultRule.Match`. -/
def defaultMatch (invert : Bool) : Matcher := fun md =>
  if r.allItems.length == 0 && ruleSetItem.isNone then (true, md)
  else
    let (matched, md) := matchInner env r ruleSetItem md
    if invert then
      if !matched then (true, { md with deferredIPCIDRMatchGroups := 0 })
      else (md.deferredIPCIDRMatchGroups != 0, md)
    else (matched, md)

end

/-! ## Logical rules -/

inductive LogicalMode where
  | and | or
  deriving DecidableEq

/-- The `and` loop: the verdict and the groups its sub-rules deferred. -/
def logicalAnd : List Matcher → UInt8 → InboundContext → (Bool × UInt8) × InboundContext
  | [], deferredGroups, md => ((true, deferredGroups), md)
  | rule :: rules, deferredGroups, md =>
    let (matched, md) := rule md.resetRuleCache
    if !matched then ((false, 0), md)
    else logicalAnd rules (deferredGroups ||| md.deferredIPCIDRMatchGroups) md

/-- The `or` loop: a match that defers nothing ends it. -/
def logicalOr : List Matcher → Bool → UInt8 → InboundContext → (Bool × UInt8) × InboundContext
  | [], matched, deferredGroups, md => ((matched, deferredGroups), md)
  | rule :: rules, matched, deferredGroups, md =>
    let (ruleMatched, md) := rule md.resetRuleCache
    if ruleMatched then
      if md.deferredIPCIDRMatchGroups == 0 then ((true, 0), md)
      else logicalOr rules true (deferredGroups ||| md.deferredIPCIDRMatchGroups) md
    else logicalOr rules matched deferredGroups md

def logicalLoop : LogicalMode → List Matcher → InboundContext → (Bool × UInt8) × InboundContext
  | .and, rules, md => logicalAnd rules 0 md
  | .or, rules, md => logicalOr rules false 0 md

/-- `abstractLogicalRule.Match`. -/
def logicalMatch (mode : LogicalMode) (rules : List Matcher) (invert : Bool) : Matcher := fun md =>
  let snapshot := snapshotRuleMatch md
  let ((matched, deferredGroups), md) := logicalLoop mode rules md
  let md := snapshot.restore md
  let md := if matched then md.defer deferredGroups else md
  if invert then (if !matched then true else deferredGroups != 0, md) else (matched, md)

/-! ## Headless rules and rule-sets -/

/-- The items `NewDefaultHeadlessRule` makes. -/
def RuleItem.headless : RuleItem → Bool
  | .queryType _ | .network _ | .domain .. | .domainKeyword .. | .domainRegex .. | .adGuardDomain .. => true
  | .ipCIDR .. | .port .. | .portRange .. => true
  | .process _ | .processPath _ | .processPathRegex _ | .packageName _ | .packageNameRegex _ => true
  | .networkType _ | .networkIsExpensive | .networkIsConstrained | .wifiSSID _ | .wifiBSSID _ => true
  | .networkInterfaceAddress _ | .defaultInterfaceAddress _ => true
  | _ => false

/-- The items of a `DefaultHeadlessRule`, which never references a rule-set itself. -/
structure HeadlessItems extends DefaultItems where
  headless : ∀ i ∈ toDefaultItems.allItems, i.headless := by decide

/-- `adapter.HeadlessRule`, as rule-sets hold it. -/
inductive HeadlessRule where
  | default (items : HeadlessItems) (invert : Bool)
  | logical (mode : LogicalMode) (rules : List HeadlessRule) (invert : Bool)

mutual

def HeadlessRule.match (env : Env) : HeadlessRule → Matcher
  | .default items invert => defaultMatch env items.toDefaultItems none invert
  | .logical mode rules invert => logicalMatch mode (HeadlessRule.matchers env rules) invert

def HeadlessRule.matchers (env : Env) : List HeadlessRule → List Matcher
  | [] => []
  | rule :: rules => rule.match env :: HeadlessRule.matchers env rules

end

/-- The loop of `matchAnyHeadlessRule`. -/
def matchAnyLoop (snapshot : RuleMatchSnapshot) : List Matcher → Bool → UInt8 → Matcher
  | [], matched, deferredGroups, md =>
    let md := snapshot.restore md
    (matched, if matched then md.defer deferredGroups else md)
  | rule :: rules, matched, deferredGroups, md =>
    let (ruleMatched, md) := rule md.resetRuleMatchCache
    if ruleMatched then
      if md.deferredIPCIDRMatchGroups == 0 then (true, snapshot.restore md)
      else matchAnyLoop snapshot rules true (deferredGroups ||| md.deferredIPCIDRMatchGroups) md
    else matchAnyLoop snapshot rules matched deferredGroups md

def matchAnyHeadlessRule (env : Env) (rules : List HeadlessRule) : Matcher := fun md =>
  matchAnyLoop (snapshotRuleMatch md) (HeadlessRule.matchers env rules) false 0 md

/-- A local or remote rule-set, loaded. -/
structure RuleSet where
  tag : String := ""
  rules : List HeadlessRule

def RuleSet.match (env : Env) (s : RuleSet) : Matcher := matchAnyHeadlessRule env s.rules

/-- `mergeableRule`: the one default rule of a rule-set, not inverted. -/
def RuleSet.mergeableRule (s : RuleSet) : Option HeadlessItems :=
  match s.rules with
  | [.default items false] => some items
  | _ => none

/-- `RuleSetItem`, started. -/
structure RuleSetItem where
  setList : List RuleSet
  ipCidrMatchSource : Bool := false
  ipCidrAcceptEmpty : Bool := false

namespace RuleSetItem
variable (env : Env) (r : RuleSetItem)

def prepareNestedMatch (md : InboundContext) : InboundContext :=
  { md.resetRuleMatchCache with
    ipCidrMatchSource := r.ipCidrMatchSource
    ipCidrAcceptEmpty := r.ipCidrAcceptEmpty }

/-- The loop of `matchWithOuterGroups`. -/
def matchSets (outerGroups : RuleGroupMatch) (snapshot : RuleMatchSnapshot) : List RuleSet → Bool → UInt8 → Matcher
  | [], matched, deferredGroups, md =>
    let md := snapshot.restore md
    (matched, if matched then md.defer deferredGroups else md)
  | ruleSet :: sets, matched, deferredGroups, md =>
    let md := r.prepareNestedMatch md
    match ruleSet.mergeableRule with
    | some branch =>
      match evaluateForMerge env branch.toDefaultItems md with
      | (some branchGroups, md) =>
        let merged := outerGroups.mergeWith branchGroups
        if merged.done then
          let branchDeferredGroups := md.deferredIPCIDRMatchGroups &&& ~~~merged.satisfied
          if branchDeferredGroups == 0 then (true, (snapshot.restore md).settle merged.satisfied)
          else matchSets outerGroups snapshot sets true (deferredGroups ||| branchDeferredGroups) md
        else matchSets outerGroups snapshot sets matched deferredGroups md
      | (none, md) => matchSets outerGroups snapshot sets matched deferredGroups md
    | none =>
      if outerGroups.done then
        let (setMatched, md) := ruleSet.match env md
        if setMatched then
          if md.deferredIPCIDRMatchGroups == 0 then (true, snapshot.restore md)
          else matchSets outerGroups snapshot sets true (deferredGroups ||| md.deferredIPCIDRMatchGroups) md
        else matchSets outerGroups snapshot sets matched deferredGroups md
      else matchSets outerGroups snapshot sets matched deferredGroups md

def matchWithOuterGroups (outerGroups : RuleGroupMatch) : Matcher := fun md =>
  r.matchSets env outerGroups (snapshotRuleMatch md) r.setList false 0 md

end RuleSetItem

/-! ## Route and DNS rules -/

/-- A route or DNS rule. `matchResponse` is the DNS rules' `match_response`: `none` for
a rule without it, `some ""` for the anonymous response. -/
inductive Rule where
  | default (items : DefaultItems) (ruleSetItem : Option RuleSetItem) (invert : Bool)
      (matchResponse : Option String)
  | logical (mode : LogicalMode) (rules : List Rule) (invert : Bool)

namespace Rule

/-- `abstractDefaultRule.Match` on a rule with its reference. -/
def matchDefault (env : Env) (items : DefaultItems) (ruleSetItem : Option RuleSetItem) (invert : Bool) : Matcher :=
  defaultMatch env items (ruleSetItem.map fun r => r.matchWithOuterGroups env) invert

def withResponse (md : InboundContext) (response : Option Dns.Msg) : InboundContext :=
  { md with dnsResponse := response, destinationAddressMatchFromResponse := true }

/-- `DefaultDNSRule.matchForMatch`; a route rule has no `match_response`. -/
def matchForMatch (env : Env) (items : DefaultItems) (ruleSetItem : Option RuleSetItem) (invert : Bool) :
    Option String → Matcher
  | none, md => matchDefault env items ruleSetItem invert md
  | some tag, md =>
    let response := if tag ≠ "" then md.namedDNSResponses tag else md.dnsResponse
    -- the match runs on a copy, so the metadata itself is left alone
    if response.isNone then (invert, md)
    else ((matchDefault env items ruleSetItem invert (withResponse md response)).1, md)

mutual

/-- `Rule.Match`. -/
def «match» (env : Env) : Rule → Matcher
  | .default items ruleSetItem invert matchResponse =>
    matchForMatch env items ruleSetItem invert matchResponse
  | .logical mode rules invert => logicalMatch mode (matchers env rules) invert

def matchers (env : Env) : List Rule → List Matcher
  | [] => []
  | rule :: rules => rule.match env :: matchers env rules

end

/-- `LegacyPreMatch`: match before the lookup, with destination-IP items left out. -/
def legacyPreMatch (env : Env) (rule : Rule) : Matcher := fun md =>
  let preMatch := fun (m : Matcher) =>
    let (matched, md) := m { md with ignoreDestinationIPCIDRMatch := true }
    (matched, { md with ignoreDestinationIPCIDRMatch := false })
  match rule with
  | .default _ _ _ (some _) => (false, md)
  | .default items ruleSetItem invert none => preMatch (matchDefault env items ruleSetItem invert)
  | .logical mode rules invert => preMatch (logicalMatch mode (matchers env rules) invert)

/-- `MatchAddressLimit`: match on a copy that holds the response. -/
def matchAddressLimit (env : Env) (rule : Rule) (md : InboundContext) (response : Option Dns.Msg) : Bool :=
  let md := withResponse md.resetRuleCache response
  match rule with
  | .default items ruleSetItem invert _ => (matchDefault env items ruleSetItem invert md).1
  | .logical mode rules invert => (logicalMatch mode (matchers env rules) invert md).1

end Rule
end SingBox
