import SingBox.Rule.TwoRuns
/-!
# Source matching: a two-run argument

Two metadata that agree on everything but the destination address and the
addresses it resolves to (`SameSource`) are matched alike by rules that look
at the source only. `ip_cidr` items look at the source under
`rule_set_ip_cidr_match_source`, a flag that logical rules clear.
-/
open Kleene

namespace SingBox
open Lists
variable {i : RuleItem} {md : InboundContext} {env : Env}

/-- The metadata differ at most in the destination IP, `DestinationAddresses`, `CacheIPs` and `DNSResponse`. -/
def SameSource (md md' : InboundContext) : Prop :=
  ∃ address destinationAddresses cacheIPs dnsResponse, md' =
    { md with
      destination := { md.destination with addr := address }
      destinationAddresses := destinationAddresses
      cacheIPs := cacheIPs
      dnsResponse := dnsResponse }

/-- Does an item read any of these, given the match-source flag? -/
def RuleItem.readsDestination (matchSource : Bool) : RuleItem → Bool
  | .ipCIDR isSource _ => !isSource && !matchSource
  | .ipIsPrivate isSource => !isSource
  | .ipVersion _ | .ipAcceptAny | .dnsResponseRCode _ | .dnsResponseRecord .. | .preferredBy .. => true
  | _ => false

open HeadlessRule RuleItem

lemma sameSource_cacheRel : CacheRel SameSource where
  ruleCache := by
    rintro md md' ⟨a, ds, cs, m, rfl⟩
    rfl
  ignore := by
    rintro md md' ⟨a, ds, cs, m, rfl⟩
    rfl
  setRuleCache := by
    rintro md md' ⟨a, ds, cs, m, rfl⟩ c
    exact ⟨a, ds, cs, m, rfl⟩

namespace SameSource
variable {md md' : InboundContext} (h : SameSource md md')
include h

lemma domainHost_eq (hdom : ∀ s a, env.isDomain { s with addr := a } = env.isDomain s)
    (strategy : DomainMatchStrategy) : domainHost env strategy md' = domainHost env strategy md := by
  obtain ⟨a, ds, cs, m, rfl⟩ := h
  cases strategy <;> simp [domainHost, hdom]

lemma item_eq (hdom : ∀ s a, env.isDomain { s with addr := a } = env.isDomain s)
    (hi : i.readsDestination md.ipCidrMatchSource = false) : i.match env md' = i.match env md := by
  have hhost := h.domainHost_eq hdom
  obtain ⟨a, ds, cs, m, rfl⟩ := h
  cases i with
  | ipCIDR isSource ipSet =>
    have hsource : isSource = true ∨ md.ipCidrMatchSource = true := by
      revert hi; cases isSource <;> simp [readsDestination]
    simp [RuleItem.match, matchIPCIDR, hsource]
  | ipIsPrivate isSource =>
    obtain rfl : isSource = true := by simpa [readsDestination] using hi
    rfl
  | domain | domainKeyword | domainRegex | adGuardDomain => simp only [RuleItem.match, matchDomainHost, hhost]
  | ipVersion | ipAcceptAny | dnsResponseRCode | dnsResponseRecord | preferredBy => cases hi
  | _ => rfl

end SameSource

/-! ## Matchers -/

def DefaultItems.SourceOnly (r : DefaultItems) (matchSource : Bool) : Prop :=
  ∀ i ∈ r.allItems, i.readsDestination matchSource = false

/-- On metadata that share the source the match takes the same course as on these. -/
def Blind (m : Matcher) (md : InboundContext) : Prop := ∀ md', SameSource md md' → AgreesAt SameSource m md md'

/-! ## Rule trees -/

/-- The match comes to a default rule whose `ip_cidr` items it compares with the destination. -/
inductive HeadlessRule.ComparesDestination (env : Env) : InboundContext → HeadlessRule → Prop
  | default {md : InboundContext} {items : HeadlessItems} {invert : Bool}
      (h : destinationIPCIDRMatchesDestination items.toDefaultItems md = true) :
      ComparesDestination env md (.default items invert)
  | logical {md : InboundContext} {mode : LogicalMode} {rules : List HeadlessRule} {invert : Bool} {r : HeadlessRule}
      (hr : r ∈ upTo (fun r => (r.match env).verdict md.resetRuleCache = mode.stops) rules)
      (h : ComparesDestination env md.resetRuleCache r) : ComparesDestination env md (.logical mode rules invert)

/-- No item of the rule, and no reference without `rule_set_ip_cidr_match_source`, looks at the destination
address or the response; an anonymous `match_response` asks for the response itself. -/
inductive Rule.SourceConditions : Rule → Prop
  | default {items : DefaultItems} {ruleSetItem : Option RuleSetItem} {invert : Bool} {matchResponse : Option String}
      (hi : items.SourceOnly false) (hr : ∀ r, ruleSetItem = some r → r.ipCidrMatchSource = true)
      (hm : matchResponse ≠ some "") : SourceConditions (.default items ruleSetItem invert matchResponse)
  | logical {mode : LogicalMode} {rules : List Rule} {invert : Bool} (h : ∀ r ∈ rules, SourceConditions r) :
      SourceConditions (.logical mode rules invert)

/-- The match comes to such a rule in a rule-set it references: the rule's own items outside the groups match, no
rule-set and no rule before it decides, and the rule-set is matched on its own. -/
inductive Rule.ComparesDestination (env : Env) : InboundContext → Rule → Prop
  | default {md : InboundContext} {items : DefaultItems} {item : RuleSetItem} {invert : Bool} {s : RuleSet}
      {r : HeadlessRule} (hi : items.items.all (·.match env md) = true)
      (hs : s ∈ upTo (item.setVerdict env (evaluateGroups env items md).1 md · = .yes) item.setList)
      (hm : s.mergeableRule = none) (hdone : (evaluateGroups env items md).1.done = true)
      (hr : r ∈ upTo (fun r => (r.match env).verdict (item.prepareNestedMatch md) = .yes) s.rules)
      (h : r.ComparesDestination env (item.prepareNestedMatch md)) :
      ComparesDestination env md (.default items (some item) invert none)
  | response {md : InboundContext} {items : DefaultItems} {ruleSetItem : Option RuleSetItem} {invert : Bool}
      {tag : String} {response : Dns.Msg} (ht : md.namedDNSResponses tag = some response)
      (h : ComparesDestination env (withResponse md (some response)) (.default items ruleSetItem invert none)) :
      ComparesDestination env md (.default items ruleSetItem invert (some tag))
  | logical {md : InboundContext} {mode : LogicalMode} {rules : List Rule} {invert : Bool} {r : Rule}
      (hr : r ∈ upTo (fun r => (r.match env).verdict md.resetRuleCache = mode.stops) rules)
      (h : ComparesDestination env md.resetRuleCache r) : ComparesDestination env md (.logical mode rules invert)

lemma readsDestination_of_headless (h : i.headless) : i.readsDestination true = false := by
  cases i <;> simp_all [headless, readsDestination]

/-- Without a comparison with the destination no item is consulted that reads it. -/
lemma HeadlessItems.consults_source (r : HeadlessItems)
    (h : destinationIPCIDRMatchesDestination r.toDefaultItems md = false) (hi : r.Consults md i) :
    i.readsDestination md.ipCidrMatchSource = false := by
  have hheadless := r.headless i hi.mem
  cases hflag : md.ipCidrMatchSource with
  | true => exact readsDestination_of_headless hheadless
  | false =>
    have hg : i.group ≠ .destinationIPCIDR := by
      rcases hi with hi | ⟨g, hi⟩
      · simp [r.items_group i hi]
      cases g with
      | sourceAddress =>
        have hi : i ∈ r.sourceAddressItems := by simpa [DefaultItems.groupItems, hflag] using hi
        simp [r.sourceAddress_group i hi]
      | sourcePort => simp [r.sourcePort_group i hi]
      | destinationAddress =>
        simp only [destinationIPCIDRMatchesDestination, hflag] at h
        simp only [DefaultItems.groupItems, hflag, List.mem_append] at hi
        rcases hi with hi | hi
        · simp [r.destinationAddress_group i hi]
        · split at hi <;> simp_all
      | destinationPort => simp [r.destinationPort_group i hi]
    cases i with
    | ipCIDR isSource => cases isSource <;> simp_all [RuleItem.group, readsDestination]
    | _ => simp_all [RuleItem.headless, readsDestination]

section
variable {env : Env} (hdom : ∀ s a, env.isDomain { s with addr := a } = env.isDomain s)
include hdom

lemma HeadlessRule.blind {r : HeadlessRule} (h : ¬ r.ComparesDestination env md) :
    Blind (r.match env) md := by
  induction r using ind generalizing md with
  | default items invert =>
    have hitems {i : RuleItem} := items.consults_source (i := i) (Bool.eq_false_iff.2 fun hd => h (.default hd))
    exact fun md' hs => defaultMatch_agreesAt sameSource_cacheRel (fun i hi => hs.item_eq hdom (hitems hi)) hs
      (fun _ _ h => matchGroups_none_agrees _ _ _ h) invert
  | logical mode rules invert ih =>
    refine fun md' hs => logicalMatch_agreesAt sameSource_cacheRel mode (fun m hm => ?_) hs invert
    rw [matchers_eq_map, upTo_map] at hm
    obtain ⟨r, hr, rfl⟩ := List.mem_map.1 hm
    exact ⟨r.match_framed env, ih r (upTo_subset _ _ hr) fun hc => h (.logical hr hc)⟩

lemma RuleSet.match_blind {s : RuleSet} (hmd : md.resetRuleMatchCache = md)
    (h : ∀ r ∈ upTo (fun r => (r.match env).verdict md = .yes) s.rules, ¬ r.ComparesDestination env md) :
    Blind (s.match env) md := by
  refine fun md' hs => RuleSet.match_agreesAt sameSource_cacheRel (fun m hm => ?_) hs
  rw [hmd, matchers_eq_map, upTo_map] at hm
  rw [hmd]
  obtain ⟨r, hr, rfl⟩ := List.mem_map.1 hm
  exact ⟨r.match_framed env, HeadlessRule.blind hdom (h r hr)⟩

lemma Rule.matchDefault_blind {items : DefaultItems} {ruleSetItem : Option RuleSetItem} {invert : Bool}
    (hi : items.SourceOnly false) (hr : ∀ r, ruleSetItem = some r → r.ipCidrMatchSource = true)
    (h : ¬ (Rule.default items ruleSetItem invert none).ComparesDestination env md) :
    Blind (Rule.matchDefault env items ruleSetItem invert) md := by
  intro md' hs
  have hitems : ∀ i, items.Consults md i → i.match env md' = i.match env md := fun i hc => by
    -- an item that does not look at the destination with the flag off does not with the flag on
    have := hi i hc.mem
    refine hs.item_eq hdom ?_
    cases i <;> simp_all [readsDestination]
  cases ruleSetItem with
  | none =>
    exact defaultMatch_agreesAt sameSource_cacheRel hitems hs (fun _ _ h => matchGroups_none_agrees _ _ _ h) invert
  | some item =>
    refine defaultMatch_agreesAt sameSource_cacheRel hitems hs (fun hi md₁' hs₁ => ?_) invert
    have hbase := resetRuleCache_congr (evaluateGroups_frame env items md)
    refine item.matchWithOuterGroups_agreesAt sameSource_cacheRel _ (fun s hmem => ?_) hs₁
    rw [item.setVerdict_congr env _ hbase] at hmem
    rw [prepareNestedMatch_congr item hbase]
    refine ⟨fun branch _ md' hs i hc => hs.item_eq hdom ?_, fun hm hdone => ?_⟩
    · rw [show (item.prepareNestedMatch md).ipCidrMatchSource = true from hr item rfl]
      exact readsDestination_of_headless (branch.headless i hc.mem)
    · exact RuleSet.match_blind hdom rfl fun r hr hc => h (.default hi hmem hm hdone hr hc)

lemma Rule.match_blind {r : Rule} (hs : r.SourceConditions)
    (h : ¬ r.ComparesDestination env md) : Blind (r.match env) md := by
  induction r using Rule.ind generalizing md with
  | default items ruleSetItem invert matchResponse =>
    cases hs with
    | default hi hr hm =>
      cases matchResponse with
      | none => exact Rule.matchDefault_blind hdom hi hr h
      | some tag =>
        intro md' hs
        have htag : tag ≠ "" := fun he => hm (he ▸ rfl)
        have hnamed : md'.namedDNSResponses tag = md.namedDNSResponses tag := by
          obtain ⟨a, ds, cs, m, rfl⟩ := hs; rfl
        simp only [AgreesAt, Rule.match, matchForMatch, ne_eq, htag, not_false_eq_true, if_true, hnamed]
        cases hresponse : md.namedDNSResponses tag with
        | none => exact ⟨rfl, hs⟩
        | some response =>
          have hcopy : SameSource (withResponse md (some response)) (withResponse md' (some response)) := by
            obtain ⟨a, ds, cs, m, rfl⟩ := hs; exact ⟨a, ds, cs, _, rfl⟩
          exact ⟨(Rule.matchDefault_blind hdom hi hr (fun hc => h (.response hresponse hc)) _ hcopy).1, hs⟩
  | logical mode rules invert ih =>
    cases hs with
    | logical hs =>
      refine fun md' hsame => logicalMatch_agreesAt sameSource_cacheRel mode (fun m hm => ?_) hsame invert
      rw [Rule.matchers_eq_map, upTo_map] at hm
      obtain ⟨r, hr, rfl⟩ := List.mem_map.1 hm
      have hmem := upTo_subset _ _ hr
      exact ⟨r.match_framed env, ih r hmem (hs r hmem) fun hc => h (.logical hr hc)⟩

end

/-! ## The theorem, and where it fails -/

/-- A rule whose only destination-address conditions lie in rule-sets matched against the source gives one
verdict on metadata that differ in the destination address only, if the match does not come to `ip_cidr` items below
a logical rule of those rule-sets. -/
theorem match_source_ignores_destination (env : Env)
    (hdom : ∀ s a, env.isDomain { s with addr := a } = env.isDomain s) (r : Rule) (hs : r.SourceConditions)
    (md md' : InboundContext) (ht : ¬ r.ComparesDestination env md) (h : SameSource md md') :
    (r.match env md).1 = (r.match env md').1 :=
  (Rule.match_blind hdom hs ht md' h).1.symm

/-- `ip_cidr: 10.0.0.0/8`. -/
def lanItems : HeadlessItems where
  destinationIPCIDRItems := [.ipCIDR false { ranges4 := [⟨0x0a000000#32, 0x0affffff#32⟩] }]

/-- A rule that references one rule-set with `rule_set_ip_cidr_match_source`. -/
def matchSourceRule (rules : List HeadlessRule) : Rule :=
  .default {} (some { setList := [{ rules }], ipCidrMatchSource := true }) false none

lemma matchSourceRule_conditions (rules : List HeadlessRule) : (matchSourceRule rules).SourceConditions :=
  .default (by simp [DefaultItems.SourceOnly, DefaultItems.allItems]) (by simp) (by simp)

lemma tcp_group : ∀ i ∈ [RuleItem.network ["tcp"]], i.group = .item := by decide

/-- The match of a TCP connection does not come to the logical rule. -/
def tcpFirst : List HeadlessRule :=
  [.default { items := [.network ["tcp"]], items_group := tcp_group } false, .logical .or [.default lanItems false] false]

theorem match_source_ignores_destination_lan :
    ((matchSourceRule tcpFirst).match .bare { network := "tcp", destination := { addr := .v4 0x0a000001#32 } }).1 =
      ((matchSourceRule tcpFirst).match .bare { network := "tcp", destination := { addr := .v4 0x01010101#32 } }).1 := by
  refine match_source_ignores_destination .bare (fun _ _ => rfl) _ (matchSourceRule_conditions _) _ _ ?_
    ⟨_, _, _, _, rfl⟩
  intro h
  cases h with
  | default hi hs hm hdone hr h =>
    obtain rfl := List.mem_singleton.1 (upTo_subset _ _ hs)
    obtain rfl := List.mem_singleton.1 (show _ ∈ tcpFirst.take 1 from hr)
    cases h with
    | default h => cases h

/-- Below a logical rule the flag is lost: the `ip_cidr` item is compared with the destination. -/
theorem match_source_lost_below_logical :
    ∃ (r : Rule) (md md' : InboundContext), r.SourceConditions ∧ SameSource md md' ∧
      (r.match .bare md).1 = true ∧ (r.match .bare md').1 = false :=
  ⟨matchSourceRule [.logical .or [.default lanItems false] false],
    { source := { addr := .v4 0xc0a80001#32 }, destination := { addr := .v4 0x0a000001#32 } },
    { source := { addr := .v4 0xc0a80001#32 }, destination := { addr := .v4 0x01010101#32 } },
    matchSourceRule_conditions _, ⟨_, _, _, _, rfl⟩, rfl, rfl⟩

end SingBox
