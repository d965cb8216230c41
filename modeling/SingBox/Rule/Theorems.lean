import SingBox.Rule.RuleSets
import SingBox.Rule.Groups
/-!
# Rules in turn, and rule-sets inlined

No rule evaluation leaks state into the next one, and referencing a rule-set
means what writing its rule into the referencing rule would mean.
-/
namespace SingBox

/-! ## Rules in turn -/

/-- Any rule the routers and rule-sets evaluate. -/
inductive AnyRule where
  | rule (r : Rule)
  | headless (r : HeadlessRule)

def AnyRule.match (env : Env) : AnyRule → Matcher
  | .rule r => r.match env
  | .headless r => r.match env

lemma AnyRule.match_framed (env : Env) : ∀ r : AnyRule, Framed (r.match env)
  | .rule r => r.match_framed env
  | .headless r => r.match_framed env

/-- Rules evaluated one after another on one metadata, `ResetRuleCache` before each: the verdicts. -/
def evaluateInTurn (env : Env) : List AnyRule → InboundContext → List Bool
  | [], _ => []
  | rule :: rules, md =>
    let (matched, md) := rule.match env md.resetRuleCache
    matched :: evaluateInTurn env rules md

/-- A match touches the match cache only, and every rule evaluated in turn gives the verdict it gives alone. -/
theorem match_leaks_no_state (env : Env) : (∀ (r : AnyRule) (md : InboundContext), ∃ sa sp da dp deferred,
      (r.match env md).2 = { md with
        sourceAddressMatch := sa, sourcePortMatch := sp, destinationAddressMatch := da,
        destinationPortMatch := dp, deferredIPCIDRMatchGroups := deferred }) ∧
    ∀ (rules : List AnyRule) (md : InboundContext),
      evaluateInTurn env rules md = rules.map fun r => (r.match env md.resetRuleCache).1 := by
  refine ⟨fun r md => ?_, fun rules md => ?_⟩
  · have hf := (r.match_framed env).frame md
    generalize (r.match env md).2 = md' at hf ⊢
    refine ⟨md'.sourceAddressMatch, md'.sourcePortMatch, md'.destinationAddressMatch, md'.destinationPortMatch,
      md'.deferredIPCIDRMatchGroups, ?_⟩
    -- put the cache fields back on both sides of the frame equation
    exact congrArg (fun base : InboundContext => { base with
      sourceAddressMatch := md'.sourceAddressMatch, sourcePortMatch := md'.sourcePortMatch,
      destinationAddressMatch := md'.destinationAddressMatch, destinationPortMatch := md'.destinationPortMatch,
      deferredIPCIDRMatchGroups := md'.deferredIPCIDRMatchGroups }) hf
  · induction rules generalizing md with
    | nil => rfl
    | cons r rules ih =>
      have hbase := resetRuleCache_congr ((r.match_framed env).frame md.resetRuleCache)
      simp only [evaluateInTurn, ih, hbase, resetRuleCache_idem, List.map_cons]

/-! ## Rule-sets inlined -/

/-- The items a rule has in a group: its destination-IP items are source-address items under
`ip_cidr_match_source`, destination-address items otherwise. -/
def DefaultItems.inGroup (r : DefaultItems) (matchSource : Bool) : Group → List RuleItem
  | .sourceAddress => r.sourceAddressItems ++ if matchSource then r.destinationIPCIDRItems else []
  | .sourcePort => r.sourcePortItems
  | .destinationAddress => r.destinationAddressItems ++ if matchSource then [] else r.destinationIPCIDRItems
  | .destinationPort => r.destinationPortItems

lemma groupItems_eq_inGroup (r : DefaultItems) {md : InboundContext}
    (hd : md.ignoreDestinationIPCIDRMatch = false) : r.groupItems md = r.inGroup md.ipCidrMatchSource := by
  funext g
  cases g <;> cases h : md.ipCidrMatchSource <;> simp [DefaultItems.groupItems, DefaultItems.inGroup, hd, h]

/-- Rule `r`, read on `md`, and rule `b`, read on `md'`, written as one rule: it matches. -/
def MergedMatch (env : Env) (r : DefaultItems) (md : InboundContext) (b : DefaultItems) (md' : InboundContext) : Prop :=
  (∀ i ∈ r.items, i.match env md) ∧ (∀ i ∈ b.items, i.match env md') ∧
  ∀ g, r.inGroup md.ipCidrMatchSource g ≠ [] ∨ b.inGroup md'.ipCidrMatchSource g ≠ [] →
    (∃ i ∈ r.inGroup md.ipCidrMatchSource g, i.match env md) ∨ ∃ i ∈ b.inGroup md'.ipCidrMatchSource g, i.match env md'

/-- Rule `r` without its reference matches. -/
def OwnMatch (env : Env) (r : DefaultItems) (md : InboundContext) : Prop :=
  (∀ i ∈ r.items, i.match env md) ∧
  ∀ g, r.inGroup md.ipCidrMatchSource g ≠ [] → ∃ i ∈ r.inGroup md.ipCidrMatchSource g, i.match env md

section
variable {env : Env} {r : DefaultItems} {item : RuleSetItem} {md : InboundContext}
  (hd : md.ignoreDestinationIPCIDRMatch = false)
include hd

lemma done_iff : (evaluateGroups env r md).1.done = true ↔
    ∀ g, r.inGroup md.ipCidrMatchSource g ≠ [] → ∃ i ∈ r.inGroup md.ipCidrMatchSource g, i.match env md := by
  rw [evaluateGroups_groups, RuleGroupMatch.of_done, groupItems_eq_inGroup r hd]
  simp

lemma merged_done_iff (b : DefaultItems) :
    ((evaluateGroups env r md).1.mergeWith (evaluateGroups env b (item.prepareNestedMatch md)).1).done = true ↔
      ∀ g, r.inGroup md.ipCidrMatchSource g ≠ [] ∨ b.inGroup item.ipCidrMatchSource g ≠ [] →
        (∃ i ∈ r.inGroup md.ipCidrMatchSource g, i.match env md) ∨
          ∃ i ∈ b.inGroup item.ipCidrMatchSource g, i.match env (item.prepareNestedMatch md) := by
  have hn : (item.prepareNestedMatch md).ignoreDestinationIPCIDRMatch = false := hd
  rw [evaluateGroups_groups, evaluateGroups_groups, RuleGroupMatch.of_mergeWith, RuleGroupMatch.of_done,
    groupItems_eq_inGroup r hd, groupItems_eq_inGroup b hn]
  have hs : (item.prepareNestedMatch md).ipCidrMatchSource = item.ipCidrMatchSource := rfl
  simp [hs]

end

lemma matchInner_matched (env : Env) (r : DefaultItems) (item : RuleSetItem) (md : InboundContext) :
    (matchInner env r (some (item.matchWithOuterGroups env)) md).1 = true ↔
      (∀ i ∈ r.items, i.match env md) ∧
        ∃ s ∈ item.setList, item.setVerdict env (evaluateGroups env r md).1 md s ≠ .no := by
  have hbase := resetRuleCache_congr (evaluateGroups_frame env r md)
  simp only [matchInner, evaluateGroups_match, matchGroups]
  split <;> simp_all [RuleSetItem.matchWithOuterGroups_matched, RuleSetItem.setVerdict_congr env item _ hbase]

/-- A rule with a reference, before `invert`, matches as if the one plain rule of a referenced rule-set were
written into it, or as itself together with a match in a rule-set of another shape. -/
theorem rule_set_reference_inlines (env : Env) (r : DefaultItems) (item : RuleSetItem) (md : InboundContext)
    (hd : md.ignoreDestinationIPCIDRMatch = false) :
    (matchInner env r (some (item.matchWithOuterGroups env)) md).1 = true ↔
      ∃ s ∈ item.setList,
        (∃ b : HeadlessItems, s.rules = [.default b false] ∧
          MergedMatch env r md b.toDefaultItems (item.prepareNestedMatch md)) ∨
        (∀ b : HeadlessItems, s.rules ≠ [.default b false]) ∧ OwnMatch env r md ∧
          ∃ rule ∈ s.rules, (rule.match env (item.prepareNestedMatch md)).1 = true := by
  rw [matchInner_matched]
  constructor
  · rintro ⟨hi, s, hs, hv⟩
    refine ⟨s, hs, ?_⟩
    cases hm : s.mergeableRule with
    | some b =>
      obtain ⟨hb, hdone⟩ := (item.setVerdict_mergeable env _ hm).1 hv
      exact .inl ⟨b, RuleSet.mergeableRule_eq_some.1 hm, hi, hb, (merged_done_iff hd _).1 hdone⟩
    | none =>
      obtain ⟨hdone, hrule⟩ := (item.setVerdict_other env _ hm).1 hv
      refine .inr ⟨fun b hb => ?_, ⟨hi, (done_iff hd).1 hdone⟩, hrule⟩
      rw [RuleSet.mergeableRule_eq_some.2 hb] at hm
      cases hm
  · rintro ⟨s, hs, ⟨b, hb, hi, hbi, hg⟩ | ⟨hshape, ⟨hi, hg⟩, hrule⟩⟩
    · refine ⟨hi, s, hs, (item.setVerdict_mergeable env _ (RuleSet.mergeableRule_eq_some.2 hb)).2 ⟨hbi, ?_⟩⟩
      exact (merged_done_iff hd _).2 hg
    have hm : s.mergeableRule = none :=
      Option.eq_none_iff_forall_ne_some.2 fun b hb => hshape b (RuleSet.mergeableRule_eq_some.1 hb)
    exact ⟨hi, s, hs, (item.setVerdict_other env _ hm).2 ⟨(done_iff hd).2 hg, hrule⟩⟩

/-- The rule `network: tcp` with a reference to the rule-set `source_port: 53`. -/
theorem rule_set_reference_inlines_dns :
    ∃ s ∈ [({ rules := [.default { sourcePortItems := [.port true [53]] } false] } : RuleSet)],
      (∃ b : HeadlessItems, s.rules = [.default b false] ∧
        MergedMatch .bare { items := [.network ["tcp"]] } { network := "tcp", source := { port := 53 } }
          b.toDefaultItems { network := "tcp", source := { port := 53 } }) ∨
      (∀ b : HeadlessItems, s.rules ≠ [.default b false]) ∧
        OwnMatch .bare { items := [.network ["tcp"]] } { network := "tcp", source := { port := 53 } } ∧
        ∃ rule ∈ s.rules, (rule.match .bare { network := "tcp", source := { port := 53 } }).1 = true :=
  (rule_set_reference_inlines .bare { items := [.network ["tcp"]] }
    { setList := [{ rules := [.default { sourcePortItems := [.port true [53]] } false] }] }
    { network := "tcp", source := { port := 53 } } rfl).1 rfl

end SingBox
