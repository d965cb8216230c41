import SingBox.Rule.RuleSets
import SingBox.Rule.Groups
import SingBox.Lib.Lists
/-!
# Matching before the lookup

Legacy DNS rules are matched twice: before the lookup with the destination-IP
items left out, and on the response. The first match is a three-valued verdict
on the second: it defers what it cannot know.
-/
open Kleene

namespace SingBox
open Function
open List
variable {i : RuleItem} {r : DefaultItems} {b b' : Bool}

/-- The metadata `LegacyPreMatch` matches on. -/
def InboundContext.beforeLookup (md : InboundContext) : InboundContext :=
  { md with ignoreDestinationIPCIDRMatch := true }

/-- The metadata `MatchAddressLimit` matches on. -/
def InboundContext.afterLookup (md : InboundContext) (response : Option Dns.Msg) : InboundContext :=
  Rule.withResponse { md with ignoreDestinationIPCIDRMatch := false } response

/-- Does an item read the response, given the match-source flag? -/
def RuleItem.readsResponse (matchSource : Bool) : RuleItem → Bool
  | .ipCIDR isSource _ => !isSource && !matchSource
  | .ipIsPrivate isSource => !isSource
  | .ipAcceptAny | .dnsResponseRCode _ | .dnsResponseRecord .. => true
  | _ => false

/-- A rule as legacy mode has it: name items and destination-IP items do not mix, and nothing but the
destination-IP items reads the response. -/
structure DefaultItems.Legacy (r : DefaultItems) (matchSource : Bool) : Prop where
  noMix : r.destinationAddressItems = [] ∨ r.destinationIPCIDRItems = []
  items : ∀ i ∈ r.items, i.readsResponse matchSource = false
  source : matchSource = true → ∀ i ∈ r.destinationIPCIDRItems, i.readsResponse true = false

def DefaultItems.waiting (r : DefaultItems) (matchSource : Bool) : List RuleItem :=
  if matchSource then [] else r.destinationIPCIDRItems

open RuleItem DefaultItems SingBox.Group InboundContext

/-! ## Items -/

section
variable (env : Env) (md : InboundContext) (response : Option Dns.Msg) {i : RuleItem}

lemma match_beforeLookup (i : RuleItem) : i.match env md.beforeLookup = i.match env md := by
  cases i with
  | preferredBy outbounds strategy =>
    have hd := preferredDomain_congr md.beforeLookup md
    have ha (p : PreferredRoutes) : p.preferredAddress md.beforeLookup = p.preferredAddress md :=
      preferredAddress_congr p rfl rfl
    simp only [RuleItem.match, matchPreferredBy, hd, ha]
    rfl
  | _ => rfl

lemma match_afterLookup (hi : i.readsResponse md.ipCidrMatchSource = false) :
    i.match env (md.afterLookup response) = i.match env md := by
  cases i with
  | preferredBy outbounds strategy =>
    have hd := preferredDomain_congr (md.afterLookup response) md
    have ha (p : PreferredRoutes) : p.preferredAddress (md.afterLookup response) = p.preferredAddress md :=
      preferredAddress_congr p rfl rfl
    simp only [RuleItem.match, matchPreferredBy, hd, ha]
    rfl
  | ipCIDR isSource ipSet =>
    have hsource : isSource = true ∨ md.ipCidrMatchSource = true := by
      revert hi; cases isSource <;> simp [readsResponse]
    have hsame : (md.afterLookup response).ipCidrMatchSource = md.ipCidrMatchSource := rfl
    simp only [RuleItem.match, matchIPCIDR, hsame, Bool.or_eq_true, hsource, if_true]
    rfl
  | ipIsPrivate isSource =>
    obtain rfl : isSource = true := by simpa [readsResponse] using hi
    rfl
  | ipAcceptAny | dnsResponseRCode | dnsResponseRecord => cases hi
  | _ => rfl

lemma match_lookup (hi : i.readsResponse md.ipCidrMatchSource = false) :
    i.match env md.beforeLookup = i.match env (md.afterLookup response) := by
  rw [match_beforeLookup, match_afterLookup env md response hi]

end

/-! ## Groups -/

section
variable (env : Env) (r : DefaultItems) (md : InboundContext) (response : Option Dns.Msg)

lemma groupItems_beforeLookup : r.groupItems md.beforeLookup =
      update (r.groupItems (md.afterLookup response)) .destinationAddress r.destinationAddressItems := by
  funext g
  cases g with
  | destinationAddress => simp [groupItems, beforeLookup]
  | _ => rfl

lemma groupItems_afterLookup_destination : r.groupItems (md.afterLookup response) .destinationAddress =
      r.destinationAddressItems ++ r.waiting md.ipCidrMatchSource := by
  cases h : md.ipCidrMatchSource <;> simp [groupItems, afterLookup, Rule.withResponse, waiting, h]

variable {r md}

lemma DefaultItems.Legacy.group_items (h : r.Legacy md.ipCidrMatchSource) {g : Group} (hg : g ≠ .destinationAddress)
    (hi : i ∈ r.groupItems (md.afterLookup response) g) : i.readsResponse md.ipCidrMatchSource = false := by
  have hflag : (md.afterLookup response).ipCidrMatchSource = md.ipCidrMatchSource := rfl
  cases g with
  | destinationAddress => exact absurd rfl hg
  | sourceAddress =>
    simp only [groupItems, hflag, mem_append] at hi
    rcases hi with hi | hi
    · have := r.sourceAddress_group i hi
      cases i <;> grind [group, readsResponse]
    · cases hf : md.ipCidrMatchSource with
      | true => exact h.source hf i (by simpa [hf] using hi)
      | false => simp [hf] at hi
  | sourcePort =>
    have := r.sourcePort_group i hi
    cases i <;> grind [group, readsResponse]
  | destinationPort =>
    have := r.destinationPort_group i hi
    cases i <;> grind [group, readsResponse]

lemma names_readNoResponse (matchSource : Bool) (hi : i ∈ r.destinationAddressItems) :
    i.readsResponse matchSource = false := by
  have := r.destinationAddress_group i hi
  cases i <;> grind [group, readsResponse]

lemma evaluateGroups_settled (h : r.Legacy md.ipCidrMatchSource) (hw : r.waiting md.ipCidrMatchSource = []) :
    (evaluateGroups env r md.beforeLookup).1 = (evaluateGroups env r (md.afterLookup response)).1 := by
  have hitems : r.groupItems md.beforeLookup = r.groupItems (md.afterLookup response) := by
    have hdest := groupItems_afterLookup_destination r md response
    rw [hw, append_nil] at hdest
    rw [groupItems_beforeLookup r md response, ← hdest, update_eq_self]
  have hany (g : Group) : (r.groupItems (md.afterLookup response) g).any (·.match env md.beforeLookup) =
      (r.groupItems (md.afterLookup response) g).any (·.match env (md.afterLookup response)) := by
    refine Lists.any_congr_mem fun i hi => match_lookup env md response ?_
    by_cases hg : g = .destinationAddress
    · subst hg
      rw [groupItems_afterLookup_destination, hw, append_nil] at hi
      exact names_readNoResponse _ hi
    · exact h.group_items response hg hi
  simp only [evaluateGroups_groups, hitems, hany]

/-- The groups `p` are the groups `q` with the destination addresses left out. -/
def RuleGroupMatch.Hides (p q : RuleGroupMatch) : Prop :=
  ∃ required satisfied, q = .of required satisfied ∧
    p = .of (update required .destinationAddress false) (update satisfied .destinationAddress false)

lemma evaluateGroups_hides (h : r.Legacy md.ipCidrMatchSource) (hn : r.destinationAddressItems = []) :
    (evaluateGroups env r md.beforeLookup).1.Hides (evaluateGroups env r (md.afterLookup response)).1 := by
  refine ⟨_, _, evaluateGroups_groups env r (md.afterLookup response), ?_⟩
  rw [evaluateGroups_groups, groupItems_beforeLookup r md response, hn]
  congr 1 <;> funext g <;> by_cases hg : g = .destinationAddress
  · subst hg; simp
  · simp [hg]
  · subst hg; simp
  simp only [update_of_ne hg]
  exact Lists.any_congr_mem fun i hi => match_lookup env md response (h.group_items response hg hi)

lemma evaluateGroups_deferred_settled (hw : r.waiting md.ipCidrMatchSource = []) :
    (evaluateGroups env r md.beforeLookup).2 = md.beforeLookup := by
  have hc : (!md.ipCidrMatchSource && decide (r.destinationIPCIDRItems.length > 0)) = false := by
    revert hw
    cases hf : md.ipCidrMatchSource <;> simp [waiting]
  simp only [evaluateGroups]
  exact if_neg (by simp_all [beforeLookup])

lemma evaluateGroups_deferred_waiting (h : r.Legacy md.ipCidrMatchSource) (hw : r.waiting md.ipCidrMatchSource ≠ []) :
    (evaluateGroups env r md.beforeLookup).2 = md.beforeLookup.defer (bit .destinationAddress) ∧
      r.destinationAddressItems = [] := by
  have hf : md.ipCidrMatchSource = false := by
    by_contra hf
    simp [waiting, hf] at hw
  have hip : r.destinationIPCIDRItems ≠ [] := by simpa [waiting, hf] using hw
  have hn : r.destinationAddressItems = [] := h.noMix.resolve_right hip
  refine ⟨?_, hn⟩
  simp only [evaluateGroups]
  exact if_pos (by simp [beforeLookup, hf, hn, length_pos_iff, hip])

lemma evaluateGroups_afterLookup : (evaluateGroups env r (md.afterLookup response)).2 = md.afterLookup response := by
  simp only [evaluateGroups]
  exact if_neg (by simp [afterLookup, Rule.withResponse])

end

namespace RuleGroupMatch.Hides
variable {p q p' q' : RuleGroupMatch}

lemma mergeWith (h : p.Hides q) (h' : p'.Hides q') : (p.mergeWith p').Hides (q.mergeWith q') := by
  obtain ⟨req, sat, rfl, rfl⟩ := h
  obtain ⟨req', sat', rfl, rfl⟩ := h'
  refine ⟨_, _, of_mergeWith _ _ _ _, ?_⟩
  rw [of_mergeWith]
  congr 1 <;> funext g <;> by_cases hg : g = .destinationAddress <;> simp [hg]

lemma done (h : p.Hides q) (hq : q.done = true) : p.done = true := by
  obtain ⟨req, sat, rfl, rfl⟩ := h
  rw [of_done] at hq ⊢
  intro g
  by_cases hg : g = .destinationAddress
  · subst hg; simp
  · simpa [hg] using hq g

lemma bit_andNot (h : p.Hides q) : bit .destinationAddress &&& ~~~p.satisfied = bit .destinationAddress := by
  obtain ⟨req, sat, rfl, rfl⟩ := h
  exact bit_andNot_mask (update_self ..)

end RuleGroupMatch.Hides

/-! ## Headless rules and rule-sets -/

/-- The match before the lookup is right about the match after it. -/
def PreSound (m : Matcher) (md : InboundContext) (response : Option Dns.Msg) : Prop :=
  (m.verdict md.beforeLookup).Below (m.verdict (md.afterLookup response))

/-- No default rule of the tree mixes name items and destination-IP items. -/
inductive HeadlessRule.NoMix : HeadlessRule → Prop
  | default {items : HeadlessItems} {invert : Bool}
      (h : items.destinationAddressItems = [] ∨ items.destinationIPCIDRItems = []) : NoMix (.default items invert)
  | logical {mode : LogicalMode} {rules : List HeadlessRule} {invert : Bool} (h : ∀ r ∈ rules, NoMix r) :
      NoMix (.logical mode rules invert)

lemma HeadlessItems.legacy (r : HeadlessItems)
    (h : r.destinationAddressItems = [] ∨ r.destinationIPCIDRItems = []) (matchSource : Bool) : r.Legacy matchSource where
  noMix := h
  items i hi := by
    have hh := r.headless i (by simp [DefaultItems.allItems, hi])
    have hg := r.items_group i hi
    cases i <;> grind [RuleItem.group, RuleItem.readsResponse, RuleItem.headless]
  source _ i hi := by
    have hh := r.headless i (by simp [DefaultItems.allItems, hi])
    cases i <;> grind [RuleItem.readsResponse, RuleItem.headless]

section
variable {env : Env} {md : InboundContext} {response : Option Dns.Msg}

lemma items_all_lookup (response : Option Dns.Msg) (h : r.Legacy md.ipCidrMatchSource) :
    r.items.all (·.match env md.beforeLookup) = r.items.all (·.match env (md.afterLookup response)) :=
  Lists.all_congr_mem fun i hi => match_lookup env md response (h.items i hi)

lemma below_unsure {d d' : UInt8} (hd : d ≠ 0) (h : b' = true → b = true) :
    (truth b d).Below (truth b' d') := by
  cases b
  · obtain rfl : b' = false := by simpa using h
    exact .inr rfl
  · exact .inl (truth_true_ne hd)

lemma below_settled {d d' g g' : UInt8} (h : (truth b d).Below (truth b' d'))
    (hu : truth b d = .unsure → truth b (d &&& ~~~g) = .unsure) :
    (truth b (d &&& ~~~g)).Below (truth b' (d' &&& ~~~g')) := by
  rcases h with h | h
  · exact .inl (hu h)
  by_cases hb : truth b d = .unsure
  · exact .inl (hu hb)
  rw [truth_andNot hb, truth_andNot (h ▸ hb), h]
  exact .refl _

lemma truth_unsure_andNot {d g : UInt8} (hu : truth b d = .unsure) (hd : DestinationOnly d)
    (hg : bit .destinationAddress &&& ~~~g = bit .destinationAddress) : truth b (d &&& ~~~g) = .unsure := by
  rcases hd with rfl | rfl
  · cases b <;> cases hu
  · rw [hg, hu]

lemma matchInner_none_preSound (h : r.Legacy md.ipCidrMatchSource)
    (hd : md.deferredIPCIDRMatchGroups = 0) : PreSound (matchInner env r none) md response := by
  simp only [PreSound, matchInner_verdict, items_all_lookup response h, matchGroups, evaluateGroups_afterLookup]
  split
  · by_cases hw : r.waiting md.ipCidrMatchSource = []
    · rw [evaluateGroups_deferred_settled env hw, evaluateGroups_settled env response h hw]
      exact .refl _
    obtain ⟨hdef, hn⟩ := evaluateGroups_deferred_waiting env h hw
    have hides := evaluateGroups_hides env response h hn
    refine below_unsure ?_ hides.done
    have hzero : md.beforeLookup.deferredIPCIDRMatchGroups = 0 := hd
    rw [hdef, defer_deferred, hzero, UInt8.zero_or, hides.bit_andNot]
    decide
  · exact .refl _

lemma defaultMatch_preSound {ruleSetItem : Option (RuleGroupMatch → Matcher)}
    (hd : md.deferredIPCIDRMatchGroups = 0) (h : PreSound (matchInner env r ruleSetItem) md response) (invert : Bool) :
    PreSound (defaultMatch env r ruleSetItem invert) md response := by
  have hbefore : md.beforeLookup.deferredIPCIDRMatchGroups = 0 := hd
  have hafter : (md.afterLookup response).deferredIPCIDRMatchGroups = 0 := hd
  rw [PreSound, defaultMatch_verdict env r ruleSetItem invert hbefore,
    defaultMatch_verdict env r ruleSetItem invert hafter]
  split
  · exact .refl _
  · cases invert
    · exact h
    · exact h.not

lemma logicalMatch_preSound (mode : LogicalMode) {rules : List Matcher} (hf : ∀ m ∈ rules, Framed m) (invert : Bool)
    (hd : md.deferredIPCIDRMatchGroups = 0) (hr : ∀ before m after, rules = before ++ m :: after →
      (∀ b ∈ before, b.verdict md.resetRuleCache.beforeLookup ≠ mode.stops) →
      PreSound m md.resetRuleCache response) :
    PreSound (logicalMatch mode rules invert) md response := by
  have hbefore : md.beforeLookup.deferredIPCIDRMatchGroups = 0 := hd
  have hafter : (md.afterLookup response).deferredIPCIDRMatchGroups = 0 := hd
  have hcombine : (mode.combine (rules.map (Matcher.verdict · md.beforeLookup.resetRuleCache))).Below
      (mode.combine (rules.map (Matcher.verdict · (md.afterLookup response).resetRuleCache))) := by
    cases mode with
    | and => exact Truth.Below.all hr
    | or => exact Truth.Below.any hr
  rw [PreSound, logicalMatch_verdict mode hf invert hbefore, logicalMatch_verdict mode hf invert hafter]
  cases invert
  · exact hcombine
  · exact hcombine.not

lemma HeadlessRule.NoMix.preSound {r : HeadlessRule} (h : r.NoMix) (hd : md.deferredIPCIDRMatchGroups = 0) :
    PreSound (r.match env) md response := by
  induction r using HeadlessRule.ind generalizing md with
  | default items invert =>
    cases h with
    | default h => exact defaultMatch_preSound hd (matchInner_none_preSound (items.legacy h _) hd) invert
  | logical mode rules invert ih =>
    cases h with
    | logical h =>
      simp only [HeadlessRule.match]
      refine logicalMatch_preSound mode (HeadlessRule.matchers_framed env rules) invert hd ?_
      intro before m after hrules _
      have hm : m ∈ HeadlessRule.matchers env rules := by simp [hrules]
      rw [HeadlessRule.matchers_eq_map, mem_map] at hm
      obtain ⟨r, hr, rfl⟩ := hm
      exact ih r hr (h r hr) rfl

lemma RuleSet.preSound {s : RuleSet} (h : ∀ r ∈ s.rules, r.NoMix) (hd : md.deferredIPCIDRMatchGroups = 0) :
    PreSound (s.match env) md response := by
  have hbefore : md.beforeLookup.deferredIPCIDRMatchGroups = 0 := hd
  have hafter : (md.afterLookup response).deferredIPCIDRMatchGroups = 0 := hd
  rw [PreSound, s.match_verdict env hbefore, s.match_verdict env hafter]
  refine Truth.Below.any fun before r after hrules _ => ?_
  have hr : PreSound (r.match env) md.resetRuleMatchCache response := (h r (by simp [hrules])).preSound rfl
  exact hr

end

/-! ## References -/

/-- The rule-sets a rule references hold no mixing rule, and none mixes by being merged into the rule. -/
def RuleSetItem.NoMix (item : RuleSetItem) (items : DefaultItems) : Prop :=
  ∀ s ∈ item.setList, (∀ r ∈ s.rules, r.NoMix) ∧ ∀ b, s.mergeableRule = some b →
    items.destinationAddressItems ++ b.destinationAddressItems = [] ∨
      items.destinationIPCIDRItems ++ b.destinationIPCIDRItems = []

section
variable {env : Env} {md : InboundContext} (response : Option Dns.Msg) {item : RuleSetItem} {items : DefaultItems}
  {s : RuleSet}

lemma mergeable_noMix {b : HeadlessItems} (hb : s.mergeableRule = some b) (h : ∀ r ∈ s.rules, r.NoMix) :
    b.destinationAddressItems = [] ∨ b.destinationIPCIDRItems = [] := by
  have hr := h (.default b false) (by simp [RuleSet.mergeableRule_eq_some.1 hb])
  cases hr with
  | default h => exact h

lemma waiting_ne_nil {b : DefaultItems} {matchSource : Bool} (h : b.waiting matchSource ≠ []) :
    b.destinationIPCIDRItems ≠ [] := by
  revert h
  cases matchSource <;> simp [waiting]

section
variable (h : items.Legacy md.ipCidrMatchSource) (hs : ∀ r ∈ s.rules, r.NoMix)
  (hb : ∀ b, s.mergeableRule = some b → items.destinationAddressItems ++ b.destinationAddressItems = [] ∨
    items.destinationIPCIDRItems ++ b.destinationIPCIDRItems = [])
include h hs hb

lemma setVerdict_below (hw : items.waiting md.ipCidrMatchSource = []) :
    (item.setVerdict env (evaluateGroups env items md.beforeLookup).1 md.beforeLookup s).Below
      (item.setVerdict env (evaluateGroups env items (md.afterLookup response)).1 (md.afterLookup response) s) := by
  have hset := evaluateGroups_settled env response h hw
  have hbefore : item.prepareNestedMatch md.beforeLookup = (item.prepareNestedMatch md).beforeLookup := rfl
  have hafter : item.prepareNestedMatch (md.afterLookup response) =
      (item.prepareNestedMatch md).afterLookup response := rfl
  cases hm : s.mergeableRule with
  | none =>
    have hsound : PreSound (s.match env) (item.prepareNestedMatch md) response := RuleSet.preSound hs rfl
    simp only [RuleSetItem.setVerdict, hm, hset]
    split
    · exact hsound
    · exact .refl _
  | some b =>
    have hlegacy := b.legacy (mergeable_noMix hm hs) (item.prepareNestedMatch md).ipCidrMatchSource
    simp only [item.setVerdict_some env _ hm, hbefore, hafter, items_all_lookup response hlegacy,
      evaluateGroups_afterLookup]
    split
    · by_cases hwb : b.waiting (item.prepareNestedMatch md).ipCidrMatchSource = []
      · rw [hset, evaluateGroups_settled env response hlegacy hwb, evaluateGroups_deferred_settled env hwb]
        exact .refl _
      obtain ⟨hdef, hnb⟩ := evaluateGroups_deferred_waiting env hlegacy hwb
      have hn : items.destinationAddressItems = [] := by
        rcases hb b hm with hb | hb
        · exact (append_eq_nil_iff.1 hb).1
        · exact absurd (append_eq_nil_iff.1 hb).2 (waiting_ne_nil hwb)
      have hides := (evaluateGroups_hides env response h hn).mergeWith (evaluateGroups_hides env response hlegacy hnb)
      refine below_unsure ?_ hides.done
      have hzero : (item.prepareNestedMatch md).beforeLookup.deferredIPCIDRMatchGroups = 0 := rfl
      rw [hdef, defer_deferred, hzero, UInt8.zero_or, hides.bit_andNot]
      decide
    · exact .refl _

/-- With the rule's own destination-IP items waiting, a rule-set that matches after the lookup matches before. -/
lemma setVerdict_ne_no (hw : items.waiting md.ipCidrMatchSource ≠ [])
    (hafter : item.setVerdict env (evaluateGroups env items (md.afterLookup response)).1 (md.afterLookup response) s ≠ .no) :
    item.setVerdict env (evaluateGroups env items md.beforeLookup).1 md.beforeLookup s ≠ .no := by
  obtain ⟨-, hn⟩ := evaluateGroups_deferred_waiting env h hw
  have houter := evaluateGroups_hides env response h hn
  cases hm : s.mergeableRule with
  | none =>
    have hsound : PreSound (s.match env) (item.prepareNestedMatch md) response := RuleSet.preSound hs rfl
    simp only [RuleSetItem.setVerdict, hm] at hafter ⊢
    split at hafter
    · rename_i hdone
      rw [if_pos (houter.done hdone)]
      exact hsound.ne_no hafter
    · exact absurd rfl hafter
  | some b =>
    have hlegacy := b.legacy (mergeable_noMix hm hs) (item.prepareNestedMatch md).ipCidrMatchSource
    have hnb : b.destinationAddressItems = [] := by
      rcases hb b hm with hb | hb
      · exact (append_eq_nil_iff.1 hb).2
      · exact absurd (append_eq_nil_iff.1 hb).1 (waiting_ne_nil hw)
    obtain ⟨hi, hdone⟩ := (item.setVerdict_mergeable env _ hm).1 hafter
    refine (item.setVerdict_mergeable env _ hm).2 ⟨?_, ?_⟩
    · exact fun i hi' => (match_lookup env _ response (hlegacy.items i hi')).trans (hi i hi')
    · exact (houter.mergeWith (evaluateGroups_hides env response hlegacy hnb)).done hdone

end

/-- What the rule defers itself survives its rule-sets when none of them brings name items. -/
lemma matchWithOuterGroups_keeps {outerGroups : RuleGroupMatch}
    (hd : md.deferredIPCIDRMatchGroups = bit .destinationAddress)
    (hk : ∀ s ∈ item.setList, bit .destinationAddress &&& ~~~(item.visit env outerGroups s md).settled =
      bit .destinationAddress) :
    (item.matchWithOuterGroups env outerGroups md).2.deferredIPCIDRMatchGroups = bit .destinationAddress := by
  obtain ⟨-, -, hdest, hs⟩ := anyLoop_spec (item.visits_steady env outerGroups) 0 md
  have hor {d : UInt8} (h : DestinationOnly d) : bit .destinationAddress ||| d = bit .destinationAddress := by
    rcases h with rfl | rfl <;> rfl
  replace hdest := hor (hdest .zero)
  simp only [bne_self_eq_false] at hdest hs
  simp only [item.matchWithOuterGroups_eq, RuleMatchSnapshot.finish]
  split
  · rw [settle_deferred, defer_deferred, restore_deferred, snapshot_deferred, hd, hdest]
    rcases hs with hs | ⟨-, s, hmem, hs⟩
    · simp [hs]
    · rw [hs, hk s hmem]
  · exact hd

/-- The rule's own name items match while its rule-sets are undecided before the lookup: `matchInner` then
takes the rule-sets' deferral for its own and drops it. -/
def LosesDeferral (env : Env) (items : DefaultItems) (item : RuleSetItem) (md : InboundContext) : Prop :=
  (∃ i ∈ items.destinationAddressItems, i.match env md) ∧ (∀ i ∈ items.items, i.match env md) ∧
    Truth.any (item.setList.map (item.setVerdict env (evaluateGroups env items md).1 md)) = .unsure

/-- No name item matches: the destination-address group is not satisfied before the lookup. -/
lemma bit_andNot_names (hn : ¬ ∃ i ∈ items.destinationAddressItems, i.match env md.beforeLookup) :
    bit .destinationAddress &&& ~~~(evaluateGroups env items md.beforeLookup).1.satisfied =
      bit .destinationAddress := by
  have hnames : (items.groupItems md.beforeLookup .destinationAddress).any (·.match env md.beforeLookup) = false := by
    rw [groupItems_beforeLookup items md none, update_self]
    simpa using hn
  rw [evaluateGroups_groups, RuleGroupMatch.of, bit_andNot_mask hnames]

lemma matchInner_settled_preSound (h : items.Legacy md.ipCidrMatchSource) (hm : item.NoMix items)
    (hw : items.waiting md.ipCidrMatchSource = []) (hd : md.deferredIPCIDRMatchGroups = 0)
    (hl : ¬ LosesDeferral env items item md.beforeLookup) :
    PreSound (matchInner env items (some (item.matchWithOuterGroups env))) md response := by
  simp only [PreSound, matchInner_verdict, items_all_lookup response h, matchGroups, evaluateGroups_afterLookup,
    evaluateGroups_deferred_settled env hw]
  split
  · rename_i hi
    have hbelow : (Truth.any (item.setList.map
        (item.setVerdict env (evaluateGroups env items md.beforeLookup).1 md.beforeLookup))).Below
        (Truth.any (item.setList.map
          (item.setVerdict env (evaluateGroups env items (md.afterLookup response)).1 (md.afterLookup response)))) :=
      Truth.Below.any fun before s after hl _ =>
        setVerdict_below response h (hm s (by simp [hl])).1 (hm s (by simp [hl])).2 hw
    have hbefore : md.beforeLookup.deferredIPCIDRMatchGroups = 0 := hd
    have hafter : (md.afterLookup response).deferredIPCIDRMatchGroups = 0 := hd
    rw [← item.matchWithOuterGroups_verdict env _ hbefore, ← item.matchWithOuterGroups_verdict env _ hafter] at hbelow
    refine below_settled hbelow fun hu => ?_
    -- undecided rule-sets: no name item matches, so what they defer is not the rule's own to settle
    have hn : ¬ ∃ i ∈ items.destinationAddressItems, i.match env md.beforeLookup := fun hn =>
      hl ⟨hn, all_eq_true.1 ((items_all_lookup response h).trans hi),
        (item.matchWithOuterGroups_verdict env _ hbefore).symm.trans hu⟩
    have hdest := (item.matchWithOuterGroups_framed env (evaluateGroups env items md.beforeLookup).1).defers
      md.beforeLookup (.inl hbefore)
    exact truth_unsure_andNot hu hdest (bit_andNot_names hn)
  · exact .refl _

lemma matchInner_waiting_preSound (h : items.Legacy md.ipCidrMatchSource) (hm : item.NoMix items)
    (hw : items.waiting md.ipCidrMatchSource ≠ []) (hd : md.deferredIPCIDRMatchGroups = 0) :
    PreSound (matchInner env items (some (item.matchWithOuterGroups env))) md response := by
  obtain ⟨hdef, hn⟩ := evaluateGroups_deferred_waiting env h hw
  have houter := evaluateGroups_hides env response h hn
  -- the rule's own deferral outlives its rule-sets, so the verdict is unsure or no
  have hkeeps : (item.matchWithOuterGroups env (evaluateGroups env items md.beforeLookup).1
      (md.beforeLookup.defer (bit .destinationAddress))).2.deferredIPCIDRMatchGroups =
      bit .destinationAddress := by
    refine matchWithOuterGroups_keeps ?_ fun s hs => ?_
    · have hzero : md.beforeLookup.deferredIPCIDRMatchGroups = 0 := hd
      rw [defer_deferred, hzero, UInt8.zero_or]
    obtain hg | ⟨b, hb, hg⟩ := item.visit_settled env (evaluateGroups env items md.beforeLookup).1
    · rw [hg]; rfl
    have hlegacy := b.legacy (mergeable_noMix hb (hm s hs).1) (item.prepareNestedMatch md).ipCidrMatchSource
    have hnb : b.destinationAddressItems = [] := by
      rcases (hm s hs).2 b hb with hmix | hmix
      · exact (append_eq_nil_iff.1 hmix).2
      · exact absurd (append_eq_nil_iff.1 hmix).1 (waiting_ne_nil hw)
    rw [hg]
    exact (houter.mergeWith (evaluateGroups_hides env response hlegacy hnb)).bit_andNot
  simp only [PreSound, matchInner_verdict, items_all_lookup response h, matchGroups, evaluateGroups_afterLookup, hdef,
    hkeeps, houter.bit_andNot]
  split
  · refine below_unsure (by decide) fun hafter => ?_
    rw [item.matchWithOuterGroups_matched] at hafter ⊢
    obtain ⟨s, hs, hv⟩ := hafter
    have hreset : (md.beforeLookup.defer (bit .destinationAddress)).resetRuleCache = md.beforeLookup.resetRuleCache := rfl
    rw [item.setVerdict_congr env _ hreset]
    exact ⟨s, hs, setVerdict_ne_no response h (hm s hs).1 (hm s hs).2 hw hv⟩
  · exact .refl _

end

/-! ## DNS rules -/

namespace Rule

/-- A DNS rule tree of legacy mode: no `match_response`, no response items, and no default rule that mixes
name items and destination-IP items, alone or merged with a rule-set's one rule. -/
inductive Legacy : Rule → Prop
  | default {items : DefaultItems} {ruleSetItem : Option RuleSetItem} {invert : Bool}
      (hi : items.Legacy false) (hr : ∀ item, ruleSetItem = some item → item.NoMix items) :
      Legacy (.default items ruleSetItem invert none)
  | logical {mode : LogicalMode} {rules : List Rule} {invert : Bool} (h : ∀ r ∈ rules, Legacy r) :
      Legacy (.logical mode rules invert)

/-- Evaluating the tree gets to a default rule that drops its rule-sets' deferral. -/
inductive LosesDeferral (env : Env) (md : InboundContext) : Rule → Prop
  | default {items : DefaultItems} {item : RuleSetItem} {invert : Bool} (h : SingBox.LosesDeferral env items item md) :
      LosesDeferral env md (.default items (some item) invert none)
  | logical {mode : LogicalMode} {before after : List Rule} {r : Rule} {invert : Bool}
      (hb : ∀ b ∈ before, (b.match env).verdict md ≠ mode.stops) (h : LosesDeferral env md r) :
      LosesDeferral env md (.logical mode (before ++ r :: after) invert)

variable {env : Env} {md : InboundContext}

section
variable {r : Rule} (h : r.Legacy)
include h

lemma Legacy.preSound (hmd : md.resetRuleCache = md)
    (hl : ¬ r.LosesDeferral env md.beforeLookup) (response : Option Dns.Msg) : PreSound (r.match env) md response := by
  have hd : md.deferredIPCIDRMatchGroups = 0 := hmd ▸ rfl
  have hf : md.ipCidrMatchSource = false := hmd ▸ rfl
  induction r using Rule.ind with
  | default items ruleSetItem invert matchResponse =>
    cases h with
    | default hi hr =>
      rw [← hf] at hi
      refine defaultMatch_preSound hd ?_ invert
      cases ruleSetItem with
      | none => exact matchInner_none_preSound hi hd
      | some item =>
        by_cases hw : items.waiting md.ipCidrMatchSource = []
        · exact matchInner_settled_preSound response hi (hr item rfl) hw hd fun h => hl (.default h)
        · exact matchInner_waiting_preSound response hi (hr item rfl) hw hd
  | logical mode rules invert ih =>
    cases h with
    | logical h =>
      simp only [Rule.match]
      refine logicalMatch_preSound mode (matchers_framed env rules) invert hd ?_
      rw [matchers_eq_map, hmd]
      intro before m after hrules hb
      obtain ⟨before', rest, rfl, rfl, hrest⟩ := map_eq_append_iff.1 hrules
      obtain ⟨r, after', rfl, rfl, rfl⟩ := map_eq_cons_iff.1 hrest
      exact ih r (by simp) (h r (by simp)) fun hr =>
        hl (.logical (fun b hb' => hb _ (mem_map_of_mem hb')) hr)

lemma legacyPreMatch_eq (md : InboundContext) : r.legacyPreMatch env md =
      ((r.match env md.beforeLookup).1, { (r.match env md.beforeLookup).2 with ignoreDestinationIPCIDRMatch := false }) := by
  cases h <;> rfl

lemma matchAddressLimit_eq (md : InboundContext) (response : Option Dns.Msg) :
    r.matchAddressLimit env md response = (r.match env (withResponse md.resetRuleCache response)).1 := by
  cases h <;> rfl

lemma legacyPreMatch_afterLookup (hmd : md.resetRuleCache = md) (response : Option Dns.Msg) :
    withResponse (r.legacyPreMatch env md).2.resetRuleCache response = md.afterLookup response := by
  have hframe := resetRuleCache_congr ((r.match_framed env).frame md.beforeLookup)
  calc withResponse (r.legacyPreMatch env md).2.resetRuleCache response
      = (r.match env md.beforeLookup).2.resetRuleCache.afterLookup response := by rw [legacyPreMatch_eq h]; rfl
    _ = md.beforeLookup.resetRuleCache.afterLookup response := by rw [hframe]
    _ = md.resetRuleCache.afterLookup response := rfl
    _ = md.afterLookup response := by rw [hmd]

end

/-- Legacy pre-lookup matching is sound, for a query on which evaluating the rule gets to no default rule that
drops the deferral of its rule-sets: a rule refused before the lookup is refused on every response, and one
accepted with nothing deferred is accepted on every response. -/
theorem legacyPreMatch_sound (env : Env) (r : Rule) (h : r.Legacy) (query : InboundContext)
    (hl : ¬ r.LosesDeferral env query.resetRuleCache.beforeLookup) (response : Option Dns.Msg) :
    let pre := r.legacyPreMatch env query.resetRuleCache
    (pre.1 = false → r.matchAddressLimit env pre.2 response = false) ∧
      (pre.1 = true → pre.2.deferredIPCIDRMatchGroups = 0 → r.matchAddressLimit env pre.2 response = true) := by
  have hsound := h.preSound (resetRuleCache_idem query) hl response
  simp only [matchAddressLimit_eq h, legacyPreMatch_afterLookup h (resetRuleCache_idem query)]
  simp only [PreSound, Matcher.verdict] at hsound
  rw [legacyPreMatch_eq h]
  generalize r.match env query.resetRuleCache.beforeLookup = before at hsound ⊢
  generalize r.match env (query.resetRuleCache.afterLookup response) = after at hsound ⊢
  constructor
  · intro hno
    rw [show before.1 = false from hno] at hsound
    exact truth_eq_no.1 (hsound.resolve_left (by simp)).symm
  intro hyes hd
  rw [show before.1 = true from hyes, show before.2.deferredIPCIDRMatchGroups = 0 from hd] at hsound
  have hafter := (hsound.resolve_left (by simp)).symm
  by_contra hne
  rw [Bool.not_eq_true] at hne
  rw [hne] at hafter
  cases hafter

/-- A reference to the rule-set of the two rules `ip_cidr: 1.1.1.0/24` and `ip_cidr: 2.2.2.0/24`. -/
def twoSubnets : RuleSetItem where
  setList := [{ rules := [
    .default { destinationIPCIDRItems := [.ipCIDR false { ranges4 := [⟨0x01010100#32, 0x010101ff#32⟩] }] } false,
    .default { destinationIPCIDRItems := [.ipCIDR false { ranges4 := [⟨0x02020200#32, 0x020202ff#32⟩] }] } false] }]

/-- A rule that references them, next to its own name items. -/
def twoSubnetsRule (names : List RuleItem) (hn : ∀ i ∈ names, i.group = .destinationAddress) (invert : Bool) : Rule :=
  .default { destinationAddressItems := names, destinationAddress_group := hn } (some twoSubnets) invert none

lemma twoSubnetsRule_legacy (names : List RuleItem) (hn : ∀ i ∈ names, i.group = .destinationAddress)
    (invert : Bool) : (twoSubnetsRule names hn invert).Legacy := by
  refine .default ⟨.inr rfl, by simp, by simp⟩ ?_
  rintro item ⟨⟩ s hs
  obtain rfl : s = _ := mem_singleton.1 hs
  refine ⟨fun r hr => ?_, fun b hb => by cases hb⟩
  rcases mem_cons.1 hr with rfl | hr
  · exact .default (.inl rfl)
  obtain rfl := mem_singleton.1 hr
  exact .default (.inl rfl)

def dnsAnswer : Dns.Msg where
  answer := [.a { name := "cn.example.", rrtype := Dns.typeA } (.v4 0x08080808#32)]

/-- Refused by its name item whatever the answer, so the inverted rule is accepted before the lookup. -/
theorem legacyPreMatch_sound_twoSubnets :
    let r := twoSubnetsRule [.domainKeyword ["cn"] .asIS] (by decide) true
    let pre := r.legacyPreMatch .bare ({ destination := { fqdn := "us.example" } } : InboundContext).resetRuleCache
    pre.1 = true ∧ pre.2.deferredIPCIDRMatchGroups = 0 ∧ r.matchAddressLimit .bare pre.2 (some dnsAnswer) = true := by
  refine ⟨by decide, by decide, (legacyPreMatch_sound .bare _ (twoSubnetsRule_legacy _ _ true)
    { destination := { fqdn := "us.example" } } ?_ (some dnsAnswer)).2 (by decide) (by decide)⟩
  rintro ⟨⟨i, hi, hmatch⟩, -⟩
  obtain rfl := mem_singleton.1 hi
  exact absurd hmatch (by decide)

/-- The name item settles what the two subnets left open: the rule is accepted before the lookup and refused on
the answer, and its inversion the other way round. -/
theorem legacyPreMatch_drops_deferral : ∃ (r inverted : Rule) (query : InboundContext) (response : Dns.Msg),
      r.Legacy ∧ inverted.Legacy ∧
      (r.legacyPreMatch .bare query.resetRuleCache).1 = true ∧
      (r.legacyPreMatch .bare query.resetRuleCache).2.deferredIPCIDRMatchGroups = 0 ∧
      r.matchAddressLimit .bare (r.legacyPreMatch .bare query.resetRuleCache).2 (some response) = false ∧
      (inverted.legacyPreMatch .bare query.resetRuleCache).1 = false ∧
      inverted.matchAddressLimit .bare (inverted.legacyPreMatch .bare query.resetRuleCache).2 (some response) = true :=
  ⟨twoSubnetsRule [.domainKeyword ["cn"] .asIS] (by decide) false, twoSubnetsRule [.domainKeyword ["cn"] .asIS] (by decide) true,
    { destination := { fqdn := "cn.example" } }, dnsAnswer, twoSubnetsRule_legacy _ _ _, twoSubnetsRule_legacy _ _ _,
    by decide, by decide, by decide, by decide, by decide⟩

end Rule
end SingBox
