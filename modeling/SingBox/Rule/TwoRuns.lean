import SingBox.Rule.RuleSets
import SingBox.Rule.Groups
import SingBox.Lib.Lists
/-!
# Two runs of one match

Matching reads the metadata through rule items, and besides them only the rule
cache, which it also writes. So two runs on metadata that agree for the items
of a rule and have the same rule cache take the same course
(`Agrees`), and stay related.
-/
open Kleene

namespace SingBox
open Lists
variable {r : DefaultItems} {md md' : InboundContext} {ruleSetItem : Option (RuleGroupMatch → Matcher)} {s : RuleSet}

/-- The fields that matching resets and writes. -/
structure RuleCache where
  ipCidrMatchSource : Bool
  ipCidrAcceptEmpty : Bool
  sourceAddressMatch : Bool
  sourcePortMatch : Bool
  destinationAddressMatch : Bool
  destinationPortMatch : Bool
  deferredIPCIDRMatchGroups : UInt8

def InboundContext.ruleCache (md : InboundContext) : RuleCache where
  ipCidrMatchSource := md.ipCidrMatchSource
  ipCidrAcceptEmpty := md.ipCidrAcceptEmpty
  sourceAddressMatch := md.sourceAddressMatch
  sourcePortMatch := md.sourcePortMatch
  destinationAddressMatch := md.destinationAddressMatch
  destinationPortMatch := md.destinationPortMatch
  deferredIPCIDRMatchGroups := md.deferredIPCIDRMatchGroups

def InboundContext.setRuleCache (md : InboundContext) (c : RuleCache) : InboundContext :=
  { md with
    ipCidrMatchSource := c.ipCidrMatchSource
    ipCidrAcceptEmpty := c.ipCidrAcceptEmpty
    sourceAddressMatch := c.sourceAddressMatch
    sourcePortMatch := c.sourcePortMatch
    destinationAddressMatch := c.destinationAddressMatch
    destinationPortMatch := c.destinationPortMatch
    deferredIPCIDRMatchGroups := c.deferredIPCIDRMatchGroups }

/-- Related metadata have the same rule cache, and writing the same rule cache
to both keeps them related. -/
structure CacheRel (R : InboundContext → InboundContext → Prop) : Prop where
  ruleCache : ∀ {md md'}, R md md' → md'.ruleCache = md.ruleCache
  ignore : ∀ {md md'}, R md md' → md'.ignoreDestinationIPCIDRMatch = md.ignoreDestinationIPCIDRMatch
  setRuleCache : ∀ {md md'}, R md md' → ∀ c, R (md.setRuleCache c) (md'.setRuleCache c)

section
variable (R : InboundContext → InboundContext → Prop)

/-- On these metadata the match takes the same course. -/
def AgreesAt (m : Matcher) (md md' : InboundContext) : Prop :=
  (m md').1 = (m md).1 ∧ R (m md).2 (m md').2

/-- Related metadata give the same verdict and are left related. -/
def Agrees (m : Matcher) : Prop :=
  ∀ md md', R md md' → (m md').1 = (m md).1 ∧ R (m md).2 (m md').2

end

def ItemAgrees (env : Env) (R : InboundContext → InboundContext → Prop) (i : RuleItem) : Prop :=
  ∀ md md', R md md' → i.match env md' = i.match env md

namespace CacheRel
variable {R : InboundContext → InboundContext → Prop} (hR : CacheRel R) {md md' : InboundContext} (h : R md md')
include hR h

lemma deferred : md'.deferredIPCIDRMatchGroups = md.deferredIPCIDRMatchGroups :=
  congrArg RuleCache.deferredIPCIDRMatchGroups (hR.ruleCache h)

lemma matchSource : md'.ipCidrMatchSource = md.ipCidrMatchSource :=
  congrArg RuleCache.ipCidrMatchSource (hR.ruleCache h)

lemma mapRuleCache (f : RuleCache → RuleCache) :
    R (md.setRuleCache (f md.ruleCache)) (md'.setRuleCache (f md'.ruleCache)) := by
  rw [hR.ruleCache h]
  exact hR.setRuleCache h _

lemma resetRuleMatchCache : R md.resetRuleMatchCache md'.resetRuleMatchCache :=
  hR.mapRuleCache h fun c => ⟨c.ipCidrMatchSource, c.ipCidrAcceptEmpty, false, false, false, false, 0⟩

lemma resetRuleCache : R md.resetRuleCache md'.resetRuleCache :=
  hR.mapRuleCache h fun _ => ⟨false, false, false, false, false, false, 0⟩

lemma prepareNestedMatch (r : RuleSetItem) : R (r.prepareNestedMatch md) (r.prepareNestedMatch md') :=
  hR.mapRuleCache h fun _ => ⟨r.ipCidrMatchSource, r.ipCidrAcceptEmpty, false, false, false, false, 0⟩

lemma defer (g : UInt8) : R (md.defer g) (md'.defer g) :=
  hR.mapRuleCache h fun c => { c with deferredIPCIDRMatchGroups := c.deferredIPCIDRMatchGroups ||| g }

lemma settle (g : UInt8) : R (md.settle g) (md'.settle g) :=
  hR.mapRuleCache h fun c => { c with deferredIPCIDRMatchGroups := c.deferredIPCIDRMatchGroups &&& ~~~g }

lemma clear : R { md with deferredIPCIDRMatchGroups := 0 } { md' with deferredIPCIDRMatchGroups := 0 } :=
  hR.mapRuleCache h fun c => { c with deferredIPCIDRMatchGroups := 0 }

lemma restore (s : RuleMatchSnapshot) : R (s.restore md) (s.restore md') :=
  hR.mapRuleCache h fun c =>
    { c with
      ipCidrMatchSource := s.ipCidrMatchSource
      ipCidrAcceptEmpty := s.ipCidrAcceptEmpty
      deferredIPCIDRMatchGroups := s.deferredIPCIDRMatchGroups }

lemma snapshot : snapshotRuleMatch md' = snapshotRuleMatch md :=
  congrArg (fun c : RuleCache => ({ c with } :
    RuleMatchSnapshot)) (hR.ruleCache h)

end CacheRel

/-! ## Default rules -/

variable {env : Env} {R : InboundContext → InboundContext → Prop} (hR : CacheRel R)
include hR

/-- The items a match of the rule looks at. -/
def DefaultItems.Consults (r : DefaultItems) (md : InboundContext) (i : RuleItem) : Prop :=
  i ∈ r.items ∨ ∃ g, i ∈ r.groupItems md g

omit hR in
lemma DefaultItems.Consults.mem {i : RuleItem} (h : r.Consults md i) :
    i ∈ r.allItems := by
  rcases h with h | ⟨g, h⟩
  · simp [DefaultItems.allItems, h]
  · exact groupItems_mem h

section
variable {r : DefaultItems} {md md' : InboundContext} (hr : ∀ i, r.Consults md i → i.match env md' = i.match env md)
include hr

omit hR in
lemma items_all_agrees : r.items.all (·.match env md') = r.items.all (·.match env md) :=
  all_congr_mem fun i hi => hr i (.inl hi)

variable (h : R md md')
include h

lemma evaluateGroups_agrees : (evaluateGroups env r md').1 = (evaluateGroups env r md).1 ∧
      R (evaluateGroups env r md).2 (evaluateGroups env r md').2 := by
  constructor
  · have hitems : r.groupItems md' = r.groupItems md := by
      funext g
      cases g <;> simp only [DefaultItems.groupItems, hR.matchSource h, hR.ignore h]
    have hany (g : Group) : (r.groupItems md g).any (·.match env md') = (r.groupItems md g).any (·.match env md) :=
      any_congr_mem fun i hi => hr i (.inr ⟨g, hi⟩)
    simp only [evaluateGroups_groups, hitems, hany]
  · simp only [evaluateGroups, hR.matchSource h, hR.ignore h]
    split
    · exact hR.defer h _
    · exact h

lemma defaultMatch_agreesAt
    (hg : r.items.all (·.match env md) = true → ∀ md₁', R (evaluateGroups env r md).2 md₁' →
      AgreesAt R (matchGroups ruleSetItem (evaluateGroups env r md).1) (evaluateGroups env r md).2 md₁')
    (invert : Bool) : AgreesAt R (defaultMatch env r ruleSetItem invert) md md' := by
  have hinner : AgreesAt R (matchInner env r ruleSetItem) md md' := by
    obtain ⟨hgroups, hs⟩ := evaluateGroups_agrees hR hr h
    simp only [AgreesAt, matchInner, evaluateGroups_match, hgroups, items_all_agrees hr]
    split
    next hi =>
      obtain ⟨hv, ht⟩ := hg hi _ hs
      refine ⟨hv, ?_⟩
      simp only [hv]
      split
      · exact hR.settle ht _
      · exact ht
    · exact ⟨rfl, hs⟩
  obtain ⟨hv, ht⟩ := hinner
  simp only [AgreesAt, defaultMatch, hv, hR.deferred ht]
  split
  · exact ⟨rfl, h⟩
  split
  · split
    · exact ⟨rfl, hR.clear ht⟩
    · exact ⟨rfl, ht⟩
  · exact ⟨rfl, ht⟩

end

lemma defaultMatch_agrees (hr : ∀ i ∈ r.allItems, ItemAgrees env R i) (hg : ∀ g, Agrees R (matchGroups ruleSetItem g))
    (invert : Bool) : Agrees R (defaultMatch env r ruleSetItem invert) := fun _ _ h =>
  defaultMatch_agreesAt hR (fun i hi => hr i hi.mem _ _ h) h (fun _ _ h => hg _ _ _ h) invert

omit hR in
lemma matchGroups_none_agrees (g : RuleGroupMatch) : Agrees R (matchGroups none g) := fun _ _ h => ⟨rfl, h⟩

/-! ## Loops -/

/-- The matches agree as far as a loop comes that ends at the verdict `stop`. -/
def AgreesUntil (R : InboundContext → InboundContext → Prop) (stop : Truth) (rules : List Matcher)
    (base : InboundContext) : Prop :=
  ∀ m ∈ upTo (·.verdict base = stop) rules, Framed m ∧ ∀ md', R base md' → AgreesAt R m base md'

section
variable {rules : List Matcher} {base md md' : InboundContext} {stop : Truth}

omit hR in
lemma AgreesUntil.of_agrees (hf : ∀ m ∈ rules, Framed m) (hr : ∀ m ∈ rules, Agrees R m) :
    AgreesUntil R stop rules base := fun m hm =>
  have hmem := upTo_subset _ _ hm
  ⟨hf m hmem, fun md' h => hr m hmem base md' h⟩

omit hR in
lemma AgreesUntil.cons {m : Matcher} (h : AgreesUntil R stop (m :: rules) base) :
    Framed m ∧ (∀ md', R base md' → AgreesAt R m base md') ∧ (m.verdict base ≠ stop → AgreesUntil R stop rules base) := by
  rw [AgreesUntil, upTo] at h
  obtain ⟨⟨hf, hm⟩, h⟩ := List.forall_mem_cons.1 h
  exact ⟨hf, hm, fun hgo => by simpa [AgreesUntil, hgo] using h⟩

lemma logicalAnd_agrees (hr : AgreesUntil R .no rules base) (d : UInt8) (h : R md md')
    (hb : md.resetRuleCache = base) : (logicalAnd rules d md').1 = (logicalAnd rules d md).1 ∧
      R (logicalAnd rules d md).2 (logicalAnd rules d md').2 := by
  induction rules generalizing d md md' with
  | nil => exact ⟨rfl, h⟩
  | cons m rules ih =>
    obtain ⟨hf, hm, hr⟩ := hr.cons
    obtain ⟨hv, ht⟩ := hm _ (hb ▸ hR.resetRuleCache h)
    have hbase : (m base).2.resetRuleCache = base := by rw [resetRuleCache_congr (hf.frame base), ← hb]; rfl
    simp only [logicalAnd, hb, hv, hR.deferred ht]
    split
    · exact ⟨rfl, ht⟩
    next hmatched => exact ih (hr (by simpa [Matcher.verdict] using hmatched)) _ ht hbase

omit hR in
def Visit.Agrees (R : InboundContext → InboundContext → Prop) (v v' : Visit) : Prop :=
  v'.matched = v.matched ∧ v'.deferred = v.deferred ∧ v'.settled = v.settled ∧ R v.md v'.md

omit hR in
lemma anyLoop_agrees {α : Type} {visit : α → InboundContext → Visit} {as : List α}
    (reset : InboundContext → InboundContext) (start : InboundContext)
    (hv : ∀ a ∈ upTo (fun a => (visit a start).verdict = .yes) as, Visit.Steady reset (visit a) ∧
      ∀ md md', reset md = reset start → R md md' → (visit a md).Agrees R (visit a md'))
    (matched : Bool) (d : UInt8) (h : R md md') (hb : reset md = reset start) :
    (anyLoop visit as matched d md).Agrees R (anyLoop visit as matched d md') := by
  induction as generalizing matched d md md' with
  | nil => exact ⟨rfl, rfl, rfl, h⟩
  | cons a as ih =>
    rw [upTo] at hv
    obtain ⟨⟨hs, ha⟩, hv⟩ := List.forall_mem_cons.1 hv
    obtain ⟨hm, hd, hset, ht⟩ := ha md md' hb h
    have hgo (hne : (visit a md).verdict ≠ .yes) := @ih (visit a md).md (visit a md').md
      (by simpa [← hs.congr hb, hne] using hv)
    have hnext := (hs.frame md).trans hb
    simp only [anyLoop, hm, hd]
    split
    next hmatched =>
      split
      · exact ⟨hm, hd, hset, ht⟩
      next hdeferred => exact hgo (by simp_all [Visit.verdict, truth]) _ _ ht hnext
    next hmatched => exact hgo (by simp_all [Visit.verdict]) _ _ ht hnext

/-- Both resets of the metadata give visits that agree. -/
lemma AgreesUntil.anyLoop {reset : InboundContext → InboundContext} (hr : Resets reset)
    (hreset : ∀ {md md'}, R md md' → R (reset md) (reset md')) (hrules : AgreesUntil R .yes rules (reset md))
    (h : R md md') : (anyLoop (Matcher.visit reset) rules false 0 md).Agrees R
      (SingBox.anyLoop (Matcher.visit reset) rules false 0 md') := by
  refine anyLoop_agrees reset md (fun m (hm : m ∈ upTo (·.verdict (reset md) = .yes) rules) =>
    ⟨(hrules m hm).1.visit hr, fun md₁ md₁' hb h₁ => ?_⟩) _ _ h rfl
  obtain ⟨hv, ht⟩ := (hrules m hm).2 _ (hb ▸ hreset h₁)
  simp only [Matcher.visit, hb]
  exact ⟨hv, hR.deferred ht, rfl, ht⟩

lemma finish_agrees {loop : InboundContext → Visit} (h : R md md') (hv : (loop md).Agrees R (loop md')) :
    AgreesAt R (fun md => (snapshotRuleMatch md).finish (loop md)) md md' := by
  obtain ⟨hm, hd, hset, ht⟩ := hv
  have hrestore := hR.restore ht (snapshotRuleMatch md)
  refine ⟨hm, ?_⟩
  simp only [RuleMatchSnapshot.finish, hR.snapshot h, hm, hd, hset]
  split
  · exact hR.settle (hR.defer hrestore _) _
  · exact hrestore

lemma logicalMatch_agreesAt (mode : LogicalMode) (hr : AgreesUntil R mode.stops rules md.resetRuleCache) (h : R md md')
    (invert : Bool) : AgreesAt R (logicalMatch mode rules invert) md md' := by
  have hloop : (logicalLoop mode rules md').1 = (logicalLoop mode rules md).1 ∧
      R (logicalLoop mode rules md).2 (logicalLoop mode rules md').2 := by
    cases mode with
    | and => exact logicalAnd_agrees hR hr 0 h rfl
    | or =>
      obtain ⟨hm, hd, -, ht⟩ := hr.anyLoop hR resets_ruleCache hR.resetRuleCache h
      simp only [logicalLoop, logicalOr_eq]
      exact ⟨Prod.ext hm hd, ht⟩
  obtain ⟨hv, ht⟩ := hloop
  have hrestore := hR.restore ht (snapshotRuleMatch md)
  simp only [AgreesAt, logicalMatch, hv, hR.snapshot h]
  cases (logicalLoop mode rules md).1.1 <;> cases invert <;>
    first | exact ⟨rfl, hrestore⟩ | exact ⟨rfl, hR.defer hrestore _⟩

lemma logicalMatch_agrees (hf : ∀ m ∈ rules, Framed m) (hr : ∀ m ∈ rules, Agrees R m) (mode : LogicalMode)
    (invert : Bool) : Agrees R (logicalMatch mode rules invert) := fun _ _ h =>
  logicalMatch_agreesAt hR mode (.of_agrees hf hr) h invert

lemma RuleSet.match_agreesAt
    (hr : AgreesUntil R .yes (HeadlessRule.matchers env s.rules) md.resetRuleMatchCache) (h : R md md') :
    AgreesAt R (s.match env) md md' := by
  rw [s.match_eq]
  exact finish_agrees hR h (hr.anyLoop hR resets_ruleMatchCache hR.resetRuleMatchCache h)

end

/-! ## Rule-sets -/

/-- A referenced rule-set agrees on the metadata prepared for it: the items of a merged one, and the match of any
other that is come to. -/
structure RuleSet.AgreesFor (env : Env) (R : InboundContext → InboundContext → Prop) (outerGroups : RuleGroupMatch)
    (nested : InboundContext) (s : RuleSet) : Prop where
  merged : ∀ branch, s.mergeableRule = some branch → ∀ md', R nested md' → ∀ i, branch.Consults nested i →
    i.match env md' = i.match env nested
  nested : s.mergeableRule = none → outerGroups.done = true → ∀ md', R nested md' → AgreesAt R (s.match env) nested md'

lemma RuleSet.AgreesFor.visit {r : RuleSetItem} {outerGroups : RuleGroupMatch}
    (hs : s.AgreesFor env R outerGroups (r.prepareNestedMatch md)) (h : R md md') :
    (r.visit env outerGroups s md).Agrees R (r.visit env outerGroups s md') := by
  have hp := hR.prepareNestedMatch h r
  cases hm : s.mergeableRule with
  | none =>
    by_cases hdone : outerGroups.done
    · obtain ⟨hv, ht⟩ := hs.nested hm hdone _ hp
      simp only [RuleSetItem.visit, hm, hdone, if_true]
      exact ⟨hv, hR.deferred ht, rfl, ht⟩
    · simp only [RuleSetItem.visit, hm, hdone]
      exact ⟨rfl, rfl, rfl, hp⟩
  | some branch =>
    have hb := hs.merged branch hm _ hp
    obtain ⟨hgroups, ht⟩ := evaluateGroups_agrees hR hb hp
    simp only [RuleSetItem.visit, hm, evaluateForMerge_eq, hgroups, items_all_agrees hb]
    by_cases hi : branch.items.all (·.match env (r.prepareNestedMatch md))
    · simp only [hi, if_true, hR.deferred ht]
      exact ⟨rfl, rfl, rfl, ht⟩
    · simp only [hi, Bool.false_eq_true, if_false]
      exact ⟨rfl, rfl, rfl, ht⟩

lemma RuleSetItem.matchWithOuterGroups_agreesAt (r : RuleSetItem) (outerGroups : RuleGroupMatch)
    (hset : ∀ s ∈ upTo (r.setVerdict env outerGroups md · = .yes) r.setList,
      s.AgreesFor env R outerGroups (r.prepareNestedMatch md)) (h : R md md') :
    AgreesAt R (r.matchWithOuterGroups env outerGroups) md md' := by
  rw [matchWithOuterGroups_eq]
  refine finish_agrees hR h (anyLoop_agrees .resetRuleCache md (fun s hs => ?_) _ _ h rfl)
  simp only [visit_verdict] at hs
  refine ⟨r.visit_steady env outerGroups s, fun md₁ md₁' hb h₁ => RuleSet.AgreesFor.visit hR ?_ h₁⟩
  rw [prepareNestedMatch_congr r hb]
  exact hset s hs

variable (hh : ∀ i : RuleItem, i.headless → ItemAgrees env R i)
include hh

lemma HeadlessRule.match_agrees (r : HeadlessRule) : Agrees R (r.match env) := by
  induction r using HeadlessRule.ind with
  | default items invert =>
    exact defaultMatch_agrees hR (fun i hi => hh i (items.headless i hi)) matchGroups_none_agrees invert
  | logical mode rules invert ih =>
    refine logicalMatch_agrees hR (HeadlessRule.matchers_framed env rules) ?_ mode invert
    rw [HeadlessRule.matchers_eq_map]
    exact List.forall_mem_map.2 ih

lemma RuleSet.match_agrees (s : RuleSet) : Agrees R (s.match env) := by
  have hrules : ∀ m ∈ HeadlessRule.matchers env s.rules, Agrees R m := by
    rw [HeadlessRule.matchers_eq_map]
    exact List.forall_mem_map.2 fun r _ => r.match_agrees hR hh
  exact fun md md' h => RuleSet.match_agreesAt hR (.of_agrees (HeadlessRule.matchers_framed env s.rules) hrules) h

lemma Rule.matchDefault_agrees {items : DefaultItems} (hi : ∀ i ∈ items.allItems, ItemAgrees env R i)
    (ruleSetItem : Option RuleSetItem) (invert : Bool) : Agrees R (Rule.matchDefault env items ruleSetItem invert) := by
  refine defaultMatch_agrees hR hi (fun g => ?_) invert
  cases ruleSetItem with
  | none => exact matchGroups_none_agrees g
  | some r =>
    exact fun md md' h => r.matchWithOuterGroups_agreesAt hR g
      (fun s _ => ⟨fun branch _ _ h i hi => hh i (branch.headless i hi.mem) _ _ h,
        fun _ _ _ h => s.match_agrees hR hh _ _ h⟩) h

end SingBox
