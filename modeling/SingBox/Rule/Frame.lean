import SingBox.Rule.Match
import SingBox.Lib.Kleene
import Mathlib.Data.FinEnum
/-!
# What a match leaves behind

A match touches the rule-match cache and nothing else (`Framed`). The loops
over sub-rules and rule-sets therefore run every sub-match on one and the same
metadata, and compute the three-valued verdict of `Lib/Kleene.lean` over them:
a match that leaves a deferral behind is `unsure`.
-/
open Kleene

namespace SingBox
open Truth

/-- The three-valued reading of a verdict and the groups deferred with it. -/
def truth (matched : Bool) (deferredGroups : UInt8) : Truth :=
  if matched then if deferredGroups = 0 then .yes else .unsure else .no

def Matcher.verdict (m : Matcher) (md : InboundContext) : Truth :=
  truth (m md).1 (m md).2.deferredIPCIDRMatchGroups

def DestinationOnly (deferredGroups : UInt8) : Prop :=
  deferredGroups = 0 ∨ deferredGroups = Group.bit .destinationAddress

/-- A match changes only the rule-match cache, and defers at most the destination addresses. -/
structure Framed (m : Matcher) : Prop where
  frame : ∀ md, (m md).2.resetRuleMatchCache = md.resetRuleMatchCache
  defers : ∀ md, DestinationOnly md.deferredIPCIDRMatchGroups →
    DestinationOnly (m md).2.deferredIPCIDRMatchGroups

@[simp] lemma truth_false (d : UInt8) : truth false d = .no := rfl
@[simp] lemma truth_true_zero : truth true 0 = .yes := rfl
variable {d : UInt8} {md : InboundContext} {rules : List Matcher}

lemma truth_true_ne (h : d ≠ 0) : truth true d = .unsure := by simp [truth, h]

@[simp] lemma truth_eq_no {b : Bool} : truth b d = .no ↔ b = false := by
  cases b
  · simp
  · by_cases h : d = 0 <;> simp [truth, h]

lemma truth_true_or (d d' : UInt8) : truth true (d ||| d') = (truth true d).and (truth true d') := by
  by_cases h : d = 0 <;> by_cases h' : d' = 0 <;> simp [truth, h, h', Truth.and, UInt8.or_eq_zero_iff]

lemma truth_andNot {b : Bool} (h : truth b d ≠ .unsure) (g : UInt8) : truth b (d &&& ~~~g) = truth b d := by
  cases b
  · rfl
  have hd : d = 0 := by
    by_contra hd
    exact h (truth_true_ne hd)
  simp [hd]

lemma truth_bne_or_unsure (d : UInt8) : (truth (d != 0) d).or .unsure = .unsure := by
  by_cases h : d = 0 <;> simp [truth, h, Truth.or]

lemma or_ne_zero {d' : UInt8} (h : d' ≠ 0) : d ||| d' ≠ 0 := by
  simp [UInt8.or_eq_zero_iff, h]

lemma DestinationOnly.zero : DestinationOnly 0 := .inl rfl

lemma DestinationOnly.or {d' : UInt8} (h : DestinationOnly d) (h' : DestinationOnly d') :
    DestinationOnly (d ||| d') := by
  rcases h with rfl | rfl <;> rcases h' with rfl | rfl <;> unfold DestinationOnly <;> decide

lemma destination_andNot : ∀ g : UInt8, DestinationOnly (Group.bit .destinationAddress &&& ~~~g) := by
  unfold DestinationOnly
  decide +kernel

lemma DestinationOnly.andNot (h : DestinationOnly d) (g : UInt8) : DestinationOnly (d &&& ~~~g) := by
  rcases h with rfl | rfl
  · simpa using DestinationOnly.zero
  · exact destination_andNot g

/-! ## Resets -/

section
variable (md : InboundContext)

@[simp] lemma resetRuleMatchCache_resetRuleCache : md.resetRuleMatchCache.resetRuleCache = md.resetRuleCache := rfl
@[simp] lemma resetRuleCache_idem : md.resetRuleCache.resetRuleCache = md.resetRuleCache := rfl
@[simp] lemma defer_reset (g : UInt8) : (md.defer g).resetRuleMatchCache = md.resetRuleMatchCache := rfl
@[simp] lemma settle_reset (g : UInt8) : (md.settle g).resetRuleMatchCache = md.resetRuleMatchCache := rfl
@[simp] lemma defer_deferred (g : UInt8) :
    (md.defer g).deferredIPCIDRMatchGroups = md.deferredIPCIDRMatchGroups ||| g := rfl
@[simp] lemma settle_deferred (g : UInt8) :
    (md.settle g).deferredIPCIDRMatchGroups = md.deferredIPCIDRMatchGroups &&& ~~~g := rfl
@[simp] lemma restore_deferred (s : RuleMatchSnapshot) :
    (s.restore md).deferredIPCIDRMatchGroups = s.deferredIPCIDRMatchGroups := rfl
@[simp] lemma snapshot_deferred :
    (snapshotRuleMatch md).deferredIPCIDRMatchGroups = md.deferredIPCIDRMatchGroups := rfl

end

variable {md md' : InboundContext}

lemma resetRuleCache_congr (h : md.resetRuleMatchCache = md'.resetRuleMatchCache) :
    md.resetRuleCache = md'.resetRuleCache := by
  rw [← resetRuleMatchCache_resetRuleCache md, h, resetRuleMatchCache_resetRuleCache]

lemma restore_frame (h : md'.resetRuleCache = md.resetRuleCache) :
    ((snapshotRuleMatch md).restore md').resetRuleMatchCache = md.resetRuleMatchCache := by
  have flags (md₀ : InboundContext) : ((snapshotRuleMatch md).restore md₀).resetRuleMatchCache =
      { md₀.resetRuleCache with
        ipCidrMatchSource := md.ipCidrMatchSource, ipCidrAcceptEmpty := md.ipCidrAcceptEmpty } := rfl
  rw [flags, h]
  rfl

lemma prepareNestedMatch_congr (r : RuleSetItem) (h : md'.resetRuleCache = md.resetRuleCache) :
    r.prepareNestedMatch md' = r.prepareNestedMatch md := by
  have flags (md : InboundContext) : r.prepareNestedMatch md =
      { md.resetRuleCache with
        ipCidrMatchSource := r.ipCidrMatchSource, ipCidrAcceptEmpty := r.ipCidrAcceptEmpty } := rfl
  rw [flags, h, ← flags]

@[simp] lemma prepareNestedMatch_resetRuleCache (r : RuleSetItem) (md : InboundContext) :
    (r.prepareNestedMatch md).resetRuleCache = md.resetRuleCache := rfl

@[simp] lemma prepareNestedMatch_reset (r : RuleSetItem) (md : InboundContext) :
    (r.prepareNestedMatch md).resetRuleMatchCache = r.prepareNestedMatch md := rfl

/-! ## Items read no cache -/

lemma preferredDomain_congr (md md' : InboundContext) (p : PreferredRoutes) :
    p.preferredDomain md = p.preferredDomain md' := by
  cases p <;> rfl

lemma preferredAddress_congr (p : PreferredRoutes) (hp : md.preMatch = md'.preMatch)
    (hn : md.network = md'.network) : p.preferredAddress md = p.preferredAddress md' := by
  cases p <;> funext a <;> simp [PreferredRoutes.preferredAddress, hp, hn]

section
variable (env : Env)

@[simp] lemma match_resetRuleMatchCache (i : RuleItem) (md : InboundContext) :
    i.match env md.resetRuleMatchCache = i.match env md := by
  cases i with
  | preferredBy outbounds strategy =>
    have hd := preferredDomain_congr md.resetRuleMatchCache md
    have ha (p : PreferredRoutes) : p.preferredAddress md.resetRuleMatchCache = p.preferredAddress md :=
      preferredAddress_congr p rfl rfl
    simp only [RuleItem.match, matchPreferredBy, hd, ha]
    rfl
  | _ => rfl

lemma match_congr (i : RuleItem) (h : md.resetRuleMatchCache = md'.resetRuleMatchCache) :
    i.match env md = i.match env md' := by
  rw [← match_resetRuleMatchCache, h, match_resetRuleMatchCache]

/-! ## Default rules -/

variable (r : DefaultItems)

@[simp] lemma evaluateGroups_frame (md : InboundContext) :
    (evaluateGroups env r md).2.resetRuleMatchCache = md.resetRuleMatchCache := by
  simp only [evaluateGroups]
  split <;> rfl

lemma evaluateGroups_defers (hd : DestinationOnly md.deferredIPCIDRMatchGroups) :
    DestinationOnly (evaluateGroups env r md).2.deferredIPCIDRMatchGroups := by
  simp only [evaluateGroups]
  split
  · exact hd.or (.inr rfl)
  · exact hd

@[simp] lemma evaluateGroups_match (md : InboundContext) (i : RuleItem) :
    i.match env (evaluateGroups env r md).2 = i.match env md :=
  match_congr env i (evaluateGroups_frame env r md)

lemma evaluateForMerge_eq (md : InboundContext) : evaluateForMerge env r md =
      (if r.items.all (·.match env md) then some (evaluateGroups env r md).1 else none,
        (evaluateGroups env r md).2) := by
  simp only [evaluateForMerge, evaluateGroups_match]
  split <;> rfl

section
variable {ruleSetItem : Option (RuleGroupMatch → Matcher)}

lemma matchInner_framed (hr : ∀ g, Framed (matchGroups ruleSetItem g)) : Framed (matchInner env r ruleSetItem) := by
  constructor <;> intro md
  · have hg := (hr (evaluateGroups env r md).1).frame (evaluateGroups env r md).2
    rw [evaluateGroups_frame] at hg
    simp only [matchInner]
    split
    · split <;> simpa using hg
    · exact evaluateGroups_frame env r md
  · intro hd
    have hg := (hr (evaluateGroups env r md).1).defers _ (evaluateGroups_defers env r hd)
    simp only [matchInner]
    split
    · split
      · exact hg.andNot _
      · exact hg
    · exact evaluateGroups_defers env r hd

lemma defaultMatch_framed (hr : ∀ g, Framed (matchGroups ruleSetItem g)) (invert : Bool) :
    Framed (defaultMatch env r ruleSetItem invert) := by
  have hinner := matchInner_framed env r hr
  constructor <;> intro md
  · simp only [defaultMatch]
    split
    · rfl
    split
    · split <;> exact hinner.frame md
    · exact hinner.frame md
  · intro hd
    simp only [defaultMatch]
    split
    · exact hd
    split
    · split
      · exact .zero
      · exact hinner.defers md hd
    · exact hinner.defers md hd

end

variable (ruleSetItem : Option (RuleGroupMatch → Matcher))

/-- The verdict of `matchInner`: what the groups give, less the groups the rule itself satisfies. -/
lemma matchInner_verdict (md : InboundContext) : (matchInner env r ruleSetItem).verdict md =
      if r.items.all (·.match env md) then
        let groups := (evaluateGroups env r md).1
        let out := matchGroups ruleSetItem groups (evaluateGroups env r md).2
        truth out.1 (out.2.deferredIPCIDRMatchGroups &&& ~~~groups.satisfied)
      else .no := by
  simp only [Matcher.verdict, matchInner, evaluateGroups_match]
  split
  · cases h : (matchGroups ruleSetItem (evaluateGroups env r md).1 (evaluateGroups env r md).2).1 <;> simp
  · rfl

lemma defaultMatch_verdict (invert : Bool) (hd : md.deferredIPCIDRMatchGroups = 0) :
    (defaultMatch env r ruleSetItem invert).verdict md =
      if r.allItems.length == 0 && ruleSetItem.isNone then .yes
      else
        let t := (matchInner env r ruleSetItem).verdict md
        if invert then t.not else t := by
  simp only [Matcher.verdict, defaultMatch]
  split
  · simp [hd]
  generalize matchInner env r ruleSetItem md = out
  obtain ⟨matched, md'⟩ := out
  by_cases h : md'.deferredIPCIDRMatchGroups = 0 <;> cases invert <;> cases matched <;> simp [truth, h, Truth.not]

end

lemma matchGroups_none_framed (g : RuleGroupMatch) : Framed (matchGroups none g) := ⟨fun _ => rfl, fun _ hd => hd⟩

/-! ## Logical rules -/

lemma logicalAnd_spec (hr : ∀ m ∈ rules, Framed m) (d : UInt8) (md : InboundContext) :
    truth (logicalAnd rules d md).1.1 (logicalAnd rules d md).1.2 =
        (truth true d).and (.all (rules.map (Matcher.verdict · md.resetRuleCache))) ∧
      (logicalAnd rules d md).2.resetRuleCache = md.resetRuleCache ∧
      (DestinationOnly d → DestinationOnly (logicalAnd rules d md).1.2) := by
  induction rules generalizing d md with
  | nil => cases h : truth true d <;> simp_all [logicalAnd, Truth.and]
  | cons m rules ih =>
    obtain ⟨hm, hr⟩ := List.forall_mem_cons.1 hr
    have hbase := resetRuleCache_congr (hm.frame md.resetRuleCache)
    simp only [resetRuleCache_idem] at hbase
    simp only [logicalAnd, List.map_cons, Truth.all_cons]
    cases hv : (m md.resetRuleCache).1 with
    | false => simp [Matcher.verdict, hv, hbase, DestinationOnly.zero]
    | true =>
      obtain ⟨ht, hf, hd⟩ := ih hr (d ||| (m md.resetRuleCache).2.deferredIPCIDRMatchGroups) (m md.resetRuleCache).2
      rw [hbase] at ht hf
      refine ⟨?_, hf, fun h => hd (h.or (hm.defers _ .zero))⟩
      simp only [Bool.not_true, Bool.false_eq_true, if_false, ht, Matcher.verdict, hv, truth_true_or, Truth.and_assoc]

/-! ## Loops that end at a sure match -/

/-- What a loop sees of one sub-match: its verdict, the groups it defers, and those that a sure match settles. -/
structure Visit where
  matched : Bool
  deferred : UInt8
  settled : UInt8 := 0
  md : InboundContext

def Visit.verdict (v : Visit) : Truth := truth v.matched v.deferred

/-- A visit depends on `base md` alone and leaves it as it is. -/
structure Visit.Steady (base : InboundContext → InboundContext) (visit : InboundContext → Visit) : Prop where
  congr : ∀ {md md'}, base md' = base md → visit md' = visit md
  frame : ∀ md, base (visit md).md = base md
  defers : ∀ md, DestinationOnly (visit md).deferred

/-- The loop of `logicalOr`, `matchAnyLoop` and `matchSets`. -/
def anyLoop {α : Type} (visit : α → InboundContext → Visit) : List α → Bool → UInt8 → InboundContext → Visit
  | [], matched, deferred, md => { matched, deferred, md }
  | a :: as, matched, deferred, md =>
    let v := visit a md
    if v.matched then
      if v.deferred == 0 then v else anyLoop visit as true (deferred ||| v.deferred) v.md
    else anyLoop visit as matched deferred v.md

section
variable {α : Type} {visit : α → InboundContext → Visit} {base : InboundContext → InboundContext} {as : List α}
  (h : ∀ a ∈ as, Visit.Steady base (visit a))
include h

/-- The loop takes the disjunction. While it runs, `matched` says whether anything is deferred. -/
lemma anyLoop_spec (d : UInt8) (md : InboundContext) :
    let v := anyLoop visit as (d != 0) d md
    v.verdict = (truth (d != 0) d).or (.any (as.map fun a => (visit a md).verdict)) ∧ base v.md = base md ∧
      (DestinationOnly d → DestinationOnly v.deferred) ∧
      (v.settled = 0 ∨ v.deferred = 0 ∧ ∃ a ∈ as, v.settled = (visit a md).settled) := by
  induction as generalizing d md with
  | nil => simp [anyLoop, Visit.verdict]
  | cons a as ih =>
    obtain ⟨ha, h⟩ := List.forall_mem_cons.1 h
    -- every visit of the rest is as it would be on the metadata of this one
    have hsame : ∀ b ∈ as, visit b (visit a md).md = visit b md := fun b hb => (h b hb).congr (ha.frame md)
    have hverdicts : (as.map fun b => (visit b (visit a md).md).verdict) = as.map fun b => (visit b md).verdict :=
      List.map_congr_left fun b hb => by rw [hsame b hb]
    have hsettled {g : UInt8} (hs : ∃ b ∈ as, g = (visit b (visit a md).md).settled) :
        ∃ b ∈ a :: as, g = (visit b md).settled := by
      obtain ⟨b, hb, rfl⟩ := hs
      exact ⟨b, List.mem_cons_of_mem a hb, by rw [hsame b hb]⟩
    simp only [anyLoop, List.map_cons, any_cons]
    cases hv : (visit a md).matched with
    | false =>
      obtain ⟨ht, hf, hd, hs⟩ := ih h d (visit a md).md
      refine ⟨?_, hf.trans (ha.frame md), hd, hs.imp_right fun hs => ⟨hs.1, hsettled hs.2⟩⟩
      have hno : (visit a md).verdict = .no := by simp [Visit.verdict, hv]
      simp [ht, hverdicts, hno]
    | true =>
      by_cases hz : (visit a md).deferred = 0
      · simp only [hz, if_true, beq_self_eq_true]
        exact ⟨by simp [Visit.verdict, hv, hz], ha.frame md, fun _ => .zero, .inr ⟨trivial, a, List.mem_cons_self, rfl⟩⟩
      have hor := or_ne_zero (d := d) hz
      obtain ⟨ht, hf, hd, hs⟩ := ih h (d ||| (visit a md).deferred) (visit a md).md
      rw [bne_iff_ne.2 hor] at ht hf hd hs
      simp only [if_true, beq_iff_eq, hz, if_false]
      refine ⟨?_, hf.trans (ha.frame md), fun hd' => hd (hd'.or (ha.defers md)),
        hs.imp_right fun hs => ⟨hs.1, hsettled hs.2⟩⟩
      have hunsure : (visit a md).verdict = .unsure := by rw [Visit.verdict, hv, truth_true_ne hz]
      rw [ht, hverdicts, truth_true_ne hor, hunsure, ← Truth.or_assoc, truth_bne_or_unsure]

end

def Matcher.visit (reset : InboundContext → InboundContext) (m : Matcher) (md : InboundContext) : Visit :=
  { matched := (m (reset md)).1, deferred := (m (reset md)).2.deferredIPCIDRMatchGroups, md := (m (reset md)).2 }

/-- What the resets of the loops have in common. -/
structure Resets (reset : InboundContext → InboundContext) : Prop where
  congr : ∀ {md md'}, md'.resetRuleMatchCache = md.resetRuleMatchCache → reset md' = reset md
  idem : ∀ md, reset (reset md) = reset md
  zero : ∀ md, (reset md).deferredIPCIDRMatchGroups = 0

lemma resets_ruleCache : Resets InboundContext.resetRuleCache :=
  ⟨resetRuleCache_congr, fun _ => rfl, fun _ => rfl⟩

lemma resets_ruleMatchCache : Resets InboundContext.resetRuleMatchCache := ⟨id, fun _ => rfl, fun _ => rfl⟩

lemma Framed.visit {m : Matcher} (h : Framed m) {reset : InboundContext → InboundContext} (hr : Resets reset) :
    Visit.Steady reset (m.visit reset) where
  congr he := by simp only [Matcher.visit, he]
  frame md := (hr.congr (h.frame (reset md))).trans (hr.idem md)
  defers md := h.defers _ (.inl (hr.zero md))

lemma logicalOr_eq (matched : Bool) (d : UInt8) (md : InboundContext) : logicalOr rules matched d md =
      let v := anyLoop (Matcher.visit .resetRuleCache) rules matched d md
      ((v.matched, v.deferred), v.md) := by
  induction rules generalizing matched d md with
  | nil => rfl
  | cons m rules ih =>
    simp only [logicalOr, anyLoop, Matcher.visit]
    by_cases hm : (m md.resetRuleCache).1 <;>
      by_cases hz : (m md.resetRuleCache).2.deferredIPCIDRMatchGroups = 0 <;> simp [hm, hz, ih]

@[simp] lemma defer_zero (md : InboundContext) : md.defer 0 = md := by simp [InboundContext.defer]

@[simp] lemma settle_zero (md : InboundContext) : md.settle 0 = md := by simp [InboundContext.settle]

/-- What the loops over headless rules and rule-sets leave of the last visit. -/
def RuleMatchSnapshot.finish (s : RuleMatchSnapshot) (v : Visit) : Bool × InboundContext :=
  (v.matched, if v.matched then ((s.restore v.md).defer v.deferred).settle v.settled else s.restore v.md)

section
variable {loop : InboundContext → Visit} (hd : ∀ md, DestinationOnly (loop md).deferred)
include hd

lemma finish_framed (hf : ∀ md, (loop md).md.resetRuleCache = md.resetRuleCache) :
    Framed fun md => (snapshotRuleMatch md).finish (loop md) := by
  constructor <;> intro md
  · have hf := restore_frame (hf md)
    cases hm : (loop md).matched <;> simpa [RuleMatchSnapshot.finish, hm] using hf
  · intro h
    cases hm : (loop md).matched
    · simpa [RuleMatchSnapshot.finish, hm] using h
    · simpa [RuleMatchSnapshot.finish, hm] using (h.or (hd md)).andNot _

omit hd in
lemma finish_verdict (hz : md.deferredIPCIDRMatchGroups = 0) (hs : (loop md).settled = 0 ∨ (loop md).deferred = 0) :
    Matcher.verdict (fun md => (snapshotRuleMatch md).finish (loop md)) md = (loop md).verdict := by
  cases hm : (loop md).matched
  · simp [Matcher.verdict, RuleMatchSnapshot.finish, Visit.verdict, hm]
  · rcases hs with hs | hs <;> simp [Matcher.verdict, RuleMatchSnapshot.finish, Visit.verdict, hm, hz, hs]

end

def LogicalMode.combine : LogicalMode → List Truth → Truth
  | .and => .all
  | .or => .any

/-- The verdict of a sub-rule that ends a logical rule's loop. -/
def LogicalMode.stops : LogicalMode → Truth
  | .and => .no
  | .or => .yes

section
variable (mode : LogicalMode) (hr : ∀ m ∈ rules, Framed m)
include hr

lemma logicalLoop_spec (md : InboundContext) : truth (logicalLoop mode rules md).1.1 (logicalLoop mode rules md).1.2 =
        mode.combine (rules.map (Matcher.verdict · md.resetRuleCache)) ∧
      (logicalLoop mode rules md).2.resetRuleCache = md.resetRuleCache ∧
      DestinationOnly (logicalLoop mode rules md).1.2 := by
  cases mode with
  | and => simpa [logicalLoop, LogicalMode.combine, DestinationOnly.zero] using logicalAnd_spec hr 0 md
  | or =>
    obtain ⟨ht, hf, hd, -⟩ := anyLoop_spec (fun m hm => (hr m hm).visit resets_ruleCache) 0 md
    simp only [logicalLoop, logicalOr_eq]
    exact ⟨ht.trans (no_or _), hf, hd .zero⟩

lemma logicalMatch_verdict
    (invert : Bool) (hd : md.deferredIPCIDRMatchGroups = 0) : (logicalMatch mode rules invert).verdict md =
      let t := mode.combine (rules.map (Matcher.verdict · md.resetRuleCache))
      if invert then t.not else t := by
  obtain ⟨ht, -⟩ := logicalLoop_spec mode hr md
  simp only [← ht]
  simp only [Matcher.verdict, logicalMatch]
  generalize logicalLoop mode rules md = out
  obtain ⟨⟨matched, d⟩, md'⟩ := out
  cases invert <;> cases matched <;> by_cases h : d = 0 <;> simp [truth, h, hd, Truth.not]

lemma logicalMatch_framed (invert : Bool) : Framed (logicalMatch mode rules invert) := by
  constructor <;> intro md <;> obtain ⟨-, hf, hl⟩ := logicalLoop_spec mode hr md <;> simp only [logicalMatch]
  · have hf := restore_frame hf
    cases (logicalLoop mode rules md).1.1 <;> cases invert <;> simpa using hf
  intro hd
  cases (logicalLoop mode rules md).1.1 <;> cases invert <;> simp [hd, hd.or hl]

end
end SingBox
