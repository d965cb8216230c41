import SingBox.Rule.Frame
/-!
# Rule-sets and the rules that reference them

`matchAnyHeadlessRule` and `matchWithOuterGroups` as three-valued disjunctions,
and the frame of every rule tree.
-/
open Kleene

namespace SingBox
open HeadlessRule
variable {md : InboundContext} {b : HeadlessItems}

/-! ## Headless rules -/

@[elab_as_elim]
lemma HeadlessRule.ind {P : HeadlessRule → Prop} (default : ∀ items invert, P (.default items invert))
    (logical : ∀ mode rules invert, (∀ r ∈ rules, P r) → P (.logical mode rules invert)) : ∀ r, P r
  | .default items invert => default items invert
  | .logical mode rules invert => logical mode rules invert fun r hr =>
    have := List.sizeOf_lt_of_mem hr
    ind default logical r

section
variable (env : Env)

lemma HeadlessRule.matchers_eq_map (rules : List HeadlessRule) :
    matchers env rules = rules.map (·.match env) := by
  induction rules with
  | nil => rfl
  | cons r rules ih => simp [matchers, ih]

lemma HeadlessRule.match_framed (r : HeadlessRule) : Framed (r.match env) := by
  induction r using ind with
  | default items invert => exact defaultMatch_framed env _ matchGroups_none_framed invert
  | logical mode rules invert ih =>
    simp only [HeadlessRule.match, HeadlessRule.matchers_eq_map]
    exact logicalMatch_framed mode (List.forall_mem_map.2 ih) invert

lemma HeadlessRule.matchers_framed (rules : List HeadlessRule) :
    ∀ m ∈ matchers env rules, Framed m := by
  rw [matchers_eq_map]
  exact List.forall_mem_map.2 fun r _ => r.match_framed env

/-! ## Rule-sets -/

lemma matchAnyLoop_eq (snapshot : RuleMatchSnapshot) (rules : List Matcher) (matched : Bool) (d : UInt8)
    (md : InboundContext) : matchAnyLoop snapshot rules matched d md =
      snapshot.finish (anyLoop (Matcher.visit .resetRuleMatchCache) rules matched d md) := by
  induction rules generalizing matched d md with
  | nil => simp [matchAnyLoop, anyLoop, RuleMatchSnapshot.finish]
  | cons m rules ih =>
    simp only [matchAnyLoop, anyLoop, Matcher.visit]
    by_cases hm : (m md.resetRuleMatchCache).1 <;>
      by_cases hz : (m md.resetRuleMatchCache).2.deferredIPCIDRMatchGroups = 0 <;>
        simp [hm, hz, ih, RuleMatchSnapshot.finish]

lemma RuleSet.match_eq (s : RuleSet) : s.match env = fun md =>
    (snapshotRuleMatch md).finish (anyLoop (Matcher.visit .resetRuleMatchCache) (matchers env s.rules) false 0 md) :=
  funext fun _ => matchAnyLoop_eq ..

lemma RuleSet.visits_steady (s : RuleSet) :
    ∀ m ∈ matchers env s.rules, Visit.Steady .resetRuleMatchCache (m.visit .resetRuleMatchCache) :=
  fun m hm => (matchers_framed env s.rules m hm).visit resets_ruleMatchCache

lemma RuleSet.match_framed (s : RuleSet) : Framed (s.match env) := by
  rw [s.match_eq]
  exact finish_framed (fun md => (anyLoop_spec (s.visits_steady env) 0 md).2.2.1 .zero)
    fun md => resetRuleCache_congr (anyLoop_spec (s.visits_steady env) 0 md).2.1

/-- `matchAnyHeadlessRule` runs its rules on one metadata and takes their disjunction. -/
lemma RuleSet.match_verdict (s : RuleSet) (hd : md.deferredIPCIDRMatchGroups = 0) :
    (s.match env).verdict md = .any (s.rules.map fun r => (r.match env).verdict md.resetRuleMatchCache) := by
  obtain ⟨hv, -, -, hs⟩ := anyLoop_spec (s.visits_steady env) 0 md
  rw [s.match_eq]
  refine (finish_verdict hd (hs.imp_right And.left)).trans (hv.trans ((Truth.no_or _).trans ?_))
  rw [matchers_eq_map, List.map_map]
  rfl

lemma RuleSet.mergeableRule_eq_some {s : RuleSet} :
    s.mergeableRule = some b ↔ s.rules = [.default b false] := by
  obtain ⟨tag, rules⟩ := s
  simp only [RuleSet.mergeableRule]
  split <;> simp_all

lemma RuleSet.match_iff (s : RuleSet) (hd : md.deferredIPCIDRMatchGroups = 0) :
    (s.match env).verdict md ≠ .no ↔ ∃ r ∈ s.rules, (r.match env md.resetRuleMatchCache).1 = true := by
  rw [s.match_verdict env hd, Ne, Truth.any_eq_no]
  simp [Matcher.verdict]

end

/-! ## Rule-set references -/

namespace RuleSetItem
variable (env : Env) (r : RuleSetItem) (outerGroups : RuleGroupMatch) {md : InboundContext} {s : RuleSet}

/-- What one referenced rule-set makes of the groups of the rule that references it. -/
def setVerdict (md : InboundContext) (s : RuleSet) : Truth :=
  match s.mergeableRule with
  | some branch =>
    match evaluateForMerge env branch.toDefaultItems (r.prepareNestedMatch md) with
    | (some branchGroups, md) =>
      let merged := outerGroups.mergeWith branchGroups
      truth merged.done (md.deferredIPCIDRMatchGroups &&& ~~~merged.satisfied)
    | (none, _) => .no
  | none => if outerGroups.done then (s.match env).verdict (r.prepareNestedMatch md) else .no

lemma setVerdict_some (hb : s.mergeableRule = some b) : r.setVerdict env outerGroups md s =
      let branch := evaluateGroups env b.toDefaultItems (r.prepareNestedMatch md)
      let merged := outerGroups.mergeWith branch.1
      if b.items.all (·.match env (r.prepareNestedMatch md)) then
        truth merged.done (branch.2.deferredIPCIDRMatchGroups &&& ~~~merged.satisfied)
      else .no := by
  simp only [setVerdict, hb, evaluateForMerge_eq]
  by_cases hi : b.items.all (·.match env (r.prepareNestedMatch md)) <;> simp [hi]

lemma setVerdict_mergeable (hb : s.mergeableRule = some b) :
    r.setVerdict env outerGroups md s ≠ .no ↔ (∀ i ∈ b.items, i.match env (r.prepareNestedMatch md)) ∧
      (outerGroups.mergeWith (evaluateGroups env b.toDefaultItems (r.prepareNestedMatch md)).1).done = true := by
  rw [setVerdict_some env r outerGroups hb, ← List.all_eq_true]
  split <;> simp_all

lemma setVerdict_other (hs : s.mergeableRule = none) :
    r.setVerdict env outerGroups md s ≠ .no ↔ outerGroups.done = true ∧
      ∃ rule ∈ s.rules, (rule.match env (r.prepareNestedMatch md)).1 = true := by
  have hmatch : (s.match env).verdict (r.prepareNestedMatch md) ≠ .no ↔ _ := s.match_iff env rfl
  cases ho : outerGroups.done
  · simp [setVerdict, hs, ho]
  · simpa [setVerdict, hs, ho] using hmatch

/-- One referenced rule-set: a mergeable one settles the groups of the merge. -/
def visit (s : RuleSet) (md : InboundContext) : Visit :=
  match s.mergeableRule with
  | some branch =>
    match evaluateForMerge env branch.toDefaultItems (r.prepareNestedMatch md) with
    | (some branchGroups, md) =>
      let merged := outerGroups.mergeWith branchGroups
      { matched := merged.done, deferred := md.deferredIPCIDRMatchGroups &&& ~~~merged.satisfied
        settled := merged.satisfied, md }
    | (none, md) => { matched := false, deferred := 0, md }
  | none =>
    if outerGroups.done then (s.match env).visit r.prepareNestedMatch md
    else { matched := false, deferred := 0, md := r.prepareNestedMatch md }

lemma visit_verdict : (r.visit env outerGroups s md).verdict = r.setVerdict env outerGroups md s := by
  cases hm : s.mergeableRule with
  | none => by_cases ho : outerGroups.done <;> simp [visit, setVerdict, hm, ho, Visit.verdict, Matcher.visit, Matcher.verdict]
  | some branch =>
    rcases he : evaluateForMerge env branch.toDefaultItems (r.prepareNestedMatch md) with ⟨_ | branchGroups, md'⟩ <;>
      simp [visit, setVerdict, hm, he, Visit.verdict]

lemma visit_steady (s : RuleSet) : Visit.Steady .resetRuleCache (r.visit env outerGroups s) where
  congr h := by simp only [visit, Matcher.visit, prepareNestedMatch_congr r h]
  frame md := by
    simp only [visit, evaluateForMerge_eq]
    cases s.mergeableRule with
    | none =>
      have hf := resetRuleCache_congr ((s.match_framed env).frame (r.prepareNestedMatch md))
      by_cases ho : outerGroups.done <;> simpa [ho, Matcher.visit] using hf
    | some branch =>
      have hf := resetRuleCache_congr (evaluateGroups_frame env branch.toDefaultItems (r.prepareNestedMatch md))
      by_cases hi : branch.items.all (·.match env (r.prepareNestedMatch md)) <;> simpa [hi] using hf
  defers md := by
    simp only [visit, evaluateForMerge_eq]
    cases s.mergeableRule with
    | none =>
      by_cases ho : outerGroups.done
      · simpa [ho, Matcher.visit] using (s.match_framed env).defers (r.prepareNestedMatch md) .zero
      · simpa [ho] using .zero
    | some branch =>
      by_cases hi : branch.items.all (·.match env (r.prepareNestedMatch md))
      · simpa [hi] using (evaluateGroups_defers env branch.toDefaultItems (.zero)).andNot _
      · simpa [hi] using .zero

lemma visit_settled : (r.visit env outerGroups s md).settled = 0 ∨ ∃ b, s.mergeableRule = some b ∧
    (r.visit env outerGroups s md).settled =
      (outerGroups.mergeWith (evaluateGroups env b.toDefaultItems (r.prepareNestedMatch md)).1).satisfied := by
  cases hm : s.mergeableRule with
  | none => by_cases ho : outerGroups.done <;> simp [visit, hm, ho, Matcher.visit]
  | some b =>
    by_cases hi : b.items.all (·.match env (r.prepareNestedMatch md)) <;> simp [visit, hm, evaluateForMerge_eq, hi]

lemma matchSets_eq (snapshot : RuleMatchSnapshot) (sets : List RuleSet) (matched : Bool) (d : UInt8)
    (md : InboundContext) : r.matchSets env outerGroups snapshot sets matched d md =
      snapshot.finish (anyLoop (r.visit env outerGroups) sets matched d md) := by
  induction sets generalizing matched d md with
  | nil => simp [matchSets, anyLoop, RuleMatchSnapshot.finish]
  | cons s sets ih =>
    simp only [matchSets, anyLoop, ih]
    cases hm : s.mergeableRule with
    | none =>
      by_cases ho : outerGroups.done <;> simp only [visit, Matcher.visit, hm, ho, if_true]
      · split
        · split <;> simp_all [RuleMatchSnapshot.finish]
        · rfl
      · simp
    | some branch =>
      rcases he : evaluateForMerge env branch.toDefaultItems (r.prepareNestedMatch md) with ⟨_ | branchGroups, md'⟩
      · simp [visit, hm, he]
      · simp only [visit, hm, he]
        split
        · split <;> simp_all [RuleMatchSnapshot.finish]
        · rfl

section
variable {md md' : InboundContext} (h : md'.resetRuleCache = md.resetRuleCache)
include h

lemma setVerdict_congr : r.setVerdict env outerGroups md' = r.setVerdict env outerGroups md := by
  funext s
  simp only [setVerdict, prepareNestedMatch_congr r h]

end

lemma matchWithOuterGroups_eq : r.matchWithOuterGroups env outerGroups = fun md =>
    (snapshotRuleMatch md).finish (anyLoop (r.visit env outerGroups) r.setList false 0 md) :=
  funext fun _ => matchSets_eq ..

lemma visits_steady : ∀ s ∈ r.setList, Visit.Steady .resetRuleCache (r.visit env outerGroups s) :=
  fun s _ => r.visit_steady env outerGroups s

lemma matchWithOuterGroups_framed : Framed (r.matchWithOuterGroups env outerGroups) := by
  rw [matchWithOuterGroups_eq]
  exact finish_framed (fun md => (anyLoop_spec (r.visits_steady env outerGroups) 0 md).2.2.1 .zero)
    fun md => (anyLoop_spec (r.visits_steady env outerGroups) 0 md).2.1

lemma visits_verdict (md : InboundContext) : (anyLoop (r.visit env outerGroups) r.setList false 0 md).verdict =
    .any (r.setList.map (r.setVerdict env outerGroups md)) := by
  simpa [visit_verdict] using (anyLoop_spec (r.visits_steady env outerGroups) 0 md).1

/-- The rule-sets' verdicts, one metadata for all, when the rule itself defers nothing. -/
lemma matchWithOuterGroups_verdict (hd : md.deferredIPCIDRMatchGroups = 0) :
    (r.matchWithOuterGroups env outerGroups).verdict md =
      .any (r.setList.map (r.setVerdict env outerGroups md)) := by
  obtain ⟨-, -, -, hs⟩ := anyLoop_spec (r.visits_steady env outerGroups) 0 md
  rw [matchWithOuterGroups_eq]
  exact (finish_verdict hd (hs.imp_right And.left)).trans (r.visits_verdict env outerGroups md)

lemma matchWithOuterGroups_matched (md : InboundContext) : (r.matchWithOuterGroups env outerGroups md).1 = true ↔
    ∃ s ∈ r.setList, r.setVerdict env outerGroups md s ≠ .no := by
  have hno := r.visits_verdict env outerGroups md
  have hmatched : (r.matchWithOuterGroups env outerGroups md).1 =
      (anyLoop (r.visit env outerGroups) r.setList false 0 md).matched := by rw [matchWithOuterGroups_eq]; rfl
  rw [hmatched, ← Bool.not_eq_false, ← truth_eq_no, ← Visit.verdict, hno, Truth.any_eq_no]
  simp

end RuleSetItem

/-! ## Rule trees -/

@[elab_as_elim]
lemma Rule.ind {P : Rule → Prop}
    (default : ∀ items ruleSetItem invert matchResponse, P (.default items ruleSetItem invert matchResponse))
    (logical : ∀ mode rules invert, (∀ r ∈ rules, P r) → P (.logical mode rules invert)) : ∀ r, P r
  | .default items ruleSetItem invert matchResponse => default items ruleSetItem invert matchResponse
  | .logical mode rules invert => logical mode rules invert fun r hr =>
    have := List.sizeOf_lt_of_mem hr
    Rule.ind default logical r

namespace Rule

lemma matchers_eq_map (env : Env) (rules : List Rule) : matchers env rules = rules.map (·.match env) := by
  induction rules with
  | nil => rfl
  | cons r rules ih => simp [matchers, ih]

lemma matchDefault_framed (env : Env) (items : DefaultItems) (ruleSetItem : Option RuleSetItem) (invert : Bool) :
    Framed (matchDefault env items ruleSetItem invert) := by
  refine defaultMatch_framed env items ?_ invert
  cases ruleSetItem with
  | none => exact matchGroups_none_framed
  | some r => exact r.matchWithOuterGroups_framed env

lemma match_framed (env : Env) (r : Rule) : Framed (r.match env) := by
  induction r using Rule.ind with
  | default items ruleSetItem invert matchResponse =>
    cases matchResponse with
    | none => exact matchDefault_framed env items ruleSetItem invert
    | some tag =>
      -- a `match_response` rule works on a copy
      have hcopy (md : InboundContext) :
          (matchForMatch env items ruleSetItem invert (some tag) md).2 = md := by
        simp only [matchForMatch, apply_ite Prod.snd, ite_self]
      exact ⟨fun md => by rw [Rule.match, hcopy], fun md hd => by rwa [Rule.match, hcopy]⟩
  | logical mode rules invert ih =>
    simp only [Rule.match, matchers_eq_map]
    exact logicalMatch_framed mode (List.forall_mem_map.2 ih) invert

lemma matchers_framed (env : Env) (rules : List Rule) : ∀ m ∈ matchers env rules, Framed m := by
  rw [matchers_eq_map]
  exact List.forall_mem_map.2 fun r _ => r.match_framed env

end Rule
end SingBox
