import SingBox.Dns.Responses
/-!
# What validation gives

The facts about a rule list that `validateLegacyDNSModeDisabledRules` accepts.
-/
namespace SingBox.Dns
open List
variable {respond : Bool} {use : ResponseUse} {rule : Rule} {index : Nat} {v v' : Validation} {rules : List DNSRule}

lemma except_bind_ok {ε α β : Type} {x : Except ε α} {f : α → Except ε β} {b : β} (h : (x >>= f) = .ok b) :
    ∃ a, x = .ok a ∧ f a = .ok b := by
  cases x with
  | error e => cases h
  | ok a => exact ⟨a, rfl, h⟩

def RuleAction.evaluateTag : RuleAction → String
  | .evaluate _ tag .. => tag
  | _ => ""

/-- A rule list the walk may rely on. -/
structure Validated (rules : List DNSRule) : Prop where
  ready : ∀ rule ∈ rules, rule.rule.ResponseReady
  /-- `respond` without a tag of its own binds the anonymous response, if it binds anything. -/
  respond : ∀ rule ∈ rules, rule.action = .respond → rule.rule.matchResponseTag = "" → hasBindings rule.rule = true →
    rule.rule.matchResponseAnonymous = true
  /-- Evaluate tags are unique. -/
  tags : rules.Pairwise fun a b => a.action.evaluateTag ≠ "" → b.action.evaluateTag ≠ a.action.evaluateTag

lemma validateDefaultRule_ok {items : DefaultItems} {ruleSetItem : Option RuleSetItem} (invert : Bool)
    {matchResponse : Option String}
    (h : validateDefaultRule items ruleSetItem matchResponse respond = .ok use) :
    (Rule.default items ruleSetItem invert matchResponse).ResponseReady ∧
      use.referencedTags = (Rule.default items ruleSetItem invert matchResponse).matchResponseTags := by
  simp only [validateDefaultRule] at h
  split at h
  · cases h
  next hfields =>
    split at h
    · cases h
    split at h
    · cases h
    · cases h
      refine ⟨.default fun hnone i hi => ?_, ?_⟩
      · by_contra hrecord
        simp only [Bool.not_eq_false] at hrecord
        refine hfields ?_
        simp only [hnone, Option.isNone_none, Bool.and_true, any_eq_true]
        exact ⟨i, hi, by simp [hrecord]⟩
      · simp [Rule.matchResponseTags]

lemma validateRuleTree_ok (h : validateRuleTree rule respond = .ok use) :
    rule.ResponseReady ∧ ∀ tag ∈ rule.matchResponseTags, tag ∈ use.referencedTags := by
  induction rule using Rule.ind generalizing respond use with
  | default items ruleSetItem invert matchResponse =>
    rw [validateRuleTree] at h
    obtain ⟨hready, htags⟩ := validateDefaultRule_ok invert h
    exact ⟨hready, fun tag ht => htags ▸ ht⟩
  | logical mode rules invert ih =>
    have hsub : ∀ {index : Nat} {use : ResponseUse}, validateSubRules index rules = .ok use →
        (∀ r ∈ rules, r.ResponseReady) ∧ ∀ tag ∈ Rule.matchResponseTagsOf rules, tag ∈ use.referencedTags := by
      clear h
      induction rules with
      | nil => exact fun _ => ⟨by simp, by simp [Rule.matchResponseTagsOf]⟩
      | cons r rules ihrules =>
        intro index use h
        rw [validateSubRules] at h
        split at h
        · cases h
        next use' hr =>
          obtain ⟨rest, hrest, h⟩ := except_bind_ok h
          cases h
          obtain ⟨hready, htags⟩ := ih r mem_cons_self hr
          obtain ⟨hreadys, htagss⟩ := ihrules (fun r hr => ih r (mem_cons_of_mem _ hr)) hrest
          refine ⟨forall_mem_cons.2 ⟨hready, hreadys⟩, fun tag ht => ?_⟩
          rw [Rule.matchResponseTagsOf, mem_append] at ht
          exact mem_append.2 (ht.imp (htags tag) (htagss tag))
    rw [validateRuleTree] at h
    obtain ⟨use', hrules, h⟩ := except_bind_ok h
    obtain ⟨hready, htags⟩ := hsub hrules
    have hreferenced : use.referencedTags = use'.referencedTags := by
      split at h
      · split at h
        · cases h
        · rw [← Except.ok.inj h]
      · rw [← Except.ok.inj h]
    refine ⟨.logical hready, fun tag ht => ?_⟩
    rw [Rule.matchResponseTags, mem_eraseDups] at ht
    exact hreferenced ▸ htags tag ht

/-- A `respond` rule that has bindings but no tag of its own binds the anonymous response. -/
lemma validateRuleTree_respond (h : validateRuleTree rule true = .ok use)
    (htag : rule.matchResponseTag = "") (hb : hasBindings rule = true) : rule.matchResponseAnonymous = true := by
  obtain ⟨-, htags⟩ := validateRuleTree_ok h
  rw [hasBindings, Bool.or_eq_true] at hb
  refine hb.resolve_left fun hlen => ?_
  obtain ⟨tag, ht⟩ := exists_mem_of_length_pos (of_decide_eq_true hlen)
  cases rule with
  | default items ruleSetItem invert matchResponse =>
    cases matchResponse with
    | none => simp [Rule.matchResponseTags] at ht
    | some tag' =>
      obtain rfl : tag' = "" := htag
      simp [Rule.matchResponseTags] at ht
  | logical mode rules invert =>
    have hmem := htags tag ht
    rw [validateRuleTree] at h
    obtain ⟨use', -, h⟩ := except_bind_ok h
    simp only [if_true] at h
    split at h
    · cases h
    next hzero =>
      rw [← Except.ok.inj h] at hmem
      simp only [gt_iff_lt, length_pos_iff, ne_eq, not_not] at hzero
      simp [hzero] at hmem

lemma validateRule_ok {rule : DNSRule} (h : validateRule index v rule = .ok v') :
    (∃ use, validateRuleTree rule.rule (rule.action = .respond) = .ok use) ∧
      (rule.action.evaluateTag ≠ "" → rule.action.evaluateTag ∉ v.definedTags) ∧
      v'.definedTags = v.definedTags ++ (if rule.action.evaluateTag = "" then [] else [rule.action.evaluateTag]) := by
  rw [validateRule] at h
  obtain ⟨use, huse, h⟩ := except_bind_ok h
  refine ⟨?_, ?_⟩
  · cases hok : validateRuleTree rule.rule (rule.action = .respond) with
    | ok use' => exact ⟨use', rfl⟩
    | error e => simp [hok, Except.mapError] at huse
  split at h
  · split at h <;> cases h
  split at h
  · cases h
  split at h
  next tag _ _ haction =>
    simp only [haction, RuleAction.evaluateTag]
    split at h
    next htag =>
      rw [← Except.ok.inj h]
      simp [htag]
    next htag =>
      split at h
      · cases h
      next hdup =>
        rw [← Except.ok.inj h]
        simp only [contains_iff_mem] at hdup
        exact ⟨fun _ => hdup, by simp [htag]⟩
  next haction =>
    rw [← Except.ok.inj h]
    have : rule.action.evaluateTag = "" := by
      cases hact : rule.action with
      | evaluate server tag options speculative => exact absurd hact (haction server tag options speculative)
      | _ => rfl
    simp [this]

lemma validateLoop_ok (h : validateLoop index v rules = .ok v') :
    Validated rules ∧ ∀ rule ∈ rules, rule.action.evaluateTag ≠ "" → rule.action.evaluateTag ∉ v.definedTags := by
  induction rules generalizing index v with
  | nil => exact ⟨⟨by simp, by simp, List.Pairwise.nil⟩, by simp⟩
  | cons rule rules ih =>
    rw [validateLoop] at h
    obtain ⟨v₁, hrule, h⟩ := except_bind_ok h
    obtain ⟨⟨use, huse⟩, hfresh, hdefined⟩ := validateRule_ok hrule
    obtain ⟨hrest, hnew⟩ := ih h
    refine ⟨⟨forall_mem_cons.2 ⟨(validateRuleTree_ok huse).1, hrest.ready⟩,
      forall_mem_cons.2 ⟨fun haction => ?_, hrest.respond⟩,
      pairwise_cons.2 ⟨fun b hb hne heq => ?_, hrest.tags⟩⟩,
      forall_mem_cons.2 ⟨hfresh, fun b hb hne hmem => hnew b hb hne ?_⟩⟩
    · rw [decide_eq_true haction] at huse
      exact validateRuleTree_respond huse
    · refine hnew b hb (heq ▸ hne) ?_
      rw [heq, hdefined, if_neg hne]
      exact mem_append_right _ (mem_singleton_self _)
    · rw [hdefined]
      exact mem_append_left _ hmem

lemma validate_ok (h : validateLegacyDNSModeDisabledRules rules = .ok v) :
    Validated rules :=
  (validateLoop_ok h).1

end SingBox.Dns
