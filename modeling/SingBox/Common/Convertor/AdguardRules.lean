import SingBox.Common.Convertor.Adguard
import SingBox.Lib.Lists
import SingBox.Rule.Groups
import SingBox.Rule.RuleSets
/-!
# The precedence of AdGuard lines

The rules that `ToOptions` nests give AdGuard's verdict if there is an ordinary
blocking line. Without one the innermost rule has no items, and such a rule
matches everything.
-/
namespace SingBox.Adguard
open List Kleene Srs SingBox.HeadlessRule Bool
open HeadlessRule AgdguardRuleLine DefaultItems

/-! ## Rules with domain items only -/

section
variable {env : Env} {strategy : DomainMatchStrategy} {md : InboundContext}

def anyItem (env : Env) (strategy : DomainMatchStrategy) (items : List DomainItem) (md : InboundContext) : Bool :=
  items.any fun item => (item.item strategy).match env md

section
variable (items : List DomainItem)

lemma done_domains : (evaluateGroups env (headlessItems strategy items).toDefaultItems md).1.done =
      (items.isEmpty || anyItem env strategy items md) := by
  rw [Bool.eq_iff_iff, evaluateGroups_groups, RuleGroupMatch.of_done]
  constructor
  · intro h
    have hdest := h .destinationAddress
    cases items with
    | nil => rfl
    | cons item items =>
      rw [isEmpty_cons, Bool.false_or]
      simpa [groupItems, headlessItems, anyItem] using hdest
  · intro h g
    cases g with
    | destinationAddress =>
      cases items with
      | nil => simp [groupItems, headlessItems]
      | cons item items =>
        rw [isEmpty_cons, Bool.false_or] at h
        intro _
        simpa [groupItems, headlessItems, anyItem] using h
    | _ => simp [groupItems, headlessItems]

lemma allItems_length : (headlessItems strategy items).allItems.length = items.length := by
  simp [allItems, headlessItems]

lemma framed_pair (r r' : SingBox.HeadlessRule) : ∀ m ∈ [r.match env, r'.match env], Framed m := by
  simp [match_framed]

lemma verdict_default (invert : Bool) (hd : md.deferredIPCIDRMatchGroups = 0) :
    ((default (headlessItems strategy items) invert).match env).verdict md =
      .ofBool (items.isEmpty || anyItem env strategy items md != invert) := by
  rw [SingBox.HeadlessRule.match, defaultMatch_verdict _ _ _ _ hd, matchInner_verdict]
  have hmd : (evaluateGroups env (headlessItems strategy items).toDefaultItems md).2 = md := by
    simp [evaluateGroups, headlessItems]
  have hnone : (headlessItems strategy items).items = [] := rfl
  rw [allItems_length, hnone, all_nil, if_pos rfl]
  simp only [matchGroups, hmd, hd, done_domains]
  cases items with
  | nil => rfl
  | cons item items =>
    cases hm : anyItem env strategy (item :: items) md <;> cases invert <;> simp [truth, Truth.ofBool, Truth.not]

lemma match_default (md : InboundContext) : ((default (headlessItems strategy items) false).match env md).1 =
      (items.isEmpty || anyItem env strategy items md) := by
  have hdone : (evaluateGroups env (headlessItems strategy items).toDefaultItems md).1.done = _ := done_domains items
  have hnone : (headlessItems strategy items).items = [] := rfl
  cases items with
  | nil => simp [SingBox.HeadlessRule.match, defaultMatch, allItems_length]
  | cons item items =>
    simp [SingBox.HeadlessRule.match, defaultMatch, allItems_length, matchInner, hnone, matchGroups, hdone]

end

/-- The first member of a logical rule and the second, on metadata as it is between them. -/
lemma match_logical (mode : LogicalMode) (r r' : SingBox.HeadlessRule) (md : InboundContext) :
    ((logical mode [r, r'] false).match env md).1 = true ↔
      mode.combine [(r.match env).verdict md.resetRuleCache, (r'.match env).verdict md.resetRuleCache] ≠ .no := by
  have hframed : ∀ m ∈ [r.match env, r'.match env], Framed m := framed_pair r r'
  have hloop := (logicalLoop_spec mode hframed md).1
  rw [map_cons, map_cons, map_nil] at hloop
  have hmatch : ((logical mode [r, r'] false).match env md).1 =
      (logicalLoop mode [r.match env, r'.match env] md).1.1 := by
    simp [SingBox.HeadlessRule.match, SingBox.HeadlessRule.matchers, logicalMatch]
  rw [hmatch, ← hloop, Ne, truth_eq_no, not_eq_false]

lemma verdict_logical (mode : LogicalMode) (r r' : SingBox.HeadlessRule) (md : InboundContext) :
    ((logical mode [r, r'] false).match env).verdict md.resetRuleCache =
      mode.combine [(r.match env).verdict md.resetRuleCache, (r'.match env).verdict md.resetRuleCache] := by
  have hverdict : (logicalMatch mode [r.match env, r'.match env] false).verdict md.resetRuleCache = _ :=
    logicalMatch_verdict mode (framed_pair r r') false rfl
  simpa [SingBox.HeadlessRule.match, SingBox.HeadlessRule.matchers] using hverdict

end

/-! ## Lines -/

/-- What an AdGuard matcher and a domain matcher do by their documentation: one of the patterns matches. -/
structure Library.Documented (lib : Library) (pattern : Str → String → Bool) : Prop where
  adGuard : ∀ patterns d, lib.adGuardMatcher patterns d = patterns.any (pattern · d)

/-- A line matches a domain by its regular expression or its pattern. -/
def AgdguardRuleLine.matches (lib : Library) (pattern : Str → String → Bool) (it : AgdguardRuleLine) (d : String) :
    Bool :=
  if it.isRegexp then (lib.compile (mapDomain it)).any (· d) else pattern (mapDomain it) d

/-- A line that blocks, or an exception, important or ordinary. -/
def AgdguardRuleLine.isKind (isImportant isExclude : Bool) (it : AgdguardRuleLine) : Bool :=
  it.isImportant == isImportant && it.isExclude == isExclude

section
variable (lib : Library) (pattern : Str → String → Bool) (lines : List AgdguardRuleLine)

def anyLine (isImportant isExclude : Bool) (d : String) : Bool :=
  lines.any fun it => it.isKind isImportant isExclude && it.matches lib pattern d

/-- AdGuard's verdict: important exceptions, important blocking lines, exceptions, blocking lines. -/
def blocks (d : String) : Bool :=
  !anyLine lib pattern lines true true d &&
    (anyLine lib pattern lines true false d ||
      (!anyLine lib pattern lines false true d && anyLine lib pattern lines false false d))

def Compiles : Prop := ∀ it ∈ lines, it.isRegexp = true → (lib.compile (mapDomain it)).isSome

def layerItems (isImportant isExclude : Bool) : List DomainItem :=
  let regex := selectLines lines isImportant true isExclude
  let patterns := selectLines lines isImportant false isExclude
  (if regex.isEmpty then [] else [.domainRegex (regex.filterMap lib.compile)]) ++
    if patterns.isEmpty then [] else [.adGuardDomain (lib.adGuardMatcher patterns)]

end

section
variable {lib : Library} {pattern : Str → String → Bool} {lines : List AgdguardRuleLine} {isImportant isExclude : Bool}
  {env : Env} {strategy : DomainMatchStrategy} {md : InboundContext}

lemma compileAll_ok {expressions : List Str} (h : ∀ e ∈ expressions, (lib.compile e).isSome) (i : Nat) :
    compileAll lib i expressions = .ok (expressions.filterMap lib.compile) := by
  induction expressions generalizing i with
  | nil => rfl
  | cons e expressions ih =>
    obtain ⟨he, hrest⟩ := forall_mem_cons.1 h
    obtain ⟨matcher, hm⟩ := Option.isSome_iff_exists.1 he
    rw [compileAll, filterMap_cons, hm]
    rw [ih hrest]
    rfl

lemma mem_selectLines {isRegexp : Bool} {s : Str} (h : s ∈ selectLines lines isImportant isRegexp isExclude) :
    ∃ it ∈ lines, it.isKind isImportant isExclude = true ∧ it.isRegexp = isRegexp ∧ mapDomain it = s := by
  obtain ⟨it, hit, rfl⟩ := mem_map.1 h
  simp only [mem_filter, and_eq_true, beq_iff_eq] at hit
  exact ⟨it, hit.1, by simp [isKind, hit.2], hit.2.1.2, rfl⟩

lemma mapped_strings (l : List Str) : (mapped lib l).strings = l := by
  rw [mapped]
  split
  next h =>
    rw [and_eq_true, List.isEmpty_iff] at h
    rw [h.2]
    rfl
  · rfl

lemma newItems_layer (hc : Compiles lib lines) :
    newItems lib { adGuardDomain := mapped lib (selectLines lines isImportant false isExclude)
                   domainRegex := mapped lib (selectLines lines isImportant true isExclude)
                   invert := isExclude } = .ok (layerItems lib lines isImportant isExclude) := by
  have hregex : ∀ e ∈ selectLines lines isImportant true isExclude, (lib.compile e).isSome := by
    intro e he
    obtain ⟨it, hit, -, hre, rfl⟩ := mem_selectLines he
    exact hc it hit hre
  simp only [newItems, Slice.len, mapped_strings, compileAll_ok hregex, layerItems]
  cases selectLines lines isImportant true isExclude <;> cases selectLines lines isImportant false isExclude <;> rfl

lemma anyLine_eq (d : String) : anyLine lib pattern lines isImportant isExclude d =
    ((selectLines lines isImportant true isExclude).any (fun s => (lib.compile s).any (· d)) ||
      (selectLines lines isImportant false isExclude).any (pattern · d)) := by
  rw [anyLine, selectLines, selectLines, any_map, any_map, any_filter, any_filter, Lists.any_or_any]
  congr 1
  funext it
  cases hre : it.isRegexp <;> simp [AgdguardRuleLine.isKind, AgdguardRuleLine.matches, hre]

lemma anyItem_layer (hdoc : lib.Documented pattern) (hhost : domainHost env strategy md ≠ "") :
    anyItem env strategy (layerItems lib lines isImportant isExclude) md =
      anyLine lib pattern lines isImportant isExclude (env.toLower (domainHost env strategy md)) := by
  have hregex : ∀ l : List Str, (l.filterMap lib.compile).any (· (env.toLower (domainHost env strategy md))) =
      l.any fun s => (lib.compile s).any (· (env.toLower (domainHost env strategy md))) := by
    intro l
    rw [any_filterMap]
    congr 1
  rw [anyLine_eq, ← hregex, ← hdoc.adGuard, layerItems]
  cases selectLines lines isImportant true isExclude <;> cases hp : selectLines lines isImportant false isExclude <;>
    simp [anyItem, DomainItem.item, RuleItem.match, matchDomainHost, hhost, hdoc.adGuard]

lemma layerItems_isEmpty :
    (layerItems lib lines isImportant isExclude).isEmpty = !hasLayer lines isImportant isExclude := by
  rw [layerItems, hasLayer]
  cases selectLines lines isImportant true isExclude <;> cases selectLines lines isImportant false isExclude <;> rfl

lemma hasLayer_iff :
    hasLayer lines isImportant isExclude = true ↔ ∃ it ∈ lines, it.isKind isImportant isExclude = true := by
  constructor
  · intro h
    simp only [hasLayer, or_eq_true, decide_eq_true_eq] at h
    rcases h with h | h <;>
      · obtain ⟨s, hs⟩ := exists_mem_of_length_pos h
        obtain ⟨it, hit, hkind, -⟩ := mem_selectLines hs
        exact ⟨it, hit, hkind⟩
  · rintro ⟨it, hit, hkind⟩
    simp only [isKind, and_eq_true, beq_iff_eq] at hkind
    have hmem : mapDomain it ∈ selectLines lines isImportant it.isRegexp isExclude :=
      mem_map_of_mem (mem_filter.2 ⟨hit, by simp [hkind]⟩)
    have hpos := length_pos_of_mem hmem
    cases hre : it.isRegexp <;> simp [hasLayer, hre ▸ hpos]

lemma anyLine_of_not_hasLayer (h : hasLayer lines isImportant isExclude = false) (d : String) :
    anyLine lib pattern lines isImportant isExclude d = false := by
  rw [anyLine, any_eq_false]
  intro it hit hmatch
  rw [and_eq_true] at hmatch
  rw [hasLayer_iff.2 ⟨it, hit, hmatch.1⟩] at h
  cases h

/-! ## Nested rules -/

/-- The options become a rule whose verdict is `v`, on its own and inside another rule. -/
def Builds (lib : Library) (strategy : DomainMatchStrategy) (env : Env) (md : InboundContext) (rule : HeadlessRule)
    (v : Bool) : Prop :=
  rule.isValid = true ∧ ∃ r, newHeadlessRule lib strategy rule = .ok r ∧
    (r.match env).verdict md.resetRuleCache = .ofBool v ∧ (r.match env md).1 = v

lemma layer_isValid :
    (layer lib lines isImportant isExclude).isValid = (!lib.emptyIsNil || hasLayer lines isImportant isExclude) := by
  rw [layer, isValid, DefaultHeadlessRule.isValid, mapped, mapped, hasLayer]
  cases lib.emptyIsNil <;> cases selectLines lines isImportant true isExclude <;>
    cases selectLines lines isImportant false isExclude <;> simp

lemma newHeadlessRule_layer (hc : Compiles lib lines) (hv : (layer lib lines isImportant isExclude).isValid = true) :
    newHeadlessRule lib strategy (layer lib lines isImportant isExclude) =
      .ok (.default (headlessItems strategy (layerItems lib lines isImportant isExclude)) isExclude) := by
  rw [layer, isValid] at hv
  rw [layer, newHeadlessRule, hv, newDefaultHeadlessRule, newItems_layer hc]
  rfl

section
variable (hdoc : lib.Documented pattern) (hc : Compiles lib lines) (hhost : domainHost env strategy md ≠ "")
include hdoc hhost
include hc in
lemma builds_layer (hv : (layer lib lines false false).isValid = true) :
    Builds lib strategy env md (layer lib lines false false) (!hasLayer lines false false ||
      anyLine lib pattern lines false false (env.toLower (domainHost env strategy md))) := by
  refine ⟨hv, _, newHeadlessRule_layer hc hv, ?_, ?_⟩
  · have hhost' : domainHost env strategy md.resetRuleCache ≠ "" := hhost
    rw [verdict_default _ _ rfl, layerItems_isEmpty, anyItem_layer hdoc hhost', bne_false]
    rfl
  · rw [match_default, layerItems_isEmpty, anyItem_layer hdoc hhost]

lemma verdict_layer (hl : hasLayer lines isImportant isExclude = true) :
    ((default (headlessItems strategy (layerItems lib lines isImportant isExclude))
      isExclude).match env).verdict md.resetRuleCache =
      .ofBool (anyLine lib pattern lines isImportant isExclude (env.toLower (domainHost env strategy md)) !=
        isExclude) := by
  have hhost' : domainHost env strategy md.resetRuleCache ≠ "" := hhost
  rw [verdict_default _ _ rfl, layerItems_isEmpty, hl, anyItem_layer hdoc hhost']
  rfl

include hc in
lemma Builds.logical {mode : LogicalMode} {rule : HeadlessRule} {v w : Bool}
    (hl : hasLayer lines isImportant isExclude = true) (h : Builds lib strategy env md rule v)
    (hw : mode.combine [.ofBool (anyLine lib pattern lines isImportant isExclude
      (env.toLower (domainHost env strategy md)) != isExclude), .ofBool v] = .ofBool w) :
    Builds lib strategy env md (.logical mode [layer lib lines isImportant isExclude, rule]) w := by
  obtain ⟨hvalid, r, hnew, hverdict, -⟩ := h
  have hlayer : (layer lib lines isImportant isExclude).isValid = true := by rw [layer_isValid, hl, Bool.or_true]
  have hall : (HeadlessRule.logical mode [layer lib lines isImportant isExclude, rule]).isValid = true := by
    simp [HeadlessRule.isValid, HeadlessRule.allValid, hlayer, hvalid]
  refine ⟨hall, .logical mode
    [.default (headlessItems strategy (layerItems lib lines isImportant isExclude)) isExclude, r] false, ?_, ?_, ?_⟩
  · rw [newHeadlessRule, hall, newRules, newHeadlessRule_layer hc hlayer]
    rw [newRules, hnew]
    rfl
  · rw [verdict_logical, verdict_layer hdoc hhost hl, hverdict, hw]
  · rw [Bool.eq_iff_iff, match_logical, verdict_layer hdoc hhost hl, hverdict, hw, Truth.ofBool_ne_no]

include hc in
lemma builds_nestedRule (hv : (layer lib lines false false).isValid = true) :
    Builds lib strategy env md (nestedRule lib lines)
      (!anyLine lib pattern lines true true (env.toLower (domainHost env strategy md)) &&
        (anyLine lib pattern lines true false (env.toLower (domainHost env strategy md)) ||
          (!anyLine lib pattern lines false true (env.toLower (domainHost env strategy md)) &&
            (!hasLayer lines false false ||
              anyLine lib pattern lines false false (env.toLower (domainHost env strategy md)))))) := by
  have hexclude : ∀ {isImportant : Bool} {rule : HeadlessRule} {v : Bool}, Builds lib strategy env md rule v →
      Builds lib strategy env md
        (if hasLayer lines isImportant true then .logical .and [layer lib lines isImportant true, rule] else rule)
        (!anyLine lib pattern lines isImportant true (env.toLower (domainHost env strategy md)) && v) := by
    intro isImportant rule v h
    split
    next hl =>
      refine h.logical hdoc hc hhost hl ?_
      rw [LogicalMode.combine, Truth.all_cons, Truth.all_cons, Truth.all_nil, Truth.and_yes, Truth.ofBool_and,
        bne_true]
    next hl =>
      rw [anyLine_of_not_hasLayer (Bool.eq_false_iff.2 hl), Bool.not_false, Bool.true_and]
      exact h
  have himportant : ∀ {rule : HeadlessRule} {v : Bool}, Builds lib strategy env md rule v →
      Builds lib strategy env md
        (if hasLayer lines true false then .logical .or [layer lib lines true false, rule] else rule)
        (anyLine lib pattern lines true false (env.toLower (domainHost env strategy md)) || v) := by
    intro rule v h
    split
    next hl =>
      refine h.logical hdoc hc hhost hl ?_
      rw [LogicalMode.combine, Truth.any_cons, Truth.any_cons, Truth.any_nil, Truth.or_no, Truth.ofBool_or,
        bne_false]
    next hl =>
      rw [anyLine_of_not_hasLayer (Bool.eq_false_iff.2 hl), Bool.false_or]
      exact h
  exact hexclude (himportant (hexclude (builds_layer hdoc hc hhost hv)))

end

lemma nestedRule_isValid : (nestedRule lib lines).isValid = (layer lib lines false false).isValid := by
  have hwrap : ∀ {isImportant isExclude : Bool} (mode : LogicalMode) (rule : HeadlessRule),
      (if hasLayer lines isImportant isExclude then
        logical mode [layer lib lines isImportant isExclude, rule] else rule).isValid = rule.isValid := by
    intro isImportant isExclude mode rule
    split
    next hl => simp [isValid, allValid, layer_isValid, hl]
    · rfl
  rw [nestedRule, hwrap, hwrap, hwrap]

lemma newHeadlessRule_invalid {rule : HeadlessRule} (h : rule.isValid = false) :
    newHeadlessRule lib strategy rule = .error .missingConditions := by
  cases rule with
  | default options =>
    rw [isValid] at h
    rw [newHeadlessRule, h]
    rfl
  | logical mode rules =>
    rw [newHeadlessRule, h]
    rfl

lemma toOptions_nested {text : Str} (hlines : ruleLines lib text = .ok lines)
    (hmixed : ∃ it ∈ lines, it.isRawDomain = false) : toOptions lib text = .ok [nestedRule lib lines] := by
  obtain ⟨it, hit, hraw⟩ := hmixed
  have hlength : lines.length ≠ 0 := Nat.pos_iff_ne_zero.1 (length_pos_of_mem hit)
  have hall : lines.all (·.isRawDomain) = false := all_eq_false.2 ⟨it, hit, by simp [hraw]⟩
  rw [toOptions, hlines]
  change (if lines.length = 0 then _ else _) = _
  rw [if_neg hlength, hall]
  rfl

lemma exists_matches_iff {d : String} : (∃ it ∈ lines, it.matches lib pattern d = true) ↔
    (anyLine lib pattern lines true true d || (anyLine lib pattern lines true false d ||
      (anyLine lib pattern lines false true d || anyLine lib pattern lines false false d))) = true := by
  rw [anyLine, anyLine, anyLine, anyLine, Lists.any_or_any, Lists.any_or_any, Lists.any_or_any, any_eq_true]
  refine exists_congr fun it => and_congr_right fun _ => ?_
  cases hi : it.isImportant <;> cases he : it.isExclude <;> simp [isKind, hi, he]

/-- The rule of a filter list gives AdGuard's verdict on a domain exactly if the list has an ordinary blocking line or
some line matches the domain. -/
theorem adguard_precedence (lib : Library) (pattern : Str → String → Bool) (hdoc : lib.Documented pattern)
    (strategy : DomainMatchStrategy) (env : Env) (md : InboundContext) (hhost : domainHost env strategy md ≠ "")
    (text : Str) (lines : List AgdguardRuleLine) (hlines : ruleLines lib text = .ok lines)
    (hmixed : ∃ it ∈ lines, it.isRawDomain = false) (hc : Compiles lib lines) :
    (∃ rule r, toOptions lib text = .ok [rule] ∧ newHeadlessRule lib strategy rule = .ok r ∧
      (r.match env md).1 = blocks lib pattern lines (env.toLower (domainHost env strategy md))) ↔
    (∃ it ∈ lines, it.isKind false false = true) ∨
      (lib.emptyIsNil = false ∧
        ∃ it ∈ lines, it.matches lib pattern (env.toLower (domainHost env strategy md)) = true) := by
  rw [toOptions_nested hlines hmixed, ← hasLayer_iff, exists_matches_iff]
  cases hv : (layer lib lines false false).isValid with
  | false =>
    -- the rule cannot be built
    have hinvalid : (nestedRule lib lines).isValid = false := nestedRule_isValid.trans hv
    rw [layer_isValid, or_eq_false_iff, not_eq_false'] at hv
    constructor
    · rintro ⟨rule, r, heq, hnew, -⟩
      cases heq
      rw [newHeadlessRule_invalid hinvalid] at hnew
      cases hnew
    rintro (hl | ⟨hnil, -⟩)
    · rw [hv.2] at hl
      cases hl
    rw [hv.1] at hnil
    cases hnil
  | true =>
    obtain ⟨-, r, hnew, -, hmatch⟩ := builds_nestedRule hdoc hc hhost hv
    have hiff : (∃ rule r, (Except.ok [nestedRule lib lines] : Except Error _) = .ok [rule] ∧
        newHeadlessRule lib strategy rule = .ok r ∧
        (r.match env md).1 = blocks lib pattern lines (env.toLower (domainHost env strategy md))) ↔
        (r.match env md).1 = blocks lib pattern lines (env.toLower (domainHost env strategy md)) := by
      constructor
      · rintro ⟨rule, r', heq, hnew', hm⟩
        cases heq
        rw [hnew] at hnew'
        cases hnew'
        exact hm
      · exact fun hm => ⟨_, r, rfl, hnew, hm⟩
    rw [hiff, hmatch, blocks]
    cases hl : hasLayer lines false false with
    | true => simp
    | false =>
      rw [layer_isValid, hl, Bool.or_false, Bool.not_eq_true'] at hv
      rw [anyLine_of_not_hasLayer hl]
      cases anyLine lib pattern lines true true (env.toLower (domainHost env strategy md)) <;>
        cases anyLine lib pattern lines true false (env.toLower (domainHost env strategy md)) <;>
        cases anyLine lib pattern lines false true (env.toLower (domainHost env strategy md)) <;> simp [hv]

end

/-- Names of ASCII letters, digits, hyphens and dots; a regular expression is a literal, a pattern matches a name that
ends with it. -/
def sampleLibrary : Library where
  isDomainName s := !s.isEmpty && s.all fun c =>
    (97 ≤ c && c ≤ 122) || (65 ≤ c && c ≤ 90) || (48 ≤ c && c ≤ 57) || c == 45 || c == 46 || c == 95
  isUnspecified s := s == bytes "0.0.0.0"
  parseAddr s := if s = bytes "0.0.0.0" then some true else none
  emptyIsNil := false
  compile s := some fun d => Text.contains s (bytes d)
  domainMatcher names d := names.contains (bytes d)
  adGuardMatcher patterns d := patterns.any fun p => (p.filter fun c => c != 124 && c != 94).isSuffixOf (bytes d)

def samplePattern (p : Str) (d : String) : Bool := (p.filter fun c => c != 124 && c != 94).isSuffixOf (bytes d)

lemma sampleLibrary_documented : sampleLibrary.Documented samplePattern := ⟨fun _ _ => rfl⟩

theorem adguard_precedence_exception :
    (∃ rule r, toOptions sampleLibrary (bytes "||a.b^\n@@||c.a.b^\n") = .ok [rule] ∧
      newHeadlessRule sampleLibrary .asIS rule = .ok r ∧
      (r.match Env.bare { domain := "c.a.b" }).1 = blocks sampleLibrary samplePattern
        [{ ruleLine := bytes "a.b", isSuffix := true, hasEnd := true },
          { ruleLine := bytes "c.a.b", isExclude := true, isSuffix := true, hasEnd := true }] "c.a.b") :=
  (adguard_precedence sampleLibrary samplePattern sampleLibrary_documented .asIS Env.bare { domain := "c.a.b" }
    (by decide) _ _ (by decide +kernel) ⟨_, mem_cons_self, rfl⟩ fun _ _ _ => rfl).2
    (.inl ⟨_, mem_cons_self, rfl⟩)

/-- A list with one important line blocks a domain that the line does not match. -/
theorem adguard_important_blocks_all : ∃ rule r, ruleLines sampleLibrary (bytes "||a.b^$important\n") =
      .ok [{ ruleLine := bytes "a.b", isSuffix := true, hasEnd := true, isImportant := true }] ∧
    toOptions sampleLibrary (bytes "||a.b^$important\n") = .ok [rule] ∧
    newHeadlessRule sampleLibrary .asIS rule = .ok r ∧
    blocks sampleLibrary samplePattern
      [{ ruleLine := bytes "a.b", isSuffix := true, hasEnd := true, isImportant := true }] "c.d" = false ∧
    (r.match Env.bare { domain := "c.d" }).1 = true := by
  have hlines : ruleLines sampleLibrary (bytes "||a.b^$important\n") =
      .ok [{ ruleLine := bytes "a.b", isSuffix := true, hasEnd := true, isImportant := true }] := by decide +kernel
  have hhost : domainHost Env.bare .asIS { domain := "c.d" } ≠ "" := by decide
  have hc : Compiles sampleLibrary
      [{ ruleLine := bytes "a.b", isSuffix := true, hasEnd := true, isImportant := true }] := fun _ _ _ => rfl
  obtain ⟨-, r, hnew, -, hmatch⟩ := builds_nestedRule sampleLibrary_documented hc hhost (by decide +kernel)
  exact ⟨_, r, hlines, toOptions_nested hlines ⟨_, mem_cons_self, rfl⟩, hnew, by decide +kernel,
    hmatch.trans (by decide +kernel)⟩

end SingBox.Adguard
