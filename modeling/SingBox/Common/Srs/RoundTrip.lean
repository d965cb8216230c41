import SingBox.Common.Srs.Items
/-!
# Reading what was written

What `Read` makes of the output of `Write`: the same tree of rules, unless the
version is unknown to it or an interface address is a nil pointer.
-/
open Decoder

namespace SingBox.Srs
open List
variable {Matcher AdGuardMatcher : Type} {lib : Libraries Matcher AdGuardMatcher}
  {rules : List (HeadlessRule Matcher AdGuardMatcher)}

/-! ## The same rules -/

/-- `set` is the set of the addresses that the prefixes hold, and there is one if there are prefixes. -/
def Denotes (set : Option IPSet) (value : List (Option Prefix)) : Prop :=
  match set with
  | none => value = []
  | some s => value ≠ [] ∧ ∀ a : Addr, a.isValid = true →
      (s.contains a = true ↔ ∃ p ∈ value, (build p).contains a = true)

/-- `b` is what the default rule `a` of the source format means in the binary format: what the format
stores as it is stays the same, domains are in the matchers, addresses in the sets. -/
structure SameDefault (lib : Libraries Matcher AdGuardMatcher) (recover : Bool) (v : UInt8)
    (a b : DefaultHeadlessRule Matcher AdGuardMatcher) : Prop where
  plain : b.toPlainItems = a.toPlainItems
  domainMatcher : b.domainMatcher = builtMatcher lib v a
  adGuardDomainMatcher : b.adGuardDomainMatcher = builtAdGuardMatcher lib a
  sourceIPSet : Denotes b.sourceIPSet a.sourceIPCIDR
  ipSet : Denotes b.ipSet a.ipCIDR
  domain : b.domain = recovered recover (fun m => (lib.dumpMatcher m).1) b.domainMatcher []
  domainSuffix : b.domainSuffix = recovered recover (fun m => (lib.dumpMatcher m).2) b.domainMatcher []
  adGuardDomain : b.adGuardDomain = recovered recover lib.dumpAdGuardMatcher b.adGuardDomainMatcher []
  sourceIPCIDR : b.sourceIPCIDR = recovered recover (fun s => (lib.prefixes s).map some) b.sourceIPSet []
  ipCIDR : b.ipCIDR = recovered recover (fun s => (lib.prefixes s).map some) b.ipSet []

inductive SameRule (lib : Libraries Matcher AdGuardMatcher) (recover : Bool) (v : UInt8) :
    HeadlessRule Matcher AdGuardMatcher → HeadlessRule Matcher AdGuardMatcher → Prop where
  | default {a b : DefaultHeadlessRule Matcher AdGuardMatcher} :
      SameDefault lib recover v a b → SameRule lib recover v (.default a) (.default b)
  | logical {mode : String} {rules rules' : List (HeadlessRule Matcher AdGuardMatcher)}
      {strategy : DomainMatchStrategy} {invert : Bool} : List.Forall₂ (SameRule lib recover v) rules rules' →
      SameRule lib recover v (.logical mode rules strategy invert) (.logical mode rules' strategy invert)

open HeadlessRule

lemma denotes_builtSet (h : lib.Documented) {value : List (Option Prefix)} {item : ItemType} {message : String}
    {chunk : List UInt8}
    (hw : writeIf (value.length > 0) (writeCause message (writeRuleItemCIDR lib item value)) = .ok chunk) :
    Denotes (builtSet lib value) value := by
  unfold builtSet
  by_cases hc : value.length > 0
  · simp only [writeIf, hc, decide_true, if_true, writeRuleItemCIDR] at hw ⊢
    cases hm : lib.buildIPSet (value.map build) with
    | error e => simp [hm, bind, Except.bind, writeCause] at hw
    | ok set =>
      refine ⟨ne_nil_of_length_pos hc, fun a ha => ?_⟩
      rw [fromIPSet_contains set ha, h.buildIPSet _ _ hm a ha]
      simp
  · rw [if_neg hc]
    exact length_eq_zero_iff.1 (by omega)

lemma readable_iff {recover : Bool} {v : UInt8} {rule : DefaultHeadlessRule Matcher AdGuardMatcher} :
    (∀ spec ∈ itemSpecs lib recover v rule, spec.readable) ↔ rule.NoNilAddress := by
  unfold itemSpecs domainSpec adGuardDomainSpec PlainItems.NoNilAddress PlainItems.interfaceAddresses
  simp only [forall_mem_cons, forall_mem_map, not_mem_nil, false_imp_iff, implies_true, and_true, true_and]
  exact and_comm

section Default
variable {recover : Bool} {v : UInt8} {rule : DefaultHeadlessRule Matcher AdGuardMatcher} {bytes : List UInt8}

lemma writeDefaultRule_ok (hw : writeDefaultRule lib v rule = .ok bytes) : ∃ chunks : List (List UInt8),
    (writeItems lib v rule).mapM id = .ok chunks ∧
      bytes = [0] ++ (chunks.flatten ++ [ItemType.final.toByte, boolByte rule.invert]) := by
  unfold writeDefaultRule at hw
  cases hm : (writeItems lib v rule).mapM id with
  | error e => simp [hm, bind, Except.bind] at hw
  | ok chunks =>
    simp only [hm, bind, Except.bind, pure, Except.pure, Except.ok.injEq] at hw
    exact ⟨chunks, rfl, hw.symm⟩

lemma readBool_boolByte (b : Bool) : Reads readBool [boolByte b] b := by
  have := (reads_byte (boolByte b)).map (· != 0)
  cases b <;> exact this

lemma readItems_final (fuel : Nat) (last : UInt8) (r : DefaultHeadlessRule Matcher AdGuardMatcher) (b : Bool)
    (rest : List UInt8) : (readItems lib recover (fuel + 1) last r).run ([ItemType.final.toByte, boolByte b] ++ rest) =
      .ok ({ r with invert := b }, rest) := by
  have h := (readBool_boolByte b).map (fun b => { r with invert := b })
  exact ((reads_byte ItemType.final.toByte).bind (f := fun _ => readItem lib recover .final r) h) rest

lemma sameDefault_foldl (h : lib.Documented) (hstrategy : rule.domainMatchStrategy = .asIS)
    {chunks : List (List UInt8)} (hw : (writeItems lib v rule).mapM id = .ok chunks) : SameDefault lib recover v rule
      { (itemSpecs lib recover v rule).foldl (fun r spec => spec.update r) {} with invert := rule.invert } := by
  have hplain : ({ (itemSpecs lib recover v rule).foldl (fun r spec => spec.update r) {} with
      invert := rule.invert } : DefaultHeadlessRule Matcher AdGuardMatcher).toPlainItems = rule.toPlainItems := by
    have hmap : (if rule.networkInterfaceAddress.entries.length > 0 then rule.networkInterfaceAddress else {}) =
        rule.networkInterfaceAddress := by
      split
      · rfl
      next hn => exact TypedMap.ext_entries (length_eq_zero_iff.1 (by omega)).symm
    simp only [itemSpecs, domainSpec, adGuardDomainSpec, foldl_cons, foldl_nil, overwrite_nil, hmap, Bool.or_false, ← hstrategy]
  refine ⟨hplain, Option.or_none, Option.or_none, ?_, ?_, ?_, ?_, ?_, ?_, ?_⟩
  · obtain ⟨chunk, hc⟩ := Lists.mapM_ok_mem hw (by simp [writeItems] : writeIf (rule.sourceIPCIDR.length > 0)
      (writeCause "source_ip_cidr" (writeRuleItemCIDR lib .sourceIPCIDR rule.sourceIPCIDR)) ∈ _)
    simpa [itemSpecs] using denotes_builtSet h hc
  · obtain ⟨chunk, hc⟩ := Lists.mapM_ok_mem hw (by simp [writeItems] : writeIf (rule.ipCIDR.length > 0)
      (writeCause "ipcidr" (writeRuleItemCIDR lib .ipCIDR rule.ipCIDR)) ∈ _)
    simpa [itemSpecs] using denotes_builtSet h hc
  all_goals simp [itemSpecs]

variable (recover) (h : lib.Documented) (hp : rule.Parsed) (hw : writeDefaultRule lib v rule = .ok bytes)
include h hp hw

lemma reads_readDefaultRule (hn : rule.NoNilAddress) (hstrategy : rule.domainMatchStrategy = .asIS) :
    ∃ body rule', bytes = [0] ++ body ∧ SameDefault lib recover v rule rule' ∧
      Reads (readDefaultRule lib recover) body rule' := by
  obtain ⟨chunks, hchunks, rfl⟩ := writeDefaultRule_ok hw
  refine ⟨_, _, rfl, sameDefault_foldl h hstrategy hchunks, fun rest => ?_⟩
  have hdesc := describes_of_meets (@meets_itemSpecs _ _ lib recover v rule h hp) hchunks
  obtain ⟨fuel, last, hpos, hrun⟩ := readItems_chunks hdesc (readable_iff.2 hn)
    ((chunks.flatten ++ [ItemType.final.toByte, boolByte rule.invert] ++ rest).length + 1) 0 {}
    (by simp only [length_append]; omega)
  obtain ⟨fuel, rfl⟩ : ∃ n, fuel = n + 1 := ⟨fuel - 1, by omega⟩
  rw [← readItems_final fuel last, ← hrun, ← append_assoc]
  rfl

lemma rejects_readDefaultRule (hn : ¬ rule.NoNilAddress) :
    ∃ body, bytes = [0] ++ body ∧ Rejects (readDefaultRule lib recover) body := by
  obtain ⟨chunks, hchunks, rfl⟩ := writeDefaultRule_ok hw
  refine ⟨_, rfl, fun rest => ?_⟩
  have hdesc := describes_of_meets (@meets_itemSpecs _ _ lib recover v rule h hp) hchunks
  have hbad : ∃ spec ∈ itemSpecs lib recover v rule, ¬ spec.readable := by
    by_contra hall
    exact hn (readable_iff.1 fun spec hs => not_not.1 fun hr => hall ⟨spec, hs, hr⟩)
  rw [append_assoc]
  exact readItems_rejects hdesc hbad _ 0 {} (by simp only [length_append]; omega) _

end Default

/-! ## Trees -/

namespace HeadlessRule

mutual

def levels : HeadlessRule Matcher AdGuardMatcher → Nat
  | .default _ => 0
  | .logical _ rules _ _ => levelsList rules + 1
  | .unknown _ => 0

def levelsList : List (HeadlessRule Matcher AdGuardMatcher) → Nat
  | [] => 0
  | rule :: rules => max rule.levels (levelsList rules)

end

mutual

/-- `p` holds of every default rule of the tree and `q` of the length of every list of rules. -/
def Every (p : DefaultHeadlessRule Matcher AdGuardMatcher → Prop) (q : Nat → Prop) :
    HeadlessRule Matcher AdGuardMatcher → Prop
  | .default options => p options
  | .logical _ rules _ _ => q rules.length ∧ EveryList p q rules
  | .unknown _ => True

def EveryList (p : DefaultHeadlessRule Matcher AdGuardMatcher → Prop) (q : Nat → Prop) :
    List (HeadlessRule Matcher AdGuardMatcher) → Prop
  | [] => True
  | rule :: rules => rule.Every p q ∧ EveryList p q rules

end

def Parsed (rule : HeadlessRule Matcher AdGuardMatcher) : Prop := rule.Every (·.Parsed) (· < 2 ^ 63)
def NoNilAddress (rule : HeadlessRule Matcher AdGuardMatcher) : Prop := rule.Every (·.NoNilAddress) fun _ => True

lemma levels_le {rule : HeadlessRule Matcher AdGuardMatcher} (h : rule ∈ rules) : rule.levels ≤ levelsList rules := by
  induction rules with
  | nil => cases h
  | cons r rules ih =>
    rw [levelsList]
    rcases mem_cons.1 h with rfl | h
    · exact Nat.le_max_left ..
    · exact (ih h).trans (Nat.le_max_right ..)

lemma everyList_iff {p : DefaultHeadlessRule Matcher AdGuardMatcher → Prop} {q : Nat → Prop} :
    EveryList p q rules ↔ ∀ rule ∈ rules, rule.Every p q := by
  induction rules with
  | nil => simp [EveryList]
  | cons r rules ih => rw [EveryList, ih, forall_mem_cons]

end HeadlessRule

section Tree
variable {recover : Bool} {v : UInt8}
variable {levels : Nat} {mode : String} {bytes : List UInt8}

/-- How a rule whose output is `bytes` is read back with `levels` more levels. -/
def ReadsBack (lib : Libraries Matcher AdGuardMatcher) (recover : Bool) (v : UInt8) (levels : Nat)
    (rule : HeadlessRule Matcher AdGuardMatcher) (bytes : List UInt8) : Prop :=
  (rule.NoNilAddress → ∃ rule', SameRule lib recover v rule rule' ∧ Reads (readRule lib recover levels) bytes rule') ∧
  (¬ rule.NoNilAddress → Rejects (readRule lib recover levels) bytes)

def ruleBytes (lib : Libraries Matcher AdGuardMatcher) (v : UInt8) (rule : HeadlessRule Matcher AdGuardMatcher) :
    List UInt8 := (writeRule lib v rule).toOption.getD []

lemma writeRules_ok {body : List UInt8} (h : writeRules lib v rules = .ok body) :
    body = rules.flatMap (ruleBytes lib v) ∧ ∀ rule ∈ rules, writeRule lib v rule = .ok (ruleBytes lib v rule) := by
  induction rules generalizing body with
  | nil =>
    rw [writeRules] at h
    cases h
    simp
  | cons rule rules ih =>
    rw [writeRules] at h
    cases hr : writeRule lib v rule with
    | error e => simp [hr, bind, Except.bind] at h
    | ok b =>
      cases hrs : writeRules lib v rules with
      | error e => simp [hr, hrs, bind, Except.bind] at h
      | ok bs =>
        simp only [hr, hrs, bind, Except.bind, pure, Except.pure, Except.ok.injEq] at h
        obtain ⟨rfl, hall⟩ := ih hrs
        have hb : ruleBytes lib v rule = b := by simp [ruleBytes, hr, Except.toOption]
        rw [flatMap_cons, hb]
        exact ⟨h.symm, forall_mem_cons.2 ⟨by rw [hr, hb], hall⟩⟩

lemma repeatFrom_rules
    (h : ∀ rule ∈ rules, ReadsBack lib recover v levels rule (ruleBytes lib v rule)) (message : Nat → String) :
    ((∀ rule ∈ rules, rule.NoNilAddress) → ∃ rules', List.Forall₂ (SameRule lib recover v) rules rules' ∧
      Reads (repeatFrom (fun i => (readRule lib recover levels).cause (message i)) 0 rules.length)
        (rules.flatMap (ruleBytes lib v)) rules') ∧
    (¬ (∀ rule ∈ rules, rule.NoNilAddress) →
      Rejects (repeatFrom (fun i => (readRule lib recover levels).cause (message i)) 0 rules.length)
        (rules.flatMap (ruleBytes lib v))) := by
  constructor
  · intro hn
    refine reads_repeatFrom (fun i rule hr => ?_) 0
    obtain ⟨rule', hsame, hread⟩ := (h rule hr).1 (hn rule hr)
    exact ⟨rule', hsame, hread.cause _⟩
  intro hn
  simp only [not_forall] at hn
  obtain ⟨bad, hbad, hn⟩ := hn
  refine rejects_repeatFrom (fun i rule hr => ?_) ⟨bad, hbad, fun i => ((h bad hbad).2 hn).cause _⟩ 0
  by_cases hr' : rule.NoNilAddress
  · obtain ⟨rule', -, hread⟩ := (h rule hr).1 hr'
    exact .inl ⟨rule', hread.cause _⟩
  · exact .inr (((h rule hr).2 hr').cause _)

lemma writeMode_ok {b : UInt8} (h : writeMode mode = .ok b) : Reads (do
      let modeByte ← byte
      (if modeByte = 0 then pure "and"
        else if modeByte = 1 then pure "or"
        else throw ("unknown logical mode: " ++ toString modeByte) : Decoder String)) [b] mode := by
  unfold writeMode at h
  split at h
  next hm =>
    cases h
    subst hm
    exact (reads_byte 0).bind_nil (Reads.pure "and")
  · split at h
    next hm =>
      cases h
      subst hm
      exact (reads_byte 1).bind_nil (Reads.pure "or")
    · cases h

lemma readsBack_default (h : lib.Documented) {options : DefaultHeadlessRule Matcher AdGuardMatcher}
    (hp : options.Parsed) (levels : Nat) (hw : writeRule lib v (.default options) = .ok bytes) :
    ReadsBack lib recover v (levels + 1) (.default options) bytes := by
  rw [writeRule] at hw
  by_cases hs : options.domainMatchStrategy = .asIS
  · rw [if_neg (not_not.2 hs)] at hw
    constructor
    · intro hn
      rw [HeadlessRule.NoNilAddress, HeadlessRule.Every] at hn
      obtain ⟨body, options', rfl, hsame, hread⟩ := reads_readDefaultRule recover h hp hw hn hs
      exact ⟨.default options', .default hsame, (reads_byte 0).bind (hread.map default)⟩
    intro hn
    rw [HeadlessRule.NoNilAddress, HeadlessRule.Every] at hn
    obtain ⟨body, rfl, hrej⟩ := rejects_readDefaultRule recover h hp hw hn
    exact (reads_byte 0).bind_rejects (hrej.map default)
  · rw [if_pos hs] at hw
    cases hw

lemma readsBack_logical (h : lib.Documented)
    {strategy : DomainMatchStrategy} {invert : Bool} (hlen : rules.length < 2 ^ 63)
    (ih : ∀ rule ∈ rules, ∀ bytes, writeRule lib v rule = .ok bytes → ReadsBack lib recover v levels rule bytes)
    (hw : writeRule lib v (.logical mode rules strategy invert) = .ok bytes) :
    ReadsBack lib recover v (levels + 1) (.logical mode rules strategy invert) bytes := by
  rw [writeRule] at hw
  by_cases hs : strategy = .asIS
  · rw [if_neg (not_not.2 hs)] at hw
    cases hm : writeMode mode with
    | error e => simp [hm, bind, Except.bind] at hw
    | ok modeByte =>
      cases hbody : writeRules lib v rules with
      | error e => simp [hm, hbody, bind, Except.bind] at hw
      | ok body =>
        simp only [hm, hbody, bind, Except.bind, pure, Except.pure, Except.ok.injEq] at hw
        obtain ⟨rfl, hall⟩ := writeRules_ok hbody
        subst hs
        subst hw
        have hnil : (logical mode rules .asIS invert).NoNilAddress ↔
            ∀ rule ∈ rules, rule.NoNilAddress := by
          rw [HeadlessRule.NoNilAddress, HeadlessRule.Every, everyList_iff]
          exact ⟨And.right, fun hall => ⟨trivial, hall⟩⟩
        obtain ⟨hread, hrej⟩ := repeatFrom_rules (fun rule hr => ih rule hr _ (hall rule hr))
          fun i => "read logical rule [" ++ toString i ++ "]"
        have hcount := h.reads_uvarint (show rules.length < 2 ^ 64 by omega)
        constructor
        · intro hn
          obtain ⟨rules', hsame, hrules⟩ := hread (hnil.1 hn)
          refine ⟨.logical mode rules' .asIS invert, .logical hsame, (reads_byte 1).bind ?_⟩
          rw [readLogicalRule, ← bind_assoc]
          exact (writeMode_ok hm).bind (hcount.bind (hrules.bind
            ((readBool_boolByte invert).bind_nil (Reads.pure _))))
        · intro hn
          refine (reads_byte 1).bind_rejects ?_
          rw [readLogicalRule, ← bind_assoc]
          exact (writeMode_ok hm).bind_rejects (hcount.bind_rejects (((hrej (hnil.not.1 hn)).bind _).append _))
  · rw [if_pos hs] at hw
    cases hw

lemma readsBack_rule (h : lib.Documented) (levels : Nat) : ∀ rule : HeadlessRule Matcher AdGuardMatcher,
    rule.levels ≤ levels → rule.Parsed → ∀ bytes, writeRule lib v rule = .ok bytes →
    ReadsBack lib recover v (levels + 1) rule bytes := by
  induction levels with
  | zero =>
    intro rule hlevels hp bytes hw
    cases rule with
    | default options =>
      rw [HeadlessRule.Parsed, HeadlessRule.Every] at hp
      exact readsBack_default h hp 0 hw
    | logical mode rules strategy invert =>
      rw [HeadlessRule.levels] at hlevels
      omega
    | unknown type =>
      rw [writeRule] at hw
      cases hw
  | succ levels ih =>
    intro rule hlevels hp bytes hw
    cases rule with
    | default options =>
      rw [HeadlessRule.Parsed, HeadlessRule.Every] at hp
      exact readsBack_default h hp (levels + 1) hw
    | logical mode rules strategy invert =>
      rw [HeadlessRule.levels] at hlevels
      rw [HeadlessRule.Parsed, HeadlessRule.Every, HeadlessRule.everyList_iff] at hp
      refine readsBack_logical h hp.1 (fun rule hr => ih rule ?_ (hp.2 rule hr)) hw
      have := HeadlessRule.levels_le hr
      omega
    | unknown type =>
      rw [writeRule] at hw
      cases hw

end Tree

/-! ## Rule-sets -/

lemma write_ok {v : UInt8} {bytes : List UInt8}
    (hw : write lib rules v = .ok bytes) : ∃ body, writeRules lib v rules = .ok body ∧
      bytes = magicBytes ++ ([v] ++ lib.compress (lib.writeUvarint rules.length ++ body)) := by
  unfold write at hw
  cases hbody : writeRules lib v rules with
  | error e => simp [hbody, bind, Except.bind] at hw
  | ok body =>
    simp only [hbody, bind, Except.bind, pure, Except.pure, Except.ok.injEq] at hw
    exact ⟨body, rfl, by simp [← hw]⟩

lemma read_header (h : lib.Documented) (v : UInt8) (recover : Bool) (body : List UInt8) :
    read lib (magicBytes ++ ([v] ++ lib.compress body)) recover =
      if v > ruleSetVersionCurrent then .error ("unsupported version: " ++ toString v)
      else ((readRules lib recover).run body).map fun r => (v, r.1) := by
  unfold read
  rw [reads_full (show magicBytes.length = 3 by decide)]
  simp only [bind, Except.bind, ne_eq, not_true_eq_false, if_false]
  have hbyte : byte.run ([v] ++ lib.compress body) = .ok (v, lib.compress body) := reads_byte v _
  simp only [hbyte, pure, Except.pure]
  split
  · rfl
  rw [h.decompress]
  dsimp only
  cases (readRules lib recover).run body <;> rfl

/-- **Round trip.** Of a rule-set of the source format that nests at most a hundred logical rules, `Read`
makes the same version and the same tree exactly if the version is one it knows and no interface
address is a nil pointer. -/
theorem read_write_iff (h : lib.Documented) {v : UInt8}
    (recover : Bool) (hlen : rules.length < 2 ^ 63) (hparsed : ∀ rule ∈ rules, rule.Parsed)
    (hlevels : ∀ rule ∈ rules, rule.levels ≤ 100) {bytes : List UInt8} (hw : write lib rules v = .ok bytes) :
    (∃ rules', read lib bytes recover = .ok (v, rules') ∧ List.Forall₂ (SameRule lib recover v) rules rules') ↔
    v ≤ ruleSetVersionCurrent ∧ ∀ rule ∈ rules, rule.NoNilAddress := by
  obtain ⟨body, hbody, rfl⟩ := write_ok hw
  obtain ⟨rfl, hall⟩ := writeRules_ok hbody
  have hback : ∀ rule ∈ rules,
      ReadsBack lib recover v (maxLogicalRuleDepth + 1) rule (ruleBytes lib v rule) := fun rule hr =>
    readsBack_rule h 100 rule (hlevels rule hr) (hparsed rule hr) _ (hall rule hr)
  obtain ⟨hread, hrej⟩ := repeatFrom_rules hback fun i => "read rule[" ++ toString i ++ "]"
  have hcount := h.reads_uvarint (show rules.length < 2 ^ 64 by omega)
  rw [read_header h]
  by_cases hv : v > ruleSetVersionCurrent
  · rw [if_pos hv]
    refine ⟨?_, fun hc => absurd hv (UInt8.not_lt.2 hc.1)⟩
    rintro ⟨_, hr, _⟩
    cases hr
  rw [if_neg hv]
  by_cases hn : ∀ rule ∈ rules, rule.NoNilAddress
  · obtain ⟨rules', hsame, hrules⟩ := hread hn
    refine ⟨fun _ => ⟨UInt8.not_lt.1 hv, hn⟩, fun _ => ⟨rules', ?_, hsame⟩⟩
    have := hcount.bind hrules []
    rw [append_nil] at this
    rw [readRules, this]
    rfl
  · refine ⟨?_, fun hc => absurd hc.2 hn⟩
    rintro ⟨_, hr, _⟩
    obtain ⟨e, he⟩ := hcount.bind_rejects (hrej hn) []
    rw [append_nil] at he
    rw [readRules, he] at hr
    cases hr

/-! ## Concrete libraries -/

def hostSet : Prefix → Except String NetipxSet
  | ⟨.v4 a, 32⟩ => .ok ⟨[.v4 ⟨a, a⟩], by simp [NetRange.range4?, RangesOk],
      by simp [NetRange.range6?, RangesOk, filterMap_cons], by simp⟩
  | _ => .error "not a host"

/-- Libraries that store one bit of a matcher, do not compress and build sets of one host. -/
def plainLibraries : Libraries Bool Bool where
  writeUvarint := Bytes.uvarint
  readBytes := uvarint >>= full
  readUint16s := uvarint >>= repeatFrom (fun _ => UInt16.ofNat <$> bigEndian 2) 0
  newMatcher _ _ legacy := legacy
  writeMatcher m := .ok [boolByte m]
  readMatcher := readBool
  dumpMatcher _ := ([], [])
  newAdGuardMatcher _ := true
  writeAdGuardMatcher m := .ok [boolByte m]
  readAdGuardMatcher := readBool
  dumpAdGuardMatcher _ := []
  compress b := b
  decompress := .ok
  buildIPSet
    | [p] => hostSet p
    | _ => .error "not one prefix"
  prefixes _ := []
  addrFromIP l :=
    if l.length = 4 then .v4 (BitVec.ofNat 32 (Bytes.ofBigEndian l))
    else if l.length = 16 then .v6 (BitVec.ofNat 128 (Bytes.ofBigEndian l))
    else .invalid

lemma hostSet_holds {p : Prefix} {set : NetipxSet} (h : hostSet p = .ok set) {a : Addr} (ha : a.isValid = true) :
    (∃ r ∈ set.ranges, r.Holds a) ↔ p.contains a = true := by
  unfold hostSet at h
  split at h
  next x =>
    cases h
    cases a with
    | invalid => cases ha
    | v6 b => simp [NetRange.Holds, Prefix.contains]
    | v4 b =>
      simp only [mem_singleton, exists_eq_left, NetRange.Holds, Prefix.contains, Prefix.isValid, le_refl,
        decide_true, Bool.true_and, Nat.sub_self, BitVec.ushiftRight_zero, beq_iff_eq]
      rw [show (0 : BitVec 32) = 0#32 from rfl, BitVec.xor_eq_zero_iff, ← BitVec.toNat_inj]
      omega
  · cases h

lemma plainLibraries_documented : plainLibraries.Documented where
  writeUvarint _ _ := rfl
  readBytes l hl := (Decoder.reads_uvarint (by omega)).bind (reads_full rfl)
  readUint16s l hl := by
    refine (Decoder.reads_uvarint (by omega)).bind (reads_repeat fun x _ => ?_)
    have := (reads_bigEndian (n := 2) (x := x.toNat) x.toNat_lt).map UInt16.ofNat
    rwa [UInt16.ofNat_toNat] at this
  readMatcher m b hb := by
    cases hb
    exact readBool_boolByte m
  readAdGuardMatcher m b hb := by
    cases hb
    exact readBool_boolByte m
  decompress _ := rfl
  buildIPSet ps set hset a ha := by
    match ps, hset with
    | [p], hset =>
      rw [hostSet_holds hset ha]
      simp
  addrFromIP a := by
    cases a with
    | invalid => rfl
    | v4 a | v6 a => simp [plainLibraries, asSlice, ofNat_ofBigEndian]

/-- Two rules under a logical rule: one of a network and an address, one of an interface address. -/
def interfaceRule (address : Option Prefix) : HeadlessRule Bool Bool :=
  .logical "or" [.default { network := [[116, 99, 112]], ipCIDR := [some ⟨.v4 0x0a000001#32, 32⟩] },
    .default { defaultInterfaceAddress := [address], invert := true }] .asIS true

theorem read_write_iff_uplink : ∃ bytes,
    write plainLibraries [interfaceRule (some ⟨.v4 0x0a000000#32, 8⟩)] 4 = .ok bytes ∧
    ∃ rules', read plainLibraries bytes true = .ok (4, rules') ∧
      List.Forall₂ (SameRule plainLibraries true 4) [interfaceRule (some ⟨.v4 0x0a000000#32, 8⟩)] rules' := by
  have hw : ∃ bytes, write plainLibraries [interfaceRule (some ⟨.v4 0x0a000000#32, 8⟩)] 4 = .ok bytes := ⟨_, rfl⟩
  obtain ⟨bytes, hw⟩ := hw
  refine ⟨bytes, hw, (read_write_iff plainLibraries_documented true (by simp) ?_ ?_ hw).2 ⟨by decide, ?_⟩⟩
  · refine forall_mem_singleton.2 ?_
    simp only [interfaceRule, HeadlessRule.Parsed, HeadlessRule.Every, HeadlessRule.EveryList]
    exact ⟨by simp, by decide, by decide, trivial⟩
  · exact forall_mem_singleton.2 (by simp [interfaceRule, levels, levelsList])
  refine forall_mem_singleton.2 ?_
  simp only [interfaceRule, HeadlessRule.NoNilAddress, HeadlessRule.Every, HeadlessRule.EveryList]
  exact ⟨trivial, by decide, by decide, trivial⟩

/-- A nil interface address is written without complaint, and what was written cannot be read. -/
theorem nil_address_not_read : (interfaceRule none).Parsed ∧
    ∃ bytes, write plainLibraries [interfaceRule none] 4 = .ok bytes ∧
      (read plainLibraries bytes true).map (fun _ => ()) =
        .error "read rule[0]: read logical rule [1]: invalid argument" := by
  refine ⟨?_, _, rfl, by decide +kernel⟩
  simp only [interfaceRule, HeadlessRule.Parsed, HeadlessRule.Every, HeadlessRule.EveryList]
  exact ⟨by simp, by decide, by decide, trivial⟩

end SingBox.Srs
