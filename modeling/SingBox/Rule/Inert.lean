import SingBox.Rule.TwoRuns
/-!
# Metadata no rule reads

Route options leave fields in the metadata that only dialers read, and `PreMatch`
marks its copy. Setting these fields (`setDialer`) commutes with every match,
except through a `preferred_by` item that names a bridge outbound.
-/
namespace SingBox

structure DialerFields where
  preMatch : Bool
  routeOriginalDestination : Socksaddr
  udpDisableDomainUnmapping : Bool
  udpConnect : Bool
  tlsFragment : Bool
  tlsFragmentFallbackDelay : Nat
  tlsRecordFragment : Bool
  tlsSpoof : String
  tlsSpoofMethod : Nat
  networkStrategy : Option NetworkStrategy
  networkType : List InterfaceType
  fallbackNetworkType : List InterfaceType
  fallbackDelay : Nat

def InboundContext.dialer (md : InboundContext) : DialerFields where
  preMatch := md.preMatch
  routeOriginalDestination := md.routeOriginalDestination
  udpDisableDomainUnmapping := md.udpDisableDomainUnmapping
  udpConnect := md.udpConnect
  tlsFragment := md.tlsFragment
  tlsFragmentFallbackDelay := md.tlsFragmentFallbackDelay
  tlsRecordFragment := md.tlsRecordFragment
  tlsSpoof := md.tlsSpoof
  tlsSpoofMethod := md.tlsSpoofMethod
  networkStrategy := md.networkStrategy
  networkType := md.networkType
  fallbackNetworkType := md.fallbackNetworkType
  fallbackDelay := md.fallbackDelay

def InboundContext.setDialer (md : InboundContext) (d : DialerFields) : InboundContext :=
  { md with
    preMatch := d.preMatch
    routeOriginalDestination := d.routeOriginalDestination
    udpDisableDomainUnmapping := d.udpDisableDomainUnmapping
    udpConnect := d.udpConnect
    tlsFragment := d.tlsFragment
    tlsFragmentFallbackDelay := d.tlsFragmentFallbackDelay
    tlsRecordFragment := d.tlsRecordFragment
    tlsSpoof := d.tlsSpoof
    tlsSpoofMethod := d.tlsSpoofMethod
    networkStrategy := d.networkStrategy
    networkType := d.networkType
    fallbackNetworkType := d.fallbackNetworkType
    fallbackDelay := d.fallbackDelay }

/-- A `preferred_by` item that asks a bridge outbound, which answers by `PreMatch`. -/
def RuleItem.readsPreMatch : RuleItem → Bool
  | .preferredBy outbounds _ => outbounds.any fun
    | .bridge _ => true
    | _ => false
  | _ => false

lemma item_setDialer (env : Env) (md : InboundContext) (d : DialerFields) {i : RuleItem}
    (hi : i.readsPreMatch = false) : i.match env (md.setDialer d) = i.match env md := by
  cases i with
  | preferredBy outbounds strategy =>
    have haddr (a : Addr) : outbounds.any (·.preferredAddress (md.setDialer d) a) =
        outbounds.any (·.preferredAddress md a) := by
      refine Lists.any_congr_mem fun o ho => ?_
      cases o with
      | bridge isLocal => simp only [RuleItem.readsPreMatch, List.any_eq_false] at hi; exact absurd rfl (hi _ ho)
      | masqueClient | endpoint => rfl
    have hdomain (host : String) : outbounds.any (·.preferredDomain (md.setDialer d) host) =
        outbounds.any (·.preferredDomain md host) := by
      refine Lists.any_congr_mem fun o _ => ?_
      cases o <;> rfl
    simp only [RuleItem.match, matchPreferredBy, haddr, hdomain]
    rfl
  | _ => rfl

/-! ## Matchers -/

def Inert (m : Matcher) : Prop :=
  ∀ (d : DialerFields) (md : InboundContext), m (md.setDialer d) = ((m md).1, (m md).2.setDialer d)

def DefaultItems.IgnoresPreMatch (r : DefaultItems) : Prop :=
  ∀ i ∈ r.allItems, i.readsPreMatch = false

section
variable (env : Env) (d : DialerFields)

def Redialed (md md' : InboundContext) : Prop := md' = md.setDialer d

lemma redialed_cacheRel : CacheRel (Redialed d) := by
  constructor <;> rintro md _ rfl
  · rfl
  · rfl
  · exact fun _ => rfl

lemma item_redialed {i : RuleItem} (hi : i.readsPreMatch = false) : ItemAgrees env (Redialed d) i := by
  rintro md _ rfl
  exact item_setDialer env md d hi

lemma headless_redialed (i : RuleItem) (hi : i.headless = true) : ItemAgrees env (Redialed d) i := by
  refine item_redialed env d ?_
  cases i <;> first | rfl | simp [RuleItem.headless] at hi

end

lemma inert_iff {m : Matcher} : Inert m ↔ ∀ d, Agrees (Redialed d) m := by
  constructor
  · rintro h d md _ rfl
    rw [h d md]
    exact ⟨rfl, rfl⟩
  intro h d md
  obtain ⟨hv, ht⟩ := h d md _ rfl
  exact Prod.ext hv ht

/-- No item of the tree asks a bridge outbound. -/
inductive Rule.IgnoresPreMatch : Rule → Prop
  | default {items : DefaultItems} {ruleSetItem : Option RuleSetItem} {invert : Bool} {matchResponse : Option String}
      (h : items.IgnoresPreMatch) : IgnoresPreMatch (.default items ruleSetItem invert matchResponse)
  | logical {mode : LogicalMode} {rules : List Rule} {invert : Bool} (h : ∀ r ∈ rules, IgnoresPreMatch r) :
      IgnoresPreMatch (.logical mode rules invert)

lemma Rule.match_inert (env : Env) {r : Rule} (h : r.IgnoresPreMatch) : Inert (r.match env) := by
  induction r using Rule.ind with
  | default items ruleSetItem invert matchResponse =>
    cases h with
    | default h =>
      have hdefault : Inert (Rule.matchDefault env items ruleSetItem invert) :=
        inert_iff.2 fun d => Rule.matchDefault_agrees (redialed_cacheRel d) (headless_redialed env d)
          (fun i hi => item_redialed env d (h i hi)) ruleSetItem invert
      cases matchResponse with
      | none => exact hdefault
      | some tag =>
        intro d md
        have hresponse : (if tag ≠ "" then (md.setDialer d).namedDNSResponses tag else (md.setDialer d).dnsResponse) =
            if tag ≠ "" then md.namedDNSResponses tag else md.dnsResponse := rfl
        simp only [Rule.match, matchForMatch, hresponse]
        generalize (if tag ≠ "" then md.namedDNSResponses tag else md.dnsResponse) = response
        cases response with
        | none => rfl
        | some response =>
          have hverdict := congrArg Prod.fst (hdefault d (withResponse md (some response)))
          exact Prod.ext hverdict rfl
  | logical mode rules invert ih =>
    cases h with
    | logical h =>
      rw [Rule.match, Rule.matchers_eq_map]
      exact inert_iff.2 fun d => logicalMatch_agrees (redialed_cacheRel d)
        (List.forall_mem_map.2 fun r _ => r.match_framed env)
        (List.forall_mem_map.2 fun r hr => inert_iff.1 (ih r hr (h r hr)) d) mode invert

end SingBox
