import SingBox.Dns.Rule
import SingBox.Rule.TwoRuns
/-!
# The responses a rule reads

A validated DNS rule reads an evaluated response only through
`match_response`: metadata that agree on the responses the rule binds give the
same verdict.
-/
namespace SingBox

/-- The second metadata is the first with other responses. -/
structure Rebound (d d' : Option Dns.Msg) (n n' : String → Option Dns.Msg) (md md' : InboundContext) : Prop where
  response : md.dnsResponse = d
  named : md.namedDNSResponses = n
  fromQuery : md.destinationAddressMatchFromResponse = false
  eq : md' = { md with dnsResponse := d', namedDNSResponses := n' }

/-- The second metadata is the first with other named responses. -/
def Renamed (n' : String → Option Dns.Msg) (md md' : InboundContext) : Prop := md' = { md with namedDNSResponses := n' }

variable {d d' : Option Dns.Msg} {n n' : String → Option Dns.Msg}

lemma rebound_cacheRel : CacheRel (Rebound d d' n n') := by
  constructor <;> rintro md _ ⟨hd, hn, hq, rfl⟩
  · rfl
  · rfl
  · exact fun _ => ⟨hd, hn, hq, rfl⟩

lemma renamed_cacheRel : CacheRel (Renamed n') := by
  constructor <;> rintro md _ rfl
  · rfl
  · rfl
  · exact fun _ => rfl

section
variable (env : Env)

lemma matchPreferredBy_responses (outbounds : List PreferredRoutes) (strategy : DomainMatchStrategy)
    (md : InboundContext) (d : Option Dns.Msg) (n : String → Option Dns.Msg) :
    matchPreferredBy env outbounds strategy { md with dnsResponse := d, namedDNSResponses := n } =
      matchPreferredBy env outbounds strategy md := by
  have ha (p : PreferredRoutes) :
      p.preferredAddress { md with dnsResponse := d, namedDNSResponses := n } = p.preferredAddress md :=
    preferredAddress_congr p rfl rfl
  have hd (p : PreferredRoutes) :
      p.preferredDomain { md with dnsResponse := d, namedDNSResponses := n } = p.preferredDomain md :=
    preferredDomain_congr _ _ p
  simp only [matchPreferredBy, ha, hd]
  rfl

lemma item_rebound {i : RuleItem} (hi : i.isResponseRecord = false) : ItemAgrees env (Rebound d d' n n') i := by
  rintro md _ ⟨-, -, hq, rfl⟩
  cases i with
  | dnsResponseRCode | dnsResponseRecord => simp [RuleItem.isResponseRecord] at hi
  | preferredBy outbounds strategy => exact matchPreferredBy_responses env outbounds strategy md d' n'
  | ipCIDR isSource ipSet => simp only [RuleItem.match, matchIPCIDR, hq, Bool.false_eq_true, if_false]
  | ipIsPrivate isSource => simp only [RuleItem.match, matchIPIsPrivate, hq, Bool.false_eq_true, if_false]
  | ipAcceptAny => simp only [RuleItem.match, hq, Bool.false_eq_true, if_false]
  | _ => rfl

lemma item_renamed (i : RuleItem) : ItemAgrees env (Renamed n') i := by
  rintro md _ rfl
  cases i with
  | preferredBy outbounds strategy => exact matchPreferredBy_responses env outbounds strategy md md.dnsResponse n'
  | _ => rfl

lemma headless_rebound (i : RuleItem) (hi : i.headless = true) : ItemAgrees env (Rebound d d' n n') i := by
  refine item_rebound env ?_
  cases i <;> first | rfl | simp [RuleItem.headless] at hi

end

/-- Response records are read through `match_response` only. -/
inductive Rule.ResponseReady : Rule → Prop
  | default {items : DefaultItems} {ruleSetItem : Option RuleSetItem} {invert : Bool} {matchResponse : Option String}
      (h : matchResponse = none → ∀ i ∈ items.allItems, i.isResponseRecord = false) :
      ResponseReady (.default items ruleSetItem invert matchResponse)
  | logical {mode : LogicalMode} {rules : List Rule} {invert : Bool} (h : ∀ r ∈ rules, ResponseReady r) :
      ResponseReady (.logical mode rules invert)

lemma Rule.matchResponsesOf_eq (rules : List Rule) : matchResponseTagsOf rules = rules.flatMap matchResponseTags ∧
    matchResponseAnonymousOf rules = rules.any matchResponseAnonymous := by
  induction rules with
  | nil => exact ⟨rfl, rfl⟩
  | cons r rules ih =>
    rw [matchResponseTagsOf, matchResponseAnonymousOf, ih.1, ih.2]
    exact ⟨rfl, rfl⟩

lemma Rule.matchResponseTag_mem {r : Rule} (h : r.matchResponseTag ≠ "") :
    r.matchResponseTag ∈ r.matchResponseTags := by
  cases r with
  | default items ruleSetItem invert matchResponse =>
    cases matchResponse with
    | none => exact absurd rfl h
    | some tag =>
      have htag : tag ≠ "" := h
      simp [Rule.matchResponseTag, Rule.matchResponseTags, htag]
  | logical => exact absurd rfl h

lemma Rule.match_rebound (env : Env) {r : Rule} (hready : r.ResponseReady)
    (htags : ∀ tag ∈ r.matchResponseTags, n' tag = n tag) (hanon : r.matchResponseAnonymous = true → d' = d) :
    Agrees (Rebound d d' n n') (r.match env) := by
  induction r using Rule.ind with
  | default items ruleSetItem invert matchResponse =>
    have h : matchResponse = none → ∀ i ∈ items.allItems, i.isResponseRecord = false := by
      cases hready with
      | default h => exact h
    cases matchResponse with
    | none =>
      exact Rule.matchDefault_agrees rebound_cacheRel (headless_rebound env) (fun i hi => item_rebound env (h rfl i hi))
        ruleSetItem invert
    | some tag =>
      rintro md md' hmd
      have hresponse : (if tag ≠ "" then md'.namedDNSResponses tag else md'.dnsResponse) =
          if tag ≠ "" then md.namedDNSResponses tag else md.dnsResponse := by
        obtain ⟨rfl, rfl, -, rfl⟩ := hmd
        by_cases ht : tag = ""
        · simpa [ht] using hanon (by simp [Rule.matchResponseAnonymous, ht])
        · simpa [ht] using htags tag (by simp [Rule.matchResponseTags, ht])
      simp only [Rule.match, matchForMatch, hresponse]
      generalize (if tag ≠ "" then md.namedDNSResponses tag else md.dnsResponse) = response
      by_cases hnone : response.isNone
      · simp only [hnone, if_true]
        exact ⟨trivial, hmd⟩
      simp only [hnone, Bool.false_eq_true, if_false]
      refine ⟨?_, hmd⟩
      obtain ⟨-, -, -, rfl⟩ := hmd
      -- the match runs on a copy that holds the response; only the named ones differ
      exact (Rule.matchDefault_agrees (renamed_cacheRel : CacheRel (Renamed n')) (fun i _ => item_renamed env i)
        (fun i _ => item_renamed env i) ruleSetItem invert (withResponse md response) _ rfl).1
  | logical mode rules invert ih =>
    have hsub : ∀ r ∈ rules, r.ResponseReady := by
      cases hready with
      | logical h => exact h
    rw [Rule.match, Rule.matchers_eq_map]
    refine logicalMatch_agrees rebound_cacheRel (List.forall_mem_map.2 fun r _ => r.match_framed env)
      (List.forall_mem_map.2 fun r hr => ?_) mode invert
    refine ih r hr (hsub r hr) (fun tag ht => htags tag ?_) fun ha => hanon ?_
    · rw [Rule.matchResponseTags, List.mem_eraseDups]
      exact (Rule.matchResponsesOf_eq _).1 ▸ List.mem_flatMap.2 ⟨_, hr, ht⟩
    · exact (Rule.matchResponsesOf_eq rules).2.trans (List.any_eq_true.2 ⟨_, hr, ha⟩)

end SingBox
