import SingBox.Route.PreMatchLemmas
import SingBox.Route.Stream
/-!
# Pre-matching agrees with routing

`PreMatch` and `matchRule` keep in lockstep: at every rule the two metadata
differ at most in the fields no rule reads (`setDialer`), the connection still
begins with the packet `PreMatch` sniffs, and `DestinationAddresses` belong to
the name in `Destination` (`Lockstep`).
-/
namespace SingBox.Route
variable {env : SniffEnv} {firstPacket : List UInt8} {s : WalkState} {md : InboundContext} {rule : RouteRule} {rules : List RouteRule}

/-! ## One rule -/

/-- What the walks keep from rule to rule, apart from their metadata agreeing. -/
structure Lockstep (env : SniffEnv) (firstPacket : List UInt8) (s : WalkState) : Prop where
  addresses : AddressesFit env.toRouteEnv s.md
  sniffError : s.md.sniffError ≠ some ⟨true⟩
  sniffHost : s.md.network ≠ networkUDP → s.md.sniffHost = ""
  input : InputFits firstPacket s

lemma Lockstep.with_md (h : Lockstep env firstPacket s)
    (hstate : sniffState md = sniffState s.md) (hfit : AddressesFit env.toRouteEnv md) :
    Lockstep env firstPacket { s with md } := by
  simp only [sniffState, Prod.mk.injEq] at hstate
  obtain ⟨hnetwork, hhost, herr⟩ := hstate
  refine ⟨hfit, fun he => h.sniffError (herr ▸ he), fun hn => hhost.trans (h.sniffHost (hnetwork ▸ hn)), ?_⟩
  exact ⟨fun hn => h.input.1 (hnetwork ▸ hn), fun hn => h.input.2 (hnetwork ▸ hn)⟩

lemma matches_setDialer {env : RouteEnv} (h : rule.rule.IgnoresPreMatch) (md : InboundContext) (d : DialerFields) :
    rule.matches env (md.setDialer d) = ((rule.matches env md).1, (rule.matches env md).2.setDialer d) :=
  Rule.match_inert env.toEnv h d md.resetRuleCache

lemma matches_frame (env : RouteEnv) (rule : RouteRule) (md : InboundContext) :
    (rule.matches env md).2.resetRuleCache = md.resetRuleCache :=
  (resetRuleCache_congr ((Rule.match_framed env.toEnv rule.rule).frame md.resetRuleCache) :
    (rule.rule.match env.toEnv md.resetRuleCache).2.resetRuleCache = md.resetRuleCache.resetRuleCache)

lemma Lockstep.matches (h : Lockstep env firstPacket s)
    (rule : RouteRule) : Lockstep env firstPacket { s with md := (rule.matches env.toRouteEnv s.md).2 } := by
  have hframe := matches_frame env.toRouteEnv rule s.md
  have hstate := congrArg sniffState hframe
  refine h.with_md hstate ?_
  have hdest : (rule.matches env.toRouteEnv s.md).2.destination = s.md.destination := congrArg (·.destination) hframe
  have haddr : (rule.matches env.toRouteEnv s.md).2.destinationAddresses = s.md.destinationAddresses :=
    congrArg (·.destinationAddresses) hframe
  unfold AddressesFit
  rw [hdest, haddr]
  exact h.addresses

def RuleAction.overridesAddress (env : RouteEnv) : RuleAction → Bool
  | .route outbound options => !isPassOutbound env outbound && env.isValid options.overrideAddress
  | .routeOptions options => env.isValid options.overrideAddress
  | .bypass outbound options => outbound ≠ "" && env.isValid options.overrideAddress
  | _ => false

/-- The decisions of `PreMatch` that routing has to agree with. -/
def PreMatchAction.decides : PreMatchAction → Bool
  | .flow | .drop | .reject => true
  | .continue | .bypass | .hijackDNS => false

/-- How a step of `PreMatch` and one of `matchRule` correspond. -/
def StepsAgree (env : SniffEnv) (firstPacket : List UInt8) (packetDestination : Socksaddr) :
    Step InboundContext PreMatchResult → Step WalkState WalkState → Prop
  | .next md, step => ∃ s d, step = .next s ∧ md = s.md.setDialer d ∧ Lockstep env firstPacket s
  | .select result, step => result.action.decides = true → ∃ s, step = .select s ∧
      (result.action = .flow → FlowsTo env.toRouteEnv packetDestination result s.md.destination)
  | .fail err _, step => ∃ s, step = .fail err s

section
variable {env : SniffEnv} {firstPacket : List UInt8} {packetDestination : Socksaddr} {s : WalkState}
  (hport : ∀ a p, env.isDomain { a with port := p } = env.isDomain a)
  (h : Lockstep env firstPacket s) (d : DialerFields)
include h

lemma sniff_agrees (action : SniffAction) :
    StepsAgree env firstPacket packetDestination (preMatchSniff env (s.md.setDialer d) firstPacket action)
      (s.sniff env action) := by
  rcases preMatchSniff_cases env (s.md.setDialer d) action firstPacket h.sniffError with
    hsel | ⟨hnext, hwhy⟩ | ⟨hudp, hpacket, hidle, hdone, hnext⟩
  · rw [hsel]
    intro hdecides
    cases hdecides
  · -- neither walk sniffs
    have hsniff : actionSniff env s.md action s.input s.buffers s.packetBuffers =
        { md := s.md, input := s.input } := by
      rcases hwhy with hicmp | ⟨hudp, hidle⟩
      · rw [h.input.1 hicmp, actionSniff]
        split
        · rfl
        · split <;> rfl
      · obtain ⟨conn, hconn, -⟩ := h.input.2 hudp
        exact actionSniff_idle env hidle hconn
    rw [hnext]
    refine ⟨s, d, ?_, rfl, h⟩
    simp only [WalkState.sniff, hsniff, List.append_nil]
  · obtain ⟨conn, hconn, hfirst⟩ := h.input.2 hudp
    obtain ⟨packet, rfl, hbuf⟩ := hfirst hpacket
    obtain ⟨sniffed, conn', hsniff, hheld⟩ := actionSniff_first env hidle hconn hbuf hdone
    rw [hnext, sniffPacket_setDialer, finishPackets_setDialer]
    have hkeeps := finishPackets_keeps env (sniffPacket env s.md action packet.1.payload)
    obtain ⟨hnetwork, herr, hdest, haddr⟩ := hkeeps
    refine ⟨{ s with
      md := finishPackets env (sniffPacket env s.md action packet.1.payload)
      packetBuffers := [packet], input := .packets conn' }, d, ?_, rfl, ?_⟩
    · simp only [WalkState.sniff, hsniff, hheld]
    refine ⟨?_, by rw [herr]; exact hdone, fun hn => absurd (hnetwork.trans hudp) hn, ?_⟩
    · unfold AddressesFit
      rw [hdest, haddr]
      exact h.addresses
    refine ⟨fun hicmp => ?_, fun _ => ⟨conn', rfl, fun _ => ⟨packet, rfl, .inl rfl⟩⟩⟩
    have : networkICMP = networkUDP := hicmp.symm.trans (hnetwork.trans hudp)
    exact absurd this (by decide)

omit h in
lemma setResolved_setDialer (md : InboundContext) (action : ResolveAction) (addresses : List Addr)
    (d : DialerFields) : setResolved (md.setDialer d) action addresses = (setResolved md action addresses).setDialer d := by
  unfold setResolved
  cases action.matchOnly <;> rfl

omit h in
lemma setResolved_fit {action : ResolveAction} {addresses : List Addr} (hdomain : env.isDomain md.destination = true)
    (hresolve : resolveAddresses env.toRouteEnv md.destination.fqdn action = .ok addresses)
    (hfit : AddressesFit env.toRouteEnv md) : AddressesFit env.toRouteEnv (setResolved md action addresses) := by
  unfold setResolved
  cases action.matchOnly with
  | true => exact hfit
  | false =>
    intro _
    refine ⟨hdomain, action.queryOptions, ?_⟩
    unfold resolveAddresses at hresolve
    split at hresolve
    · cases hresolve
    · exact hresolve

lemma resolve_agrees (action : ResolveAction) : StepsAgree env firstPacket packetDestination
      (preMatchedStep env firstPacket packetDestination (.resolve action) (s.md.setDialer d))
      (matchedStep env (.resolve action) s) := by
  have hdest : (s.md.setDialer d).destination = s.md.destination := rfl
  simp only [preMatchedStep, matchedStep, actionResolve, hdest]
  cases hdomain : env.isDomain s.md.destination with
  | false => exact ⟨s, d, rfl, rfl, h⟩
  | true =>
    cases hresolve : resolveAddresses env.toRouteEnv s.md.destination.fqdn action with
    | error err => exact ⟨s, rfl⟩
    | ok addresses =>
      refine ⟨{ s with md := setResolved s.md action addresses }, d, rfl, setResolved_setDialer _ _ _ _, ?_⟩
      refine h.with_md ?_ (setResolved_fit hdomain hresolve h.addresses)
      unfold setResolved
      cases action.matchOnly <;> rfl

lemma override_agrees : StepsAgree env firstPacket packetDestination
      (preMatchedStep env firstPacket packetDestination .sniffOverrideDestination (s.md.setDialer d))
      (matchedStep env .sniffOverrideDestination s) := by
  have hhost : (s.md.setDialer d).sniffHost = s.md.sniffHost := rfl
  simp only [preMatchedStep, matchedStep, hhost]
  by_cases hempty : s.md.sniffHost = ""
  · simp only [hempty, ne_eq, not_true_eq_false, if_false]
    exact ⟨s, d, rfl, rfl, h⟩
  -- a sniffed name means packets
  have hudp : s.md.network = networkUDP := by
    by_contra hn
    exact hempty (h.sniffHost hn)
  obtain ⟨conn, hconn, -⟩ := h.input.2 hudp
  simp only [ne_eq, hempty, not_false_eq_true, if_true, actionSniffOverrideDestination, hconn]
  refine ⟨{ s with md := overrideDestination env s.md false }, d, by rw [hconn], ?_, ?_⟩
  · unfold overrideDestination
    rw [setDialer_ite]
    rfl
  refine h.with_md ?_ ?_
  · unfold overrideDestination
    split <;> rfl
  unfold overrideDestination
  split
  · rename_i hcond
    intro hne
    -- addresses belong to a name, but the destination is an IP
    have hip : env.isDomain s.md.destination = false := by
      simp only [Bool.and_eq_true, Bool.not_eq_true'] at hcond
      exact hcond.1
    exact absurd (h.addresses hne).1 (by simp [hip])
  · exact h.addresses

include hport

section
variable {o : RouteOptions} (hstale : env.isValid o.overrideAddress = true → s.md.destinationAddresses = [])
include hstale

/-- Route options keep the walks in lockstep, unless they override the address of a resolved name. -/
lemma options_agree :
    let md := applyRouteOptions env.toRouteEnv s.md o
    applyRouteOptionsOverride env.toRouteEnv (s.md.setDialer d) o = md.setDialer d ∧
      AddressesFit env.toRouteEnv md ∧ sniffState md = sniffState s.md := by
  obtain ⟨d', hd'⟩ := applyRouteOptions_eq hstale
  have hstate := congrArg Prod.fst (applyRouteOptionsOverride_frame env.toRouteEnv s.md o).1
  have hfit := applyRouteOptionsOverride_fit hport hstale h.addresses
  rw [(applyRouteOptionsOverride_frame ..).2]
  rw [hd']
  exact ⟨rfl, hfit, hstate⟩

/-- A flow decided on the options' metadata goes to the destination `matchRule` ends with. -/
lemma flow_agrees {tag : String}
    (hflow : (preMatchFlow env.toRouteEnv (applyRouteOptionsOverride env.toRouteEnv (s.md.setDialer d) o)
      packetDestination tag).action = .flow) :
    FlowsTo env.toRouteEnv packetDestination
      (preMatchFlow env.toRouteEnv (applyRouteOptionsOverride env.toRouteEnv (s.md.setDialer d) o) packetDestination tag)
      (applyRouteOptions env.toRouteEnv s.md o).destination := by
  obtain ⟨hmd, hfit, -⟩ := options_agree hport h d hstale
  rw [hmd] at hflow ⊢
  exact preMatchFlow_flowsTo ((applyRouteOptions env.toRouteEnv s.md o).setDialer d) hfit hflow

end

lemma matchedStep_agrees {action : RuleAction} (hbypass : ∀ o, action ≠ .bypass "" o)
    (hstale : action.overridesAddress env.toRouteEnv = true → s.md.destinationAddresses = []) :
    StepsAgree env firstPacket packetDestination
      (preMatchedStep env firstPacket packetDestination action (s.md.setDialer d)) (matchedStep env action s) := by
  cases action with
  | sniff action => exact sniff_agrees h d action
  | resolve action => exact resolve_agrees h d action
  | sniffOverrideDestination => exact override_agrees h d
  | direct => exact fun hdecides => Bool.noConfusion hdecides
  | hijackDNS =>
    simp only [preMatchedStep]
    split <;> exact fun hdecides => Bool.noConfusion hdecides
  | reject method noDrop recent =>
    simp only [preMatchedStep, matchedStep]
    cases rejectError method noDrop recent with
    | none =>
      intro _
      refine ⟨s, rfl, fun hflow => ?_⟩
      split at hflow <;> cases hflow
    | some cause => cases cause <;> exact fun _ => ⟨s, rfl, fun hflow => by cases hflow⟩
  | routeOptions o =>
    obtain ⟨hmd, hfit, hstate⟩ := options_agree hport h d hstale
    exact ⟨{ s with md := applyRouteOptions env.toRouteEnv s.md o }, d, rfl, hmd, h.with_md hstate hfit⟩
  | route outbound o =>
    simp only [preMatchedStep, matchedStep]
    cases hpass : isPassOutbound env.toRouteEnv outbound with
    | true => exact ⟨s, d, rfl, rfl, h⟩
    | false =>
      have hstale' : env.isValid o.overrideAddress = true → s.md.destinationAddresses = [] := fun hv =>
        hstale (by simp [RuleAction.overridesAddress, hpass, hv])
      exact fun _ => ⟨{ s with md := applyRouteOptions env.toRouteEnv s.md o }, rfl, flow_agrees hport h d hstale'⟩
  | bypass outbound o =>
    have hnamed : outbound ≠ "" := fun he => hbypass o (he ▸ rfl)
    have hstale' : env.isValid o.overrideAddress = true → s.md.destinationAddresses = [] := fun hv =>
      hstale (by simp [RuleAction.overridesAddress, hnamed, hv])
    simp only [preMatchedStep, matchedStep, if_neg hnamed]
    split
    · exact fun _ => ⟨{ s with md := applyRouteOptions env.toRouteEnv s.md o }, rfl, flow_agrees hport h d hstale'⟩
    -- an unchanged destination makes it a bypass, which is no flow
    split <;> exact fun hdecides => Bool.noConfusion hdecides

end

/-! ## The whole walk -/

/-- Every bypass rule names an outbound, and no rule asks a bridge outbound whether it prefers an address. -/
def Comparable (rules : List RouteRule) : Prop :=
  ∀ rule ∈ rules, rule.rule.IgnoresPreMatch ∧ ∀ o, rule.action ≠ .bypass "" o

/-- The rule replaces the destination address in this state. -/
def RouteRule.overridesAddress (env : SniffEnv) (rule : RouteRule) (s : WalkState) : Bool :=
  !rule.disabled && (rule.matches env.toRouteEnv s.md).1 && rule.action.overridesAddress env.toRouteEnv

/-- On its way the walk replaces no destination address while it has addresses resolved for another. -/
def NoStaleAddresses (env : SniffEnv) (rules : List RouteRule) (s : WalkState) : Prop :=
  ∀ rule t, Visits env rules s rule t → rule.overridesAddress env t = true → t.md.destinationAddresses = []

/-- The end of `PreMatch` and the end of `matchRule`: the same selected rule or none, or the same
failing resolve, and a flow that goes to the final destination. -/
def Agree (env : SniffEnv) (packetDestination : Socksaddr) : PreMatched → Matched → Prop
  | .decided (some index) result, .selected index' _ s => index = index' ∧
      (result.action = .flow → FlowsTo env.toRouteEnv packetDestination result s.md.destination)
  | .decided none result, .unmatched s =>
      result.action = .flow → FlowsTo env.toRouteEnv packetDestination result s.md.destination
  | .unresolved index err, .failed (some index') err' => index = index' ∧ err = err'
  | _, _ => False

section
variable {env : SniffEnv} (hport : ∀ a p, env.isDomain { a with port := p } = env.isDomain a)
  {firstPacket : List UInt8} {packetDestination : Socksaddr}
include hport

lemma preMatchStep_agrees (h : Lockstep env firstPacket s) (d : DialerFields)
    (hignores : rule.rule.IgnoresPreMatch) (hbypass : ∀ o, rule.action ≠ .bypass "" o)
    (hstale : rule.overridesAddress env s = true → s.md.destinationAddresses = []) :
    StepsAgree env firstPacket packetDestination
      (preMatchStep env firstPacket packetDestination rule (s.md.setDialer d)) (matchStep env rule s) := by
  unfold preMatchStep matchStep
  cases hdisabled : rule.disabled with
  | true => exact ⟨s, d, rfl, rfl, h⟩
  | false =>
    have hmatches := h.matches rule
    have haddr : (rule.matches env.toRouteEnv s.md).2.destinationAddresses = s.md.destinationAddresses :=
      congrArg (·.destinationAddresses) (matches_frame env.toRouteEnv rule s.md)
    rw [matches_setDialer hignores]
    simp only [Bool.false_eq_true, if_false]
    cases hm : (rule.matches env.toRouteEnv s.md).1 with
    | false => exact ⟨{ s with md := (rule.matches env.toRouteEnv s.md).2 }, d, rfl, rfl, hmatches⟩
    | true =>
      refine matchedStep_agrees hport hmatches d hbypass (fun ho => ?_)
      exact haddr.trans (hstale (by simp [RouteRule.overridesAddress, hdisabled, hm, ho]))

lemma preMatchLoop_agrees (hrules : Comparable rules) {index : Nat}
    (h : Lockstep env firstPacket s) (d : DialerFields) (hstale : NoStaleAddresses env rules s)
    (hdecides : (preMatchLoop env firstPacket packetDestination index rules (s.md.setDialer d)).result.action.decides) :
    Agree env packetDestination (preMatchLoop env firstPacket packetDestination index rules (s.md.setDialer d))
      (matchLoop env index rules s) := by
  induction rules generalizing index s d with
  | nil => exact preMatchFlow_flowsTo (s.md.setDialer d) h.addresses
  | cons rule rules ih =>
    obtain ⟨⟨hignores, hbypass⟩, hrules⟩ := List.forall_mem_cons.1 hrules
    have hstep : StepsAgree env firstPacket packetDestination _ _ :=
      preMatchStep_agrees hport h d hignores hbypass (hstale rule s .here)
    rw [preMatchLoop] at hdecides ⊢
    rw [matchLoop]
    cases hpre : preMatchStep env firstPacket packetDestination rule (s.md.setDialer d) with
    | next md =>
      rw [hpre] at hstep hdecides
      obtain ⟨s', d', hs', rfl, h'⟩ := hstep
      simp only [hs']
      exact ih hrules h' d' (fun r t hv => hstale r t (.next hs' hv)) hdecides
    | select result =>
      rw [hpre] at hstep hdecides
      obtain ⟨s', hs', hflow⟩ := hstep hdecides
      simp only [hs']
      exact ⟨rfl, hflow⟩
    | fail err md =>
      rw [hpre] at hstep
      obtain ⟨s', hs'⟩ := hstep
      simp only [hs']
      exact ⟨rfl, rfl⟩

end

/-- Nothing has been sniffed or resolved yet, as where `PreMatch` is called. -/
structure Fresh (md : InboundContext) : Prop where
  destinationAddresses : md.destinationAddresses = []
  sniffError : md.sniffError ≠ some ⟨true⟩
  sniffHost : md.network ≠ networkUDP → md.sniffHost = ""

/-- Whenever `PreMatch` decides on a flow, a drop or a reject, `matchRule` on the same metadata and a
connection with the same first packet selects the same rule or fails in the same resolve, and the
flow goes to the IP of the final destination or to an address resolved for its name. -/
theorem preMatch_agrees_with_matchRule (env : SniffEnv)
    (hport : ∀ a p, env.isDomain { a with port := p } = env.isDomain a) (rules : List RouteRule)
    (hrules : Comparable rules) (md : InboundContext) (hfresh : Fresh md) (firstPacket : List UInt8) (input : Input)
    (hinput : InputFits firstPacket { md, input })
    (hstale : ∀ md', prepareMatchMetadata env.toRouteEnv md = .ok md' → NoStaleAddresses env rules { md := md', input })
    (hdecides : (preMatch env rules md firstPacket).result.action.decides = true) :
    Agree env md.destination (preMatch env rules md firstPacket) (matchRule env rules md input) := by
  have hmark : { md with preMatch := true } = md.setDialer { md.dialer with preMatch := true } := rfl
  unfold preMatch at hdecides ⊢
  rw [hmark, prepareMatchMetadata_setDialer] at hdecides ⊢
  unfold matchRule
  cases hprep : prepareMatchMetadata env.toRouteEnv md with
  | error err => rw [hprep] at hdecides; cases hdecides
  | ok md' =>
    rw [hprep] at hdecides
    have hcarried := prepareMatchMetadata_carriedState env.toRouteEnv md hprep
    have hstate : sniffState md' = sniffState md := congrArg Prod.fst hcarried
    have haddr : md'.destinationAddresses = [] := (congrArg Prod.snd hcarried).trans hfresh.destinationAddresses
    have hinit : Lockstep env firstPacket { md := md', input } :=
      Lockstep.with_md ⟨fun hne => absurd hfresh.destinationAddresses hne, hfresh.sniffError, hfresh.sniffHost, hinput⟩
        hstate (fun hne => absurd haddr hne)
    exact preMatchLoop_agrees hport hrules hinit _ (hstale md' hprep) hdecides

/-! ## Concrete walks -/

lemma Visits.mem {t : WalkState} (h : Visits env rules s rule t) : rule ∈ rules := by
  induction h with
  | here => exact List.mem_cons_self
  | next _ _ ih => exact List.mem_cons_of_mem _ ih

lemma noStaleAddresses_of_rules
    (h : ∀ rule ∈ rules, rule.action.overridesAddress env.toRouteEnv = false) (s : WalkState) :
    NoStaleAddresses env rules s := by
  intro rule t hv hoverrides
  simp only [RouteRule.overridesAddress, h rule hv.mem, Bool.and_false, Bool.false_eq_true] at hoverrides

def wireguard : Outbound where
  tag := "wg"
  type := "wireguard"
  kind := .flow { preMatchFlow := fun _ _ => .flow }

/-- The fake address 198.18.0.1 stands for `a.example`. -/
def fakeIPEnv : SniffEnv :=
  { SniffEnv.bare with
    fakeIPStore := some (fun a => a = .v4 0xc6120001#32, fun _ => some "a.example")
    lookup := fun name _ => .ok [if name = "a.example" then .v4 0x01020304#32 else .v4 0x05060708#32]
    outbound := { outbounds := [wireguard], default := wireguard } }

def fakeIPFlow : InboundContext where
  network := networkUDP
  destination := { addr := .v4 0xc6120001#32, port := 443 }

theorem preMatch_agrees_with_matchRule_fakeIP :
    (preMatch fakeIPEnv [always (.resolve {})] fakeIPFlow []).result.destination = some (.v4 0x01020304#32, 443) ∧
    Agree fakeIPEnv fakeIPFlow.destination (preMatch fakeIPEnv [always (.resolve {})] fakeIPFlow [])
      (matchRule fakeIPEnv [always (.resolve {})] fakeIPFlow (.packets ⟨[], []⟩)) := by
  refine ⟨rfl, preMatch_agrees_with_matchRule fakeIPEnv (fun _ _ => rfl) _ ?_ _ ?_ _ _ ?_ ?_ rfl⟩
  · intro rule hmem
    obtain rfl := List.mem_singleton.1 hmem
    exact ⟨.default (by simp [DefaultItems.IgnoresPreMatch, DefaultItems.allItems]), by simp [always]⟩
  · exact ⟨rfl, by decide, fun hn => absurd rfl hn⟩
  · exact ⟨fun hn => absurd hn (by decide), fun _ => ⟨_, rfl, fun hne => absurd rfl hne⟩⟩
  intro md' _
  refine noStaleAddresses_of_rules (fun rule hmem => ?_) _
  obtain rfl := List.mem_singleton.1 hmem
  rfl

/-- `preferred_by` with a bridge outbound, routed to an outbound that forwards flows. -/
def bridgeRules : List RouteRule :=
  [{ rule := .default { items := [.preferredBy [.bridge fun _ => false] .asIS] } none false none
     action := .route "wg" {} }]

/-- A bridge outbound prefers an address in `PreMatch` only, so `PreMatch` and `matchRule` part. -/
theorem bridge_preferred_in_preMatch_only :
    (preMatch fakeIPEnv bridgeRules { network := networkUDP, destination := { addr := .v4 0x01010101#32 } } []).result.action
        = .flow ∧
      ¬ Agree fakeIPEnv { addr := .v4 0x01010101#32 }
        (preMatch fakeIPEnv bridgeRules { network := networkUDP, destination := { addr := .v4 0x01010101#32 } } [])
        (matchRule fakeIPEnv bridgeRules { network := networkUDP, destination := { addr := .v4 0x01010101#32 } }
          (.packets ⟨[], []⟩)) :=
  ⟨rfl, id⟩

/-- An overridden name keeps the addresses of the old one in `PreMatch`: the flow goes to `a.example`,
the connection to `b.example`. -/
example :
    let rules := [always (.resolve {}), always (.routeOptions { overrideAddress := { fqdn := "b.example" } })]
    (preMatch fakeIPEnv rules fakeIPFlow []).result.destination = some (.v4 0x01020304#32, 443) ∧
      ∃ s, matchRule fakeIPEnv rules fakeIPFlow (.packets ⟨[], []⟩) = .unmatched s ∧
        s.md.destination.fqdn = "b.example" :=
  ⟨rfl, _, rfl, rfl⟩

end SingBox.Route
