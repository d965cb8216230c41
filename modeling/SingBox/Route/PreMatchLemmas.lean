import SingBox.Route.PreMatch
import SingBox.Rule.Inert
/-!
# The parts of pre-matching

Each part of `PreMatch` against its counterpart in `matchRule`: what happens
before the first rule, the destination of a flow, route options, and sniffing
the first packet. The fields no rule reads (`setDialer`) pass through all of
them.
-/
namespace SingBox.Route
variable {packetDestination : Socksaddr} {s : WalkState} {conn : PacketConn}

lemma setDialer_ite {p : Prop} [Decidable p] {a b : InboundContext} {d : DialerFields} :
    (if p then a else b).setDialer d = if p then a.setDialer d else b.setDialer d := by split <;> rfl

/-! ## Before the first rule -/

section
variable (env : RouteEnv) (md : InboundContext) (d : DialerFields)

lemma searchProcessInfo_setDialer :
    searchProcessInfo env (md.setDialer d) = (searchProcessInfo env md).setDialer d := by
  have hfind : findProcessInfo env (md.setDialer d) = findProcessInfo env md := rfl
  unfold searchProcessInfo
  rw [hfind]
  rcases findProcessInfo env md with _ | ⟨processInfo, _ | fullInfo⟩ <;> rfl

lemma searchNeighbor_setDialer : searchNeighbor env (md.setDialer d) = (searchNeighbor env md).setDialer d := by
  unfold searchNeighbor
  cases env.neighborResolver with
  | none => rfl
  | some resolver =>
    rw [setDialer_ite]
    rfl

lemma searchReverseMapping_setDialer :
    searchReverseMapping env (md.setDialer d) = (searchReverseMapping env md).setDialer d := by
  unfold searchReverseMapping
  rw [setDialer_ite]
  rfl

lemma setIPVersion_setDialer : setIPVersion env (md.setDialer d) = (setIPVersion env md).setDialer d := by
  unfold setIPVersion
  rw [setDialer_ite, setDialer_ite]
  rfl

lemma unmapFakeIP_setDialer : unmapFakeIP env (md.setDialer d) = (unmapFakeIP env md).map (·.setDialer d) := by
  have hfake : fakeIPDomain env (md.setDialer d).destination.addr = fakeIPDomain env md.destination.addr := rfl
  unfold unmapFakeIP
  rw [hfake]
  rcases fakeIPDomain env md.destination.addr with _ | _ | domain
  · exact congrArg Except.ok (searchReverseMapping_setDialer env md d)
  · rfl
  refine congrArg Except.ok ?_
  split <;> rfl

lemma prepareMatchMetadata_setDialer :
    prepareMatchMetadata env (md.setDialer d) = (prepareMatchMetadata env md).map (·.setDialer d) := by
  unfold prepareMatchMetadata
  rw [searchProcessInfo_setDialer, searchNeighbor_setDialer, unmapFakeIP_setDialer]
  cases unmapFakeIP env (searchNeighbor env (searchProcessInfo env md)) with
  | error err => rfl
  | ok md => exact congrArg Except.ok (setIPVersion_setDialer env md d)

def sniffState : String × String × Option SniffError :=
  (md.network, md.sniffHost, md.sniffError)

/-- What `prepareMatchMetadata` does not touch. -/
def carriedState : (String × String × Option SniffError) × List Addr :=
  (sniffState md, md.destinationAddresses)

lemma prepareMatchMetadata_carriedState {md' : InboundContext} (h : prepareMatchMetadata env md = .ok md') :
    carriedState md' = carriedState md := by
  have hprocess : carriedState (searchProcessInfo env md) = carriedState md := by
    unfold searchProcessInfo
    rcases findProcessInfo env md with _ | ⟨processInfo, _ | fullInfo⟩ <;> rfl
  have hneighbor (md : InboundContext) : carriedState (searchNeighbor env md) = carriedState md := by
    unfold searchNeighbor
    cases env.neighborResolver with
    | none => rfl
    | some resolver => dsimp only; split <;> rfl
  have hreverse (md : InboundContext) : carriedState (searchReverseMapping env md) = carriedState md := by
    unfold searchReverseMapping
    split <;> rfl
  have hfake {md md' : InboundContext} (h : unmapFakeIP env md = .ok md') : carriedState md' = carriedState md := by
    unfold unmapFakeIP at h
    split at h
    · cases h
    · cases h
      split <;> rfl
    · cases h
      exact hreverse md
  have hversion (md : InboundContext) : carriedState (setIPVersion env md) = carriedState md := by
    unfold setIPVersion
    split
    · rfl
    · split <;> rfl
  unfold prepareMatchMetadata at h
  cases hu : unmapFakeIP env (searchNeighbor env (searchProcessInfo env md)) with
  | error err => rw [hu] at h; cases h
  | ok md₁ =>
    rw [hu] at h
    cases h
    rw [hversion, hfake hu, hneighbor, hprocess]

end

/-! ## The flow's destination -/

/-- The address of a flow that starts out for `packetDestination`: the IP of the final destination,
or an answer for its name. -/
def FlowsTo (env : RouteEnv) (packetDestination : Socksaddr) (result : PreMatchResult) (destination : Socksaddr) :
    Prop :=
  let address := (result.destination.getD packetDestination.addrPort).1
  (env.isDomain destination = false ∧ address = destination.addr) ∨
    (env.isDomain destination = true ∧
      ∃ options addresses, env.lookup destination.fqdn options = .ok addresses ∧ address ∈ addresses)

/-- The addresses in the metadata were resolved for the name in its destination. -/
def AddressesFit (env : RouteEnv) (md : InboundContext) : Prop :=
  md.destinationAddresses ≠ [] → env.isDomain md.destination = true ∧
    ∃ options, env.lookup md.destination.fqdn options = .ok md.destinationAddresses

section
variable {env : RouteEnv} {md : InboundContext} {flowOutbound : FlowOutbound} (hfit : AddressesFit env md)
include hfit

lemma flowAddresses_fit {addresses : List Addr} {address : Addr}
    (h : flowAddresses env md flowOutbound = .ok addresses)
    (hmem : address ∈ addresses) :
    ∃ options addresses, env.lookup md.destination.fqdn options = .ok addresses ∧ address ∈ addresses := by
  unfold flowAddresses at h
  split at h
  · split at h
    · rename_i options _
      exact ⟨options, addresses, h, hmem⟩
    · cases h; cases hmem
  rename_i hne
  cases h
  obtain ⟨-, options, hlookup⟩ := hfit hne
  exact ⟨options, _, hlookup, hmem⟩

lemma flowResult_flowsTo {outbound : Outbound}
    (h : (flowResult env md packetDestination outbound flowOutbound).action = .flow) :
    FlowsTo env packetDestination (flowResult env md packetDestination outbound flowOutbound) md.destination := by
  unfold flowResult at h ⊢
  cases hdomain : env.isDomain md.destination with
  | true =>
    simp only [hdomain, if_true] at h ⊢
    split at h
    · cases h
    rename_i hreal
    rw [if_neg hreal]
    split at h
    · cases h
    rename_i addresses haddresses
    split at h
    · cases h
    rename_i address hfind
    have hmem := List.mem_of_find?_eq_some hfind
    split at h
    · rename_i hflow
      exact absurd h hflow
    rename_i hflow
    refine .inr ⟨hdomain, ?_⟩
    simp only [if_neg hflow, Option.getD_some]
    exact flowAddresses_fit hfit haddresses hmem
  | false =>
    refine .inl ⟨hdomain, ?_⟩
    simp only [Bool.false_eq_true, if_false]
    split
    · rfl
    rename_i heq
    rw [not_not.1 heq]
    rfl

end

lemma preMatchFlow_flowsTo {env : RouteEnv} (md : InboundContext) {tag : String}
    (hfit : AddressesFit env md) (h : (preMatchFlow env md packetDestination tag).action = .flow) :
    FlowsTo env packetDestination (preMatchFlow env md packetDestination tag) md.destination := by
  unfold preMatchFlow at h ⊢
  split at h
  · cases h
  dsimp only at h ⊢
  split at h
  · cases h
  split at h
  · rename_i hflow
    exact absurd h hflow
  split at h
  · rename_i hflow _ flowOutbound _
    rw [if_neg hflow]
    exact flowResult_flowsTo hfit h
  · cases h
  · cases h

/-! ## Route options -/

section
variable {env : RouteEnv} {md : InboundContext} {o : RouteOptions}

lemma applyRouteOptionsOverride_frame (env : RouteEnv) (md : InboundContext) (o : RouteOptions) :
    carriedState (applyRouteOptionsOverride env md o) = carriedState md ∧
    ∀ d, applyRouteOptionsOverride env (md.setDialer d) o = (applyRouteOptionsOverride env md o).setDialer d := by
  refine ⟨?_, fun d => ?_⟩ <;> unfold applyRouteOptionsOverride <;> cases env.isValid o.overrideAddress <;>
    by_cases hp : o.overridePort > 0 <;> by_cases ht : o.udpTimeout > 0 <;>
    simp only [hp, ht, if_true, if_false, Bool.false_eq_true] <;> rfl

lemma applyRouteOptionsOverride_udpTimeout :
    (if o.udpTimeout > 0 then o.udpTimeout else (applyRouteOptionsOverride env md o).udpTimeout) =
      (applyRouteOptionsOverride env md o).udpTimeout := by
  unfold applyRouteOptionsOverride
  by_cases ht : o.udpTimeout > 0 <;> simp only [ht, if_true, if_false]

/-- The full route options do what `PreMatch` does, and set dialer fields; clearing the addresses
makes no difference where there are none. -/
lemma applyRouteOptions_eq (hstale : env.isValid o.overrideAddress = true → md.destinationAddresses = []) :
    ∃ d, applyRouteOptions env md o = (applyRouteOptionsOverride env md o).setDialer d := by
  have hsave : ∃ d, saveOriginalDestination env md o = md.setDialer d := by
    unfold saveOriginalDestination
    split
    · exact ⟨{ md.dialer with routeOriginalDestination := md.destination }, rfl⟩
    · exact ⟨md.dialer, rfl⟩
  obtain ⟨d, hd⟩ := hsave
  have hclear : clearAddresses env (md.setDialer d) o = md.setDialer d := by
    unfold clearAddresses
    split
    · rename_i hv
      rw [← hstale hv]
      rfl
    · rfl
  have hdialer (md : InboundContext) : applyDialerOptions md o =
      { md with udpTimeout := if o.udpTimeout > 0 then o.udpTimeout else md.udpTimeout }.setDialer
        (applyDialerOptions md o).dialer := rfl
  refine ⟨(applyRouteOptions env md o).dialer, ?_⟩
  rw [applyRouteOptions, hd, hclear, hdialer, applyRouteOptionsOverride_udpTimeout,
    (applyRouteOptionsOverride_frame ..).2]
  rfl

/-- An override by port leaves the name, and one by address has no addresses to leave behind. -/
lemma applyRouteOptionsOverride_fit (hport : ∀ a p, env.isDomain { a with port := p } = env.isDomain a)
    (hstale : env.isValid o.overrideAddress = true → md.destinationAddresses = []) (hfit : AddressesFit env md) :
    AddressesFit env (applyRouteOptionsOverride env md o) := by
  intro hne
  rw [show (applyRouteOptionsOverride env md o).destinationAddresses = md.destinationAddresses from
    congrArg Prod.snd (applyRouteOptionsOverride_frame env md o).1] at hne ⊢
  have hvalid : env.isValid o.overrideAddress = false := by
    cases hv : env.isValid o.overrideAddress with
    | false => rfl
    | true => exact absurd (hstale hv) hne
  have hdest : ∃ p, (applyRouteOptionsOverride env md o).destination = { md.destination with port := p } := by
    unfold applyRouteOptionsOverride
    rw [hvalid]
    by_cases hp : o.overridePort > 0
    · refine ⟨o.overridePort, ?_⟩
      by_cases ht : o.udpTimeout > 0 <;> simp [hp, ht]
    refine ⟨md.destination.port, ?_⟩
    by_cases ht : o.udpTimeout > 0 <;> simp [hp, ht]
  obtain ⟨p, hdest⟩ := hdest
  rw [hdest, hport]
  exact hfit hne

end

/-! ## Sniffing the first packet -/

variable (env : SniffEnv) (md : InboundContext) (d : DialerFields) (action : SniffAction) (packet : List UInt8)

lemma sniffPacket_setDialer :
    sniffPacket env (md.setDialer d) action packet = (sniffPacket env md action packet).setDialer d := rfl

lemma finishPackets_setDialer : finishPackets env (md.setDialer d) = (finishPackets env md).setDialer d := by
  have hquic : processQUICSniff env (md.setDialer d) = (processQUICSniff env md).setDialer d := by
    have hlookup : env.lookupQUICSniff (md.setDialer d).source (md.setDialer d).destination =
        env.lookupQUICSniff md.source md.destination := rfl
    unfold processQUICSniff
    rw [hlookup, setDialer_ite]
    refine if_congr Iff.rfl rfl ?_
    rw [setDialer_ite]
    refine if_congr Iff.rfl rfl ?_
    cases env.lookupQUICSniff md.source md.destination <;> rfl
  unfold finishPackets
  rw [setDialer_ite]
  exact if_congr Iff.rfl hquic rfl

lemma finishPackets_keeps : (finishPackets env md).network = md.network ∧
    (finishPackets env md).sniffError = md.sniffError ∧ (finishPackets env md).destination = md.destination ∧
      (finishPackets env md).destinationAddresses = md.destinationAddresses := by
  unfold finishPackets processQUICSniff
  split
  · split
    · exact ⟨rfl, rfl, rfl, rfl⟩
    split
    · exact ⟨rfl, rfl, rfl, rfl⟩
    · split <;> exact ⟨rfl, rfl, rfl, rfl⟩
  · exact ⟨rfl, rfl, rfl, rfl⟩

/-- Whether the sniff action leaves a packet connection alone. -/
def sniffIdle (action : SniffAction) : Bool :=
  skip md || md.protocol ≠ "" || (action.packetSniffers = [] && action.streamSniffers ≠ []) ||
    previouslyFailed md action

lemma sniffPacket_eq (hne : md.sniffError ≠ some ⟨true⟩) : sniffPacket env md action packet =
      let peeked := peekPacket (if action.packetSniffers = [] then env.defaultPacketSniffers
        else action.packetSniffers) (sniffFields md) packet
      { setSniffFields md peeked.2 with snifferNames := action.snifferNames, sniffError := peeked.1 } := by
  have hsniffers : (if action.packetSniffers ≠ [] then action.packetSniffers else env.defaultPacketSniffers) =
      if action.packetSniffers = [] then env.defaultPacketSniffers else action.packetSniffers := by
    simp
  simp only [sniffPacket, hne, decide_false, Bool.and_false, Bool.false_eq_true, if_false, hsniffers]

/-- The three ways a sniff rule goes in `PreMatch`: it gives up, does nothing, or sniffs the packet. -/
lemma preMatchSniff_cases (hne : md.sniffError ≠ some ⟨true⟩) :
    preMatchSniff env md packet action = .select continueResult ∨ (preMatchSniff env md packet action = .next md ∧
      (md.network = networkICMP ∨ md.network = networkUDP ∧ sniffIdle md action = true)) ∨
    (md.network = networkUDP ∧ packet ≠ [] ∧ sniffIdle md action = false ∧
      (sniffPacket env md action packet).sniffError ≠ some ⟨true⟩ ∧
      preMatchSniff env md packet action = .next (finishPackets env (sniffPacket env md action packet))) := by
  have hfailed : (md.snifferNames = action.snifferNames && md.sniffError.isSome : Bool) = previouslyFailed md action := by
    simp [previouslyFailed, hne]
  unfold preMatchSniff
  by_cases hicmp : md.network = networkICMP
  · exact .inr (.inl ⟨if_pos hicmp, .inl hicmp⟩)
  rw [if_neg hicmp]
  by_cases hudp : (md.network ≠ networkUDP || packet = [] : Bool) = true
  · exact .inl (if_pos hudp)
  rw [if_neg hudp]
  simp only [ne_eq, Bool.or_eq_true, decide_eq_true_eq, not_or, not_not] at hudp
  obtain ⟨hudp, hpacket⟩ := hudp
  cases hidle : sniffIdle md action with
  | true =>
    refine .inr (.inl ⟨?_, .inr ⟨hudp, rfl⟩⟩)
    simp only [sniffIdle, Bool.or_eq_true] at hidle
    rw [hfailed]
    split
    · rfl
    split
    · rfl
    split
    · rfl
    · simp_all
  | false =>
    simp only [sniffIdle, Bool.or_eq_false_iff] at hidle
    obtain ⟨⟨⟨hskip, hproto⟩, honly⟩, hprev⟩ := hidle
    rw [hfailed, hprev, honly, hskip, hproto]
    simp only [Bool.or_self, Bool.false_eq_true, if_false]
    have hsniff := sniffPacket_eq env md action packet hne
    generalize peekPacket (if action.packetSniffers = [] then env.defaultPacketSniffers
      else action.packetSniffers) (sniffFields md) packet = peeked at hsniff ⊢
    obtain ⟨err, fields⟩ := peeked
    rcases err with _ | ⟨_ | _⟩
    · refine .inr (.inr ⟨hudp, hpacket, trivial, by simp [hsniff], ?_⟩)
      rw [hsniff]
      rfl
    · refine .inr (.inr ⟨hudp, hpacket, trivial, by simp [hsniff], ?_⟩)
      rw [hsniff]
      rfl
    · exact .inl rfl

/-- The connection of a walk begins with the packet `PreMatch` has, or has been sniffed for it. -/
def InputFits (firstPacket : List UInt8) (s : WalkState) : Prop :=
  (s.md.network = networkICMP → s.input = .none) ∧
  (s.md.network = networkUDP → ∃ conn, s.input = .packets conn ∧ (firstPacket ≠ [] →
    ∃ packet : PacketBuffer, packet.1.payload = firstPacket ∧
      (s.packetBuffers = [packet] ∨ s.packetBuffers = [] ∧ ∃ rest reads, conn = ⟨packet :: rest, .packet :: reads⟩)))

lemma actionSniff_idle {action : SniffAction} (hidle : sniffIdle s.md action = true)
    (hinput : s.input = .packets conn) :
    actionSniff env s.md action s.input s.buffers s.packetBuffers = { md := s.md, input := s.input } := by
  rw [hinput]
  simp only [sniffIdle, Bool.or_eq_true, decide_eq_true_eq] at hidle
  unfold actionSniff
  split
  · rfl
  split
  · rfl
  dsimp only [sniffPackets]
  split
  · rfl
  split
  · rfl
  · simp_all

lemma readPackets_settled {md : InboundContext} {packet : PacketBuffer} {sniffed rest : List PacketBuffer}
    {reads : List PacketRead} (hdone : (sniffPacket env md action packet.1.payload).sniffError ≠ some ⟨true⟩) :
    readPackets env action sniffed md (packet :: rest) (.packet :: reads) =
      { md := finishPackets env (sniffPacket env md action packet.1.payload)
        packetBuffers := sniffed ++ [packet], input := .packets ⟨rest, reads⟩ } := by
  simp only [readPackets]
  exact if_neg hdone

/-- `matchRule` sniffs the packet `PreMatch` has, fresh from the connection or once more. -/
lemma actionSniff_first {action : SniffAction} (hidle : sniffIdle s.md action = false)
    (hinput : s.input = .packets conn) {packet : PacketBuffer}
    (hpacket : s.packetBuffers = [packet] ∨
      s.packetBuffers = [] ∧ ∃ rest reads, conn = ⟨packet :: rest, .packet :: reads⟩)
    (hdone : (sniffPacket env s.md action packet.1.payload).sniffError ≠ some ⟨true⟩) :
    ∃ sniffed conn', actionSniff env s.md action s.input s.buffers s.packetBuffers =
        { md := finishPackets env (sniffPacket env s.md action packet.1.payload)
          packetBuffers := sniffed, input := .packets conn' } ∧
      s.packetBuffers ++ sniffed = [packet] := by
  simp only [sniffIdle, Bool.or_eq_false_iff, decide_eq_false_iff_not, ne_eq, not_not] at hidle
  obtain ⟨⟨⟨hskip, hproto⟩, honly⟩, hprev⟩ := hidle
  rw [hinput, actionSniff, if_neg (by simp [hskip]), if_neg (not_not.2 hproto)]
  rw [sniffPackets, if_neg (by simpa using honly), if_neg (by simp [hprev])]
  rcases hpacket with hbuf | ⟨hbuf, rest, reads, rfl⟩
  · refine ⟨[], conn, ?_, by rw [hbuf]; rfl⟩
    rw [hbuf]
    simp only [resniffPackets, if_neg hdone]
    rfl
  · refine ⟨[packet], ⟨rest, reads⟩, ?_, by rw [hbuf]; rfl⟩
    rw [hbuf]
    exact readPackets_settled env action hdone

end SingBox.Route
