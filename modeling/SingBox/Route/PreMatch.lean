import SingBox.Route.Match
/-!
# Pre-matching

`PreMatch` walks the route rules for the first packet of a flow, before there
is a connection, and decides whether an outbound forwards the flow as packets
(`preMatchFlow`). It is a second implementation of the walk in `Route/Match.lean`.
-/
namespace SingBox.Route

/-- `adapter.PreMatchResult`; `destination` is `none` when unset. -/
structure PreMatchResult where
  action : PreMatchAction
  outbound : Option Outbound := none
  destination : Option AddrPort := none
  udpTimeout : Nat := 0

def continueResult : PreMatchResult where
  action := .continue

def portProtocols (port : UInt16) : String :=
  if port = 53 then protocolDNS
  else if port = 123 then "ntp"
  else if port = 3478 then "stun"
  else if port = 443 then protocolQUIC
  else ""

/-- `constant.ProtocolTimeouts`, in seconds. -/
def protocolTimeouts (protocol : String) : Nat :=
  if protocol ∈ [protocolDNS, "ntp", "stun"] then 10
  else if protocol ∈ [protocolQUIC, "dtls"] then 30
  else 0

/-- The outbounds a pre-match ends with, and what the last of them says of the flow; an empty chain
is none. `fuel` counts down the depth, which the source limits to 8. -/
def selectPreMatchOutbound (env : RouteEnv) (md : InboundContext) : Nat → Outbound → List Outbound × PreMatchAction
  | 0, _ => ([], .continue)
  | fuel + 1, outbound =>
    match outbound.kind with
    | .group group =>
      match group.preMatchCandidates with
      | some candidates =>
        let offer := fun tag => (env.outbound.outbound tag).bind fun member =>
          let (chain, action) := selectPreMatchOutbound env md fuel member
          if chain = [] then none else some (chain, action)
        match (candidates md).findSome? offer with
        | some (chain, action) => (outbound :: chain, action)
        | none => ([], .continue)
      | none =>
        match (group.selected md.network).bind env.outbound.outbound with
        | none => ([], .continue)
        | some member =>
          let (chain, action) := selectPreMatchOutbound env md fuel member
          if chain = [] then ([], action) else (outbound :: chain, action)
    | .flow flowOutbound =>
      if md.network ∈ outbound.network then
        let flowAction := flowOutbound.preMatchFlow md.network md.destination.addr
        if flowAction = .continue then ([], .continue) else ([outbound], flowAction)
      else ([], .continue)
    | .plain => ([], .continue)

def flowTimeout (md : InboundContext) : Nat :=
  if md.network = networkUDP then
    if md.udpTimeout > 0 then md.udpTimeout
    else
      let protocol := if md.protocol = "" then portProtocols md.destination.port else md.protocol
      protocolTimeouts protocol
  else 0

/-- The addresses `preMatchFlow` picks from for a domain destination. -/
def flowAddresses (env : RouteEnv) (md : InboundContext) (flowOutbound : FlowOutbound) : Except String (List Addr) :=
  if md.destinationAddresses = [] then
    match flowOutbound.flowDomainResolveOptions with
    | some options => env.lookup md.destination.fqdn options
    | none => .ok []
  else .ok md.destinationAddresses

/-- The end of `preMatchFlow`, once the outbound accepts the flow. -/
def flowResult (env : RouteEnv) (md : InboundContext) (packetDestination : Socksaddr) (outbound : Outbound)
    (flowOutbound : FlowOutbound) : PreMatchResult :=
  let result : PreMatchResult := { action := .flow, outbound := some outbound, udpTimeout := flowTimeout md }
  if env.isDomain md.destination then
    if !md.fakeIP && !md.destOverride then continueResult
    else match flowAddresses env md flowOutbound with
    | .error _ => { action := .reject }
    | .ok addresses =>
      match addresses.find? fun address => address.is4 == env.isIPv4 packetDestination with
      | none => { action := .reject }
      | some newDestination =>
        let flowAction := flowOutbound.preMatchFlow md.network newDestination
        if flowAction ≠ .flow then { action := flowAction, outbound := some outbound }
        else { result with destination := some (newDestination, md.destination.port) }
  else if md.destination ≠ packetDestination then { result with destination := some md.destination.addrPort }
  else result

def preMatchFlow (env : RouteEnv) (md : InboundContext) (packetDestination : Socksaddr) (outboundTag : String) :
    PreMatchResult :=
  match if outboundTag = "" then some env.outbound.default else env.outbound.outbound outboundTag with
  | none => continueResult
  | some outbound =>
    let (chain, flowAction) := selectPreMatchOutbound env md 9 outbound
    match chain.getLast? with
    | none => continueResult
    | some outbound =>
      if flowAction ≠ .flow then { action := flowAction, outbound := some outbound }
      else match outbound.kind with
      | .flow flowOutbound => flowResult env md packetDestination outbound flowOutbound
      -- only a flow outbound ends a chain
      | .plain | .group _ => continueResult

/-- The sniff case of `PreMatch`. -/
def preMatchSniff (env : SniffEnv) (md : InboundContext) (firstPacket : List UInt8) (action : SniffAction) :
    Step InboundContext PreMatchResult :=
  if md.network = networkICMP then .next md
  else if md.network ≠ networkUDP || firstPacket = [] then .select continueResult
  else if skip md || md.protocol ≠ "" then .next md
  else if action.packetSniffers = [] && action.streamSniffers ≠ [] then .next md
  else if md.snifferNames = action.snifferNames && md.sniffError.isSome then .next md
  else
    let packetSniffers := if action.packetSniffers = [] then env.defaultPacketSniffers else action.packetSniffers
    let (sniffErr, fields) := peekPacket packetSniffers (sniffFields md) firstPacket
    let md := { setSniffFields md fields with snifferNames := action.snifferNames, sniffError := sniffErr }
    match sniffErr with
    | some err => if err.needMoreData then .select continueResult else .next md
    | none => .next (processQUICSniff env md)

/-- The body of `PreMatch`'s loop for a matched rule; a failed resolve is `fail`. -/
def preMatchedStep (env : SniffEnv) (firstPacket : List UInt8) (packetDestination : Socksaddr) (action : RuleAction)
    (md : InboundContext) : Step InboundContext PreMatchResult :=
  match action with
  | .sniff action => preMatchSniff env md firstPacket action
  | .sniffOverrideDestination =>
    .next (if md.sniffHost ≠ "" then actionSniffOverrideDestination env md .none true else md)
  | .routeOptions options => .next (applyRouteOptionsOverride env.toRouteEnv md options)
  | .route outbound options =>
    if isPassOutbound env.toRouteEnv outbound then .next md
    else .select (preMatchFlow env.toRouteEnv (applyRouteOptionsOverride env.toRouteEnv md options)
      packetDestination outbound)
  | .bypass outbound options =>
    let md := applyRouteOptionsOverride env.toRouteEnv md options
    let overridden := env.isDomain md.destination || md.destination ≠ packetDestination
    if outbound = "" then .select (if overridden then continueResult else { action := .bypass })
    else
      let result := preMatchFlow env.toRouteEnv md packetDestination outbound
      if overridden then .select result
      else if result.action ≠ .flow then .select { action := .bypass }
      else .select { result with action := .bypass }
  | .reject method noDrop recent =>
    match rejectError method noDrop recent with
    | none => .select (if md.network = networkICMP then continueResult else { action := .reject })
    | some .drop => .select { action := .drop }
    | some .reset => .select { action := .reject }
  | .hijackDNS => .select (if md.network ≠ networkUDP then continueResult else { action := .hijackDNS })
  | .resolve action =>
    match actionResolve env.toRouteEnv md action with
    | .error err => .fail err md
    | .ok md => .next md
  | .direct => .select continueResult

/-- The body of `PreMatch`'s loop. -/
def preMatchStep (env : SniffEnv) (firstPacket : List UInt8) (packetDestination : Socksaddr) (rule : RouteRule)
    (md : InboundContext) : Step InboundContext PreMatchResult :=
  if rule.disabled then .next md
  else
    let (matched, md) := rule.matches env.toRouteEnv md
    if matched then preMatchedStep env firstPacket packetDestination rule.action md else .next md

/-- How `PreMatch` ends: a result, with the index of the rule that decided (`none` past the last
rule), or a resolve action that failed. -/
inductive PreMatched where
  | decided (index : Option Nat) (result : PreMatchResult)
  | unresolved (index : Nat) (err : String)

/-- What `PreMatch` returns. -/
def PreMatched.result : PreMatched → PreMatchResult
  | .decided _ result => result
  | .unresolved _ _ => { action := .reject }

def preMatchLoop (env : SniffEnv) (firstPacket : List UInt8) (packetDestination : Socksaddr) :
    Nat → List RouteRule → InboundContext → PreMatched
  | _, [], md => .decided none (preMatchFlow env.toRouteEnv md packetDestination "")
  | index, rule :: rules, md =>
    match preMatchStep env firstPacket packetDestination rule md with
    | .next md => preMatchLoop env firstPacket packetDestination (index + 1) rules md
    | .select result => .decided (some index) result
    | .fail err _ => .unresolved index err

/-- `PreMatch`, with the rule that decided; what it returns is `(preMatch …).result`. -/
def preMatch (env : SniffEnv) (rules : List RouteRule) (md : InboundContext) (firstPacket : List UInt8) : PreMatched :=
  match prepareMatchMetadata env.toRouteEnv { md with preMatch := true } with
  | .error _ => .decided none continueResult
  | .ok prepared => preMatchLoop env firstPacket md.destination 0 rules prepared

end SingBox.Route
