import SingBox.Rule.Match
/-!
# Route actions

The actions a route rule can carry (`route/rule/rule_action.go`), the outbounds
they name, and the metadata changes they make (`route/route.go`). Live state the
router consults (DNS, FakeIP store, process search, neighbors, group selections)
is a field of `RouteEnv`.
-/
namespace SingBox.Route

abbrev AddrPort := Addr × UInt16

end SingBox.Route

namespace SingBox

def Socksaddr.addrPort (a : Socksaddr) : Route.AddrPort := (a.addr, a.port)

end SingBox

namespace SingBox.Route

abbrev networkTCP : String := "tcp"
abbrev networkUDP : String := "udp"
abbrev networkICMP : String := "icmp"
abbrev protocolDNS : String := "dns"
abbrev protocolQUIC : String := "quic"

inductive DomainStrategy where
  | asIS | preferIPv4 | preferIPv6 | ipv4Only | ipv6Only
  deriving DecidableEq

/-- `adapter.DNSQueryOptions`, the transport by its tag. -/
structure DNSQueryOptions where
  transport : Option String := none
  strategy : DomainStrategy := .asIS
  lookupStrategy : DomainStrategy := .asIS
  disableCache : Bool := false
  disableOptimisticCache : Bool := false
  rewriteTTL : Option UInt32 := none
  timeout : Nat := 0
  clientSubnet : Prefix := ⟨.invalid, 0⟩
  removeClientSubnet : Bool := false

inductive PreMatchAction where
  | continue | flow | reject | drop | bypass | hijackDNS
  deriving DecidableEq

/-- `adapter.FlowOutbound`; `flowDomainResolveOptions` is present for a `FlowOutboundDomainResolver`. -/
structure FlowOutbound where
  preMatchFlow : String → Addr → PreMatchAction
  flowDomainResolveOptions : Option DNSQueryOptions := none

/-- `adapter.OutboundGroup`, members by tag. -/
structure OutboundGroup where
  selected : String → Option String
  /-- `SelectConnection`, present for a `ConnectionOutboundGroup`. -/
  selectConnection : Option (InboundContext → Option String) := none
  /-- The members `SelectPreMatchOutbound` offers, in order, until one is accepted; present for a
  `PreMatchOutboundGroup`. -/
  preMatchCandidates : Option (InboundContext → List String) := none

/-- Which of the outbound interfaces an outbound implements. -/
inductive OutboundKind where
  | plain
  | flow (outbound : FlowOutbound)
  | group (group : OutboundGroup)

structure Outbound where
  tag : String
  type : String
  network : List String := [networkTCP, networkUDP]
  kind : OutboundKind := .plain

structure OutboundManager where
  outbounds : List Outbound
  default : Outbound

def OutboundManager.outbound (m : OutboundManager) (tag : String) : Option Outbound :=
  m.outbounds.find? (·.tag = tag)

/-- `constant.ProcessLookupMode` as the router uses it. -/
inductive LookupMode where
  | owner | full
  deriving DecidableEq

/-- What routing reads besides the metadata and the rules. -/
structure RouteEnv extends Env where
  -- predicates of the sing library
  isIPv4 : Socksaddr → Bool
  isValid : Socksaddr → Bool
  isDomainName : String → Bool
  -- `searchProcessInfo`
  processSearcher : Option (LookupMode → String → AddrPort → AddrPort → Option ConnectionOwner) := none
  processLookupMode : LookupMode := .full
  isLocalSource : Addr → Bool := fun _ => false
  /-- `neighborResolver`: `LookupMAC` and `LookupHostname`. -/
  neighborResolver : Option ((Addr → Option String) × (Addr → Option String)) := none
  /-- `dnsTransport.FakeIP().Store()`: `Contains` and `Lookup`. -/
  fakeIPStore : Option ((Addr → Bool) × (Addr → Option String)) := none
  lookupReverseMapping : Addr → Option String := fun _ => none
  /-- `dnsTransport.Transport`, whether a transport of that tag exists. -/
  transport : String → Bool := fun _ => true
  /-- `dns.Lookup`: the addresses of a name, or the error. -/
  lookup : String → DNSQueryOptions → Except String (List Addr)
  /-- `lookupQUICSniff`, by source and destination. -/
  lookupQUICSniff : Socksaddr → Socksaddr → Option String := fun _ _ => none
  outbound : OutboundManager
  /-- `inbound.Get`, and whether the inbound takes TCP or UDP connections from another one. -/
  inbound : String → Option (Bool × Bool) := fun _ => none
  /-- The error for a destination that stood for global multiplex or UDP over TCP. -/
  globalDestination : String → Option String := fun _ => none

/-- `RuleActionRouteOptions`. -/
structure RouteOptions where
  overrideAddress : Socksaddr := {}
  overridePort : UInt16 := 0
  networkStrategy : Option NetworkStrategy := none
  networkType : List InterfaceType := []
  fallbackNetworkType : List InterfaceType := []
  fallbackDelay : Nat := 0
  udpDisableDomainUnmapping : Bool := false
  udpConnect : Bool := false
  udpTimeout : Nat := 0
  tlsFragment : Bool := false
  tlsFragmentFallbackDelay : Nat := 0
  tlsRecordFragment : Bool := false
  tlsSpoof : String := ""
  tlsSpoofMethod : Nat := 0

/-- The fields of the metadata a sniffer reads and writes. -/
structure SniffFields where
  protocol : String := ""
  sniffHost : String := ""
  client : String := ""
  sniffContext : List UInt8 := []

/-- `StreamSniffer` and `PacketSniffer`: what it reports (`none` for success) on the bytes so far. -/
abbrev Sniffer := SniffFields → List UInt8 → Option SniffError × SniffFields

/-- `RuleActionSniff`; the timeout is part of when reads fail (`Route/Sniff.lean`). -/
structure SniffAction where
  snifferNames : List String := []
  streamSniffers : List Sniffer := []
  packetSniffers : List Sniffer := []

/-- `RuleActionResolve`. -/
structure ResolveAction where
  server : String := ""
  timeout : Nat := 0
  strategy : DomainStrategy := .asIS
  disableCache : Bool := false
  disableOptimisticCache : Bool := false
  rewriteTTL : Option UInt32 := none
  clientSubnet : Prefix := ⟨.invalid, 0⟩
  matchOnly : Bool := false

/-- `RuleActionReject.Method`. -/
inductive RejectMethod where
  | default | drop | reply
  deriving DecidableEq

/-- The actions of `NewRuleAction`. -/
inductive RuleAction where
  | route (outbound : String) (options : RouteOptions)
  | routeOptions (options : RouteOptions)
  | bypass (outbound : String) (options : RouteOptions)
  | direct
  /-- `recent` counts the entries of `dropCounter` younger than 30 seconds. -/
  | reject (method : RejectMethod) (noDrop : Bool) (recent : Nat)
  | hijackDNS
  | sniff (action : SniffAction)
  | sniffOverrideDestination
  | resolve (action : ResolveAction)

structure RouteRule where
  rule : Rule
  action : RuleAction
  disabled : Bool := false

variable (env : RouteEnv)

/-- `ResetRuleCache` and then `Match`. -/
def RouteRule.matches (r : RouteRule) (md : InboundContext) : Bool × InboundContext :=
  r.rule.match env.toEnv md.resetRuleCache

/-- The cause of a `RejectedError`. -/
inductive RejectError where
  | reset | drop
  deriving DecidableEq

/-- `RuleActionReject.Error`: more than 50 rejects in 30 seconds turn into drops. -/
def rejectError (method : RejectMethod) (noDrop : Bool) (recent : Nat) : Option RejectError :=
  match method with
  | .drop => some .drop
  | .reply => none
  | .default => if noDrop then some .reset else if recent + 1 > 50 then some .drop else some .reset

/-! ## Outbounds -/

/-- `isPassOutbound`: the outbound, or the selected member of one selector, is of type `pass`. -/
def isPassOutbound (tag : String) : Bool :=
  if tag = "" then false
  else match env.outbound.outbound tag with
  | none => false
  | some outbound =>
    if outbound.type = "selector" then
      match outbound.kind with
      | .group group =>
        match (group.selected networkTCP).bind env.outbound.outbound with
        | some outbound => outbound.type = "pass"
        | none => false
      | .plain | .flow _ => false
    else outbound.type = "pass"

/-- `resolveOutbound`: follow group selections to the outbound that carries the connection. The
outbounds form no cycle, so a chain is no longer than `fuel`, their number. -/
def resolveOutboundLoop (env : RouteEnv) (network : String) (md : InboundContext) :
    Nat → Outbound → Except String (List Outbound)
  | 0, outbound => .error (network.toUpper ++ " is not supported by outbound: " ++ outbound.tag)
  | fuel + 1, outbound =>
    match outbound.kind with
    | .plain | .flow _ =>
      if network ∈ outbound.network then .ok [outbound]
      else .error (network.toUpper ++ " is not supported by outbound: " ++ outbound.tag)
    | .group group =>
      let selected := match group.selectConnection with
        | some selectConnection => selectConnection { md with network := network }
        | none => group.selected network
      match selected.bind env.outbound.outbound with
      | none => .error (network.toUpper ++ " is not supported by outbound: " ++ outbound.tag)
      | some next => (resolveOutboundLoop env network md fuel next).map (outbound :: ·)

def resolveOutbound (outbound : Outbound) (network : String) (md : InboundContext) : Except String (List Outbound) :=
  resolveOutboundLoop env network md (env.outbound.outbounds.length + 1) outbound

/-! ## What happens before the first rule -/

variable (md : InboundContext)

/-- The process `searchProcessInfo` finds, and the full information its resolver returns in owner mode. -/
def findProcessInfo : Option (ConnectionOwner × Option ConnectionOwner) :=
  env.processSearcher.bind fun find =>
    if md.processInfo.isSome || !env.isLocalSource md.source.addr then none
    else
      let originDestination :=
        if env.isValid md.originDestination then md.originDestination.addrPort
        else if env.isIP md.destination then md.destination.addrPort
        else (.invalid, 0)
      (find env.processLookupMode md.network md.source.addrPort originDestination).map fun processInfo =>
        (processInfo, if env.processLookupMode = .owner then
          some ((find .full md.network md.source.addrPort originDestination).getD processInfo) else none)

def searchProcessInfo : InboundContext :=
  match findProcessInfo env md with
  | none => md
  | some (processInfo, none) => { md with processInfo := some processInfo }
  | some (processInfo, some fullInfo) =>
    { md with processInfo := some processInfo, processInfoResolver := some (some fullInfo) }

/-- The neighbor part of `prepareMatchMetadata`. -/
def searchNeighbor : InboundContext :=
  match env.neighborResolver with
  | none => md
  | some (lookupMAC, lookupHostname) =>
    if md.sourceMACAddress.isNone && md.source.addr.isValid then
      { md with
        sourceMACAddress := lookupMAC md.source.addr
        sourceHostname := (lookupHostname md.source.addr).getD md.sourceHostname }
    else md

def searchReverseMapping : InboundContext :=
  if md.domain = "" then
    { md with domain := (env.lookupReverseMapping md.destination.addr).getD md.domain }
  else md

/-- The FakeIP record of an address: `none` if it is no fake address, `some none` if there is no record. -/
def fakeIPDomain (address : Addr) : Option (Option String) :=
  env.fakeIPStore.bind fun (contains, lookup) =>
    if address.isValid && contains address then some (lookup address) else none

/-- The FakeIP part of `prepareMatchMetadata`, and the reverse mapping in its place. -/
def unmapFakeIP : Except String InboundContext :=
  match fakeIPDomain env md.destination.addr with
  | some none => .error "missing fakeip record, try enable `experimental.cache_file`"
  | some (some domain) =>
    .ok <| if domain ≠ "" then
      { md with
        originDestination := md.destination
        destination := { fqdn := domain, port := md.destination.port }
        fakeIP := true }
    else md
  | none => .ok (searchReverseMapping env md)

/-- The last step of `prepareMatchMetadata`. -/
def setIPVersion : InboundContext :=
  if env.isIPv4 md.destination then { md with ipVersion := 4 }
  else if env.isIPv6 md.destination then { md with ipVersion := 6 }
  else md

def prepareMatchMetadata : Except String InboundContext :=
  (unmapFakeIP env (searchNeighbor env (searchProcessInfo env md))).map (setIPVersion env)

/-! ## What an action does to the metadata -/

section
variable (options : RouteOptions)

def applyRouteOptionsOverride : InboundContext :=
  let md := if env.isValid options.overrideAddress then
    { md with destination := { options.overrideAddress with port := md.destination.port } } else md
  let md := if options.overridePort > 0 then
    { md with destination := { md.destination with port := options.overridePort } } else md
  if options.udpTimeout > 0 then { md with udpTimeout := options.udpTimeout } else md

/-- `RouteOriginalDestination` keeps the destination before the first override. -/
def saveOriginalDestination : InboundContext :=
  if (env.isValid options.overrideAddress || options.overridePort > 0) &&
      !env.isValid md.routeOriginalDestination then
    { md with routeOriginalDestination := md.destination }
  else md

/-- An overridden address invalidates what was resolved before. -/
def clearAddresses : InboundContext :=
  if env.isValid options.overrideAddress then { md with destinationAddresses := [] } else md

/-- The options that end up in metadata fields of their own. -/
def applyDialerOptions : InboundContext :=
  { md with
    networkStrategy := options.networkStrategy.or md.networkStrategy
    networkType := if options.networkType.length > 0 then options.networkType else md.networkType
    fallbackNetworkType :=
      if options.fallbackNetworkType.length > 0 then options.fallbackNetworkType else md.fallbackNetworkType
    fallbackDelay := if options.fallbackDelay ≠ 0 then options.fallbackDelay else md.fallbackDelay
    udpDisableDomainUnmapping := options.udpDisableDomainUnmapping || md.udpDisableDomainUnmapping
    udpConnect := options.udpConnect || md.udpConnect
    udpTimeout := if options.udpTimeout > 0 then options.udpTimeout else md.udpTimeout
    tlsFragment := options.tlsFragment || md.tlsFragment
    tlsFragmentFallbackDelay :=
      if options.tlsFragment then options.tlsFragmentFallbackDelay else md.tlsFragmentFallbackDelay
    tlsRecordFragment := options.tlsRecordFragment || md.tlsRecordFragment
    tlsSpoof := if options.tlsSpoof ≠ "" then options.tlsSpoof else md.tlsSpoof
    tlsSpoofMethod := if options.tlsSpoof ≠ "" then options.tlsSpoofMethod else md.tlsSpoofMethod }

/-- The `routeOptions` block of `matchRule`. -/
def applyRouteOptions : InboundContext :=
  let md := clearAddresses env (saveOriginalDestination env md options) options
  applyDialerOptions (applyRouteOptionsOverride env md options) options

end

variable (action : ResolveAction)

def ResolveAction.queryOptions : DNSQueryOptions where
  transport := if action.server ≠ "" then some action.server else none
  strategy := action.strategy
  disableCache := action.disableCache
  disableOptimisticCache := action.disableOptimisticCache
  rewriteTTL := action.rewriteTTL
  timeout := action.timeout
  clientSubnet := action.clientSubnet

def resolveAddresses (fqdn : String) (action : ResolveAction) : Except String (List Addr) :=
  if action.server ≠ "" && !env.transport action.server then .error ("DNS server not found: " ++ action.server)
  else env.lookup fqdn action.queryOptions

def setResolved (addresses : List Addr) : InboundContext :=
  let md := if action.matchOnly then { md with cacheIPs := addresses }
    else { md with destinationAddresses := addresses }
  { md with
    ipVersion :=
      if addresses.length > 0 then
        if addresses.all Addr.is4 then 4 else if addresses.all Addr.is6 then 6 else 0
      else 0 }

def actionResolve : Except String InboundContext :=
  if env.isDomain md.destination then
    (resolveAddresses env md.destination.fqdn action).map (setResolved md action)
  else .ok md

end SingBox.Route
