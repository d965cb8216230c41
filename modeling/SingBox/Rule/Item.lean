import SingBox.Adapter
import SingBox.Common.IpSet
/-!
# Rule items

Every `RuleItem` of `route/rule`, one constructor for each, and its `Match`.
Whatever an item reads besides the metadata (network state, standard-library
string functions, predicates of the sing library) is a field of `Env`.
-/
namespace SingBox

inductive DomainMatchStrategy where
  | asIS | preferFQDN | preferSniffHost | fqdnOnly | sniffHostOnly
  deriving DecidableEq

structure Interface where
  name : String
  addresses : List Prefix := []

structure NetworkInterface extends Interface where
  type : InterfaceType
  expensive : Bool := false
  constrained : Bool := false

/-- What rule items read besides the metadata. -/
structure Env where
  -- predicates of the sing library
  isIP : Socksaddr → Bool
  isIPv6 : Socksaddr → Bool
  isDomain : Socksaddr → Bool
  isPublicAddr : Addr → Bool
  -- `strings.ToLower`, `strings.EqualFold`, `filepath.Base`, `dns.CanonicalName`
  toLower : String → String
  equalFold : String → String → Bool
  baseName : String → String
  canonicalName : String → String
  isAndroid : Bool := false
  -- `adapter.NetworkManager`
  interfaces : List Interface := []
  networkInterfaces : List NetworkInterface := []
  defaultNetworkInterface : Option NetworkInterface := none
  wifiSSID : String := ""
  wifiBSSID : String := ""
  /-- `InterfaceMonitor()`, `none` for a nil monitor: `MyInterfaces` and `DefaultInterface`. -/
  interfaceMonitor : Option (List String × Option Interface) := none
  /-- `ClashServer.Mode`, `none` without a Clash server. -/
  clashMode : Option String := none
  -- `DNSTransportWithConfiguration`, by transport tag
  serverAddresses : String → List Addr := fun _ => []
  searchDomains : String → List String := fun _ => []

/-- A machine without network state, for concrete runs; names are lowercase already. -/
def Env.bare : Env where
  isIP a := a.addr.isValid
  isIPv6 a := a.addr.is6
  isDomain a := a.fqdn ≠ ""
  isPublicAddr _ := true
  toLower s := s
  equalFold s t := s == t
  baseName s := s
  canonicalName s := s

/-- `adapter.OutboundWithPreferredRoutes`, by the metadata its implementations read: the bridge
outbound reads `PreMatch`, the masque client `Network`, the other endpoints none. Each carries a
snapshot of its routes. -/
inductive PreferredRoutes where
  | bridge (isLocalDestination : Addr → Bool)
  | masqueClient (routesContain : String → Addr → Bool)
  | endpoint (domains : String → Bool) (routes : Addr → Bool)

def PreferredRoutes.preferredDomain : PreferredRoutes → InboundContext → String → Bool
  | .bridge _, _, _ | .masqueClient _, _, _ => false
  | .endpoint domains _, _, domain => domains domain

def PreferredRoutes.preferredAddress : PreferredRoutes → InboundContext → Addr → Bool
  | .bridge isLocalDestination, md, address => md.preMatch && !isLocalDestination address
  | .masqueClient routesContain, md, address => routesContain md.network address
  | .endpoint _ routes, _, address => routes address

/-- The message section a `DNSResponseRecordItem` selects. -/
inductive RecordSection where
  | answer | ns | extra
  deriving DecidableEq

def RecordSection.select : RecordSection → Dns.Msg → List Dns.RR
  | .answer, m => m.answer
  | .ns, m => m.ns
  | .extra, m => m.extra

/-- The rule items. Compiled matchers (domain tries, regular expressions,
record comparison) are functions. -/
inductive RuleItem where
  | inbound (inbounds : List String)
  | ipVersion (isIPv6 : Bool)
  | queryType (types : List UInt16)
  | queryClientSubnet (prefixes : List Prefix)
  | queryDNSSEC
  | network (networks : List String)
  | authUser (users : List String)
  | protocol (protocols : List String)
  | client (clients : List String)
  | domain (matcher : String → Bool) (strategy : DomainMatchStrategy)
  | domainKeyword (keywords : List String) (strategy : DomainMatchStrategy)
  | domainRegex (matchers : List (String → Bool)) (strategy : DomainMatchStrategy)
  | adGuardDomain (matcher : String → Bool) (strategy : DomainMatchStrategy)
  | ipCIDR (isSource : Bool) (ipSet : IPSet)
  | ipIsPrivate (isSource : Bool)
  | ipAcceptAny
  | dnsResponseRCode (rcode : Nat)
  | dnsResponseRecord (records : List (Dns.RR → Bool)) (selector : RecordSection)
  | port (isSource : Bool) (ports : List UInt16)
  | portRange (isSource : Bool) (ranges : List (UInt16 × UInt16))
  | process (processes : List String)
  | processPath (paths : List String)
  | processPathRegex (matchers : List (String → Bool))
  | packageName (packages : List String)
  | packageNameRegex (matchers : List (String → Bool))
  | user (users : List String)
  | userId (ids : List Int)
  | outbound (matchAny : Bool) (outbounds : List String)
  | clashMode (modes : List String)
  | networkType (types : List InterfaceType)
  | networkIsExpensive
  | networkIsConstrained
  | wifiSSID (ssids : List String)
  | wifiBSSID (bssids : List String)
  | interfaceAddress (entries : List (String × List Prefix))
  | networkInterfaceAddress (entries : List (InterfaceType × List Prefix))
  | defaultInterfaceAddress (addresses : List Prefix)
  | sourceMACAddress (addresses : List String)
  | sourceHostname (hostnames : List String)
  | preferredBy (outbounds : List PreferredRoutes) (strategy : DomainMatchStrategy)
  | preferredByDNS (transports : List (String → Bool))
  | dnsServerAddress (entries : List (String × List Prefix))
  | dnsSearchDomain (entries : List (String × List String))

/-- The list of `abstractDefaultRule` the constructors append an item to. -/
inductive ItemGroup where
  | item | sourceAddress | sourcePort | destinationAddress | destinationIPCIDR | destinationPort
  deriving DecidableEq

/-- Where `NewDefaultRule`, `NewDefaultDNSRule` and `NewDefaultHeadlessRule` put an item. -/
def RuleItem.group : RuleItem → ItemGroup
  | .domain .. | .domainKeyword .. | .domainRegex .. | .adGuardDomain .. => .destinationAddress
  | .ipCIDR true _ | .ipIsPrivate true => .sourceAddress
  | .ipCIDR false _ | .ipIsPrivate false | .ipAcceptAny => .destinationIPCIDR
  | .port true _ | .portRange true _ => .sourcePort
  | .port false _ | .portRange false _ => .destinationPort
  | _ => .item

variable (env : Env)

/-- The name an item matches against, `""` for none: the switch the domain items share. -/
def domainHost (strategy : DomainMatchStrategy) (md : InboundContext) : String :=
  match strategy with
  | .preferFQDN =>
    if env.isDomain md.destination then md.destination.fqdn
    else if md.sniffHost ≠ "" then md.sniffHost
    else md.domain
  | .fqdnOnly => if env.isDomain md.destination then md.destination.fqdn else ""
  | .sniffHostOnly => md.sniffHost
  | .asIS | .preferSniffHost =>
    if md.sniffHost ≠ "" then md.sniffHost
    else if env.isDomain md.destination then md.destination.fqdn
    else md.domain

/-- A domain item: no name, no match; else the matcher decides on the lowercase name. -/
def matchDomainHost (strategy : DomainMatchStrategy) (md : InboundContext) (matcher : String → Bool) : Bool :=
  let host := domainHost env strategy md
  if host = "" then false else matcher (env.toLower host)

/-- `strings.Contains`. -/
def containsSubstring (s keyword : String) : Bool :=
  decide (keyword.toList <:+: s.toList)

/-- `IPCIDRItem.Match`. -/
def matchIPCIDR (isSource : Bool) (ipSet : IPSet) (md : InboundContext) : Bool :=
  if isSource || md.ipCidrMatchSource then ipSet.contains md.source.addr
  else if md.destinationAddressMatchFromResponse then
    let addresses := md.dnsResponseAddressesForMatch
    if addresses.length = 0 then md.ipCidrAcceptEmpty else addresses.any ipSet.contains
  else if env.isIP md.destination then ipSet.contains md.destination.addr
  else if md.destinationAddresses.length > 0 then md.destinationAddresses.any ipSet.contains
  else if md.cacheIPs.length > 0 then md.cacheIPs.any ipSet.contains
  else md.ipCidrAcceptEmpty

/-- `IPIsPrivateItem.Match`. -/
def matchIPIsPrivate (isSource : Bool) (md : InboundContext) : Bool :=
  let isPrivate := fun a => !env.isPublicAddr a
  if isSource then isPrivate md.source.addr
  else if md.destinationAddressMatchFromResponse then md.dnsResponseAddressesForMatch.any isPrivate
  else if md.destination.addr.isValid then isPrivate md.destination.addr
  else md.destinationAddresses.any isPrivate || md.cacheIPs.any isPrivate

/-- `PreferredByItem.Match`. -/
def matchPreferredBy (outbounds : List PreferredRoutes) (strategy : DomainMatchStrategy)
    (md : InboundContext) : Bool :=
  let host := domainHost env strategy md
  let preferredAddress := fun a => outbounds.any (·.preferredAddress md a)
  host ≠ "" && outbounds.any (·.preferredDomain md host) ||
  env.isIP md.destination && preferredAddress md.destination.addr ||
  md.destinationAddresses.any preferredAddress ||
  md.cacheIPs.any preferredAddress

/-- `ProcessPathItem.Match`: Android accepts package names too. -/
def matchProcessPath (paths : List String) (md : InboundContext) : Bool :=
  let anyPackage := fun (owner : ConnectionOwner) => owner.packageNames.any paths.contains
  if env.isAndroid && md.processInfo.any anyPackage then true
  else match md.resolveProcessInfo with
    | none => false
    | some owner => owner.processPaths.any paths.contains || env.isAndroid && anyPackage owner

/-- `NetworkTypeItem.Match`. -/
def matchNetworkType (types : List InterfaceType) : Bool :=
  if env.isAndroid && env.networkInterfaces.length = 0 then
    types.contains .wifi && env.wifiSSID ≠ ""
  else env.defaultNetworkInterface.any fun iface => types.contains iface.type

/-- `InterfaceAddressItem.Match`: each named interface has an overlapping address. -/
def matchInterfaceAddress (entries : List (String × List Prefix)) : Bool :=
  entries.all fun (ifName, addresses) =>
    match env.interfaces.find? (·.name = ifName) with
    | none => false
    | some iface => iface.name ≠ "" && addresses.any fun address => iface.addresses.any address.overlaps

/-- `NetworkInterfaceAddressItem.Match`. -/
def matchNetworkInterfaceAddress (entries : List (InterfaceType × List Prefix)) : Bool :=
  let myInterfaces := (env.interfaceMonitor.map (·.1)).getD []
  entries.all fun (ifType, addresses) =>
    env.networkInterfaces.any fun iface =>
      !myInterfaces.contains iface.name && iface.type = ifType &&
        iface.addresses.any fun it => addresses.any (·.overlaps it)

/-- `DefaultInterfaceAddressItem.Match`. -/
def matchDefaultInterfaceAddress (addresses : List Prefix) : Bool :=
  match env.interfaceMonitor with
  | some (_, some iface) => addresses.all fun address => iface.addresses.any address.overlaps
  | _ => false

def RuleItem.match (md : InboundContext) : RuleItem → Bool
  | .inbound inbounds => inbounds.contains md.inbound
  | .ipVersion isIPv6 =>
    md.ipVersion ≠ 0 && decide (md.ipVersion = 6) == isIPv6 ||
      env.isIP md.destination && env.isIPv6 md.destination == isIPv6
  | .queryType types => md.queryType ≠ 0 && types.contains md.queryType
  | .queryClientSubnet prefixes => md.queryClientSubnet.isValid && prefixes.any fun p =>
      decide (md.queryClientSubnet.bits ≥ p.bits) && p.contains md.queryClientSubnet.addr
  | .queryDNSSEC => md.queryDNSSEC
  | .network networks => networks.contains md.network
  | .authUser users => users.contains md.user
  | .protocol protocols => protocols.contains md.protocol
  | .client clients => clients.contains md.client
  | .domain matcher strategy => matchDomainHost env strategy md matcher
  | .domainKeyword keywords strategy =>
    matchDomainHost env strategy md fun host => keywords.any (containsSubstring host)
  | .domainRegex matchers strategy => matchDomainHost env strategy md fun host => matchers.any (· host)
  | .adGuardDomain matcher strategy => matchDomainHost env strategy md matcher
  | .ipCIDR isSource ipSet => matchIPCIDR env isSource ipSet md
  | .ipIsPrivate isSource => matchIPIsPrivate env isSource md
  | .ipAcceptAny =>
    if md.destinationAddressMatchFromResponse then md.dnsResponseAddressesForMatch.length > 0
    else md.destinationAddresses.length > 0
  | .dnsResponseRCode rcode => md.dnsResponse.any (·.rcode = rcode)
  | .dnsResponseRecord records selector => md.dnsResponse.any fun response =>
      records.any fun expected => (selector.select response).any expected
  | .port isSource ports => ports.contains (if isSource then md.source.port else md.destination.port)
  | .portRange isSource ranges =>
    let port := if isSource then md.source.port else md.destination.port
    ranges.any fun (first, last) => port ≥ first && port ≤ last
  | .process processes => md.resolveProcessInfo.any fun owner =>
      owner.processPaths.any fun path => processes.contains (env.baseName path)
  | .processPath paths => matchProcessPath env paths md
  | .processPathRegex matchers => md.resolveProcessInfo.any fun owner =>
      matchers.any fun m => owner.processPaths.any m
  | .packageName packages => md.processInfo.any fun owner => owner.packageNames.any packages.contains
  | .packageNameRegex matchers => md.processInfo.any fun owner =>
      matchers.any fun m => owner.packageNames.any m
  | .user users => md.processInfo.any fun owner => owner.userName ≠ "" && users.contains owner.userName
  | .userId ids => md.processInfo.any fun owner => owner.userId ≠ -1 && ids.contains owner.userId
  | .outbound matchAny outbounds =>
    if matchAny then md.outbound ≠ "" else outbounds.contains md.outbound
  | .clashMode modes => env.clashMode.any fun mode => modes.any (env.equalFold mode)
  | .networkType types => matchNetworkType env types
  | .networkIsExpensive => env.defaultNetworkInterface.any (·.expensive)
  | .networkIsConstrained => env.defaultNetworkInterface.any (·.constrained)
  | .wifiSSID ssids => ssids.contains env.wifiSSID
  | .wifiBSSID bssids => bssids.contains env.wifiBSSID
  | .interfaceAddress entries => matchInterfaceAddress env entries
  | .networkInterfaceAddress entries => matchNetworkInterfaceAddress env entries
  | .defaultInterfaceAddress addresses => matchDefaultInterfaceAddress env addresses
  | .sourceMACAddress addresses => md.sourceMACAddress.any addresses.contains
  | .sourceHostname hostnames => md.sourceHostname ≠ "" && hostnames.contains md.sourceHostname
  | .preferredBy outbounds strategy => matchPreferredBy env outbounds strategy md
  | .preferredByDNS transports =>
    let host := if md.domain ≠ "" then md.domain else md.destination.fqdn
    host ≠ "" && transports.any (· (env.canonicalName host))
  | .dnsServerAddress entries => entries.all fun (tag, prefixes) =>
      (env.serverAddresses tag).any fun address => prefixes.any (·.contains address.unmap)
  | .dnsSearchDomain entries => entries.all fun (tag, domains) =>
      (env.searchDomains tag).any fun domain => domains.contains (env.canonicalName domain)

end SingBox
