import SingBox.Dns.Msg
/-!
# Connection metadata

`adapter.InboundContext`, the record every rule match reads and mutates, and
its cache resets. Fields of the source that no modelled function reads or
writes are left out.
-/
namespace SingBox

inductive InterfaceType where
  | wifi | cellular | ethernet | other
  deriving DecidableEq

inductive NetworkStrategy where
  | default | fallback | hybrid
  deriving DecidableEq

structure ConnectionOwner where
  userId : Int := -1
  userName : String := ""
  processPaths : List String := []
  packageNames : List String := []

/-- What callers ask of a sniff error: whether it is `ErrNeedMoreData`. -/
structure SniffError where
  needMoreData : Bool
  deriving DecidableEq

structure InboundContext where
  inbound : String := ""
  inboundType : String := ""
  ipVersion : Nat := 0
  network : String := ""
  source : Socksaddr := {}
  destination : Socksaddr := {}
  user : String := ""
  outbound : String := ""
  -- sniffer
  protocol : String := ""
  sniffHost : String := ""
  client : String := ""
  sniffContext : List UInt8 := []
  snifferNames : List String := []
  sniffError : Option SniffError := none
  -- cache
  inboundDetour : String := ""
  lastInbound : String := ""
  cacheIPs : List Addr := []
  domain : String := ""
  -- route options
  originDestination : Socksaddr := {}
  routeOriginalDestination : Socksaddr := {}
  udpDisableDomainUnmapping : Bool := false
  udpConnect : Bool := false
  udpTimeout : Nat := 0
  tlsFragment : Bool := false
  tlsFragmentFallbackDelay : Nat := 0
  tlsRecordFragment : Bool := false
  tlsSpoof : String := ""
  tlsSpoofMethod : Nat := 0
  networkStrategy : Option NetworkStrategy := none
  networkType : List InterfaceType := []
  fallbackNetworkType : List InterfaceType := []
  fallbackDelay : Nat := 0
  destinationAddresses : List Addr := []
  dnsResponse : Option Dns.Msg := none
  namedDNSResponses : String → Option Dns.Msg := fun _ => none
  destinationAddressMatchFromResponse : Bool := false
  processInfo : Option ConnectionOwner := none
  /-- `ProcessInfoResolver`: `none` for a nil resolver, else what it returns. -/
  processInfoResolver : Option (Option ConnectionOwner) := none
  sourceMACAddress : Option String := none
  sourceHostname : String := ""
  queryType : UInt16 := 0
  queryClientSubnet : Prefix := ⟨.invalid, 0⟩
  queryDNSSEC : Bool := false
  fakeIP : Bool := false
  preMatch : Bool := false
  destOverride : Bool := false
  -- rule cache
  ipCidrMatchSource : Bool := false
  ipCidrAcceptEmpty : Bool := false
  sourceAddressMatch : Bool := false
  sourcePortMatch : Bool := false
  destinationAddressMatch : Bool := false
  destinationPortMatch : Bool := false
  deferredIPCIDRMatchGroups : UInt8 := 0
  ignoreDestinationIPCIDRMatch : Bool := false

namespace InboundContext
variable (md : InboundContext)

def resolveProcessInfo : Option ConnectionOwner :=
  match md.processInfoResolver with
  | some owner => owner
  | none => md.processInfo

def resetRuleMatchCache : InboundContext :=
  { md with
    sourceAddressMatch := false
    sourcePortMatch := false
    destinationAddressMatch := false
    destinationPortMatch := false
    deferredIPCIDRMatchGroups := 0 }

def resetRuleCache : InboundContext :=
  { md with ipCidrMatchSource := false, ipCidrAcceptEmpty := false }.resetRuleMatchCache

def dnsResponseAddressesForMatch : List Addr :=
  Dns.responseAddresses md.dnsResponse

end InboundContext
end SingBox
