import SingBox.Netip
import SingBox.Lib.Machine
/-!
# Which session an address belongs to

`Contains` tells the routing rules whether the server can deliver to an address,
`lookup` finds the session for a packet. Only `lookup` leaves out the addresses of
the server itself.
-/
namespace SingBox.Masque
open Function

def bitLen : Addr → Nat
  | .invalid => 0
  | .v4 _ => 32
  | .v6 _ => 128

def value : Addr → Nat
  | .invalid => 0
  | .v4 bits => bits.toNat
  | .v6 bits => bits.toNat

/-- `a.Compare(b) <= 0`, which is by length first. -/
def compareLE (a b : Addr) : Bool := bitLen a < bitLen b || bitLen a == bitLen b && value a ≤ value b

structure AddressRange where
  start : Addr
  End : Addr
  protocol : UInt8

def AddressRange.contains (r : AddressRange) (address : Addr) : Bool :=
  bitLen address == bitLen r.start && compareLE r.start address && compareLE address r.End

/-- ICMPv4 and ICMPv6 -/
def isControlProtocol (protocol : UInt8) : Bool := protocol == 1 || protocol == 58

def routesContain (routes : List AddressRange) (address : Addr) (protocol : UInt8) : Bool :=
  routes.any fun route =>
    route.contains address && (route.protocol == 0 || route.protocol == protocol || isControlProtocol protocol)

def rangesContain (routes : List AddressRange) (address : Addr) : Bool := routes.any (·.contains address)

/-- Sessions are numbers; `assigned` and `peerRoutes` are fields of theirs. -/
structure Server where
  inet4Address : Addr := .invalid
  inet6Address : Addr := .invalid
  addresses : Addr → Option Nat := fun _ => none
  advertisements : List Nat := []
  assigned : Nat → List Addr := fun _ => []
  peerRoutes : Nat → List AddressRange := fun _ => []

namespace Server
variable (s : Server)

def own (a : Addr) : Bool := a == s.inet4Address || a == s.inet6Address

def lookup (destination : Addr) (protocol : UInt8) : Option Nat :=
  match s.addresses destination with
  | some current => some current
  | none =>
    if s.own destination then none
    else s.advertisements.reverse.find? fun it => routesContain (s.peerRoutes it) destination protocol

def advertised (address : Addr) : Bool := s.advertisements.any fun it => rangesContain (s.peerRoutes it) address
def contains (address : Addr) : Bool := (s.addresses address).isSome || s.advertised address

end Server

inductive ServerEvent
  | register (current : Nat) (addresses : List Addr)
  | releaseSession (current : Nat)
  | handleRouteAdvertisement (current : Nat) (routes : List AddressRange)

def step (s : Server) : ServerEvent → Option Server
  | .register current addresses => some { s with
      assigned := update s.assigned current addresses
      addresses := addresses.foldl (fun table address => update table address (some current)) s.addresses }
  | .releaseSession current => some { s with
      addresses := (s.assigned current).foldl
        (fun table address => if table address = some current then update table address none else table) s.addresses
      advertisements := s.advertisements.filter (· ≠ current) }
  | .handleRouteAdvertisement current routes =>
    let advertisements := s.advertisements.filter (· ≠ current)
    some { s with
      peerRoutes := update s.peerRoutes current routes
      advertisements := if routes.length > 0 then advertisements ++ [current] else advertisements }

/-- A packet of a control protocol goes over every route. -/
lemma routesContain_control (routes : List AddressRange) (a : Addr) :
    routesContain routes a 1 = rangesContain routes a := by
  simp [routesContain, rangesContain, isControlProtocol]

lemma rangesContain_of_routesContain {routes : List AddressRange} {a : Addr} {protocol : UInt8}
    (h : routesContain routes a protocol = true) : rangesContain routes a = true := by
  obtain ⟨route, hmem, hroute⟩ := List.any_eq_true.1 h
  exact List.any_eq_true.2 ⟨route, hmem, (Bool.and_eq_true_iff.1 hroute).1⟩

/-- Some peer with a route to the address takes packets of some protocol. -/
lemma advertised_iff (s : Server) (a : Addr) : s.advertised a = true ↔ ∃ protocol,
    (s.advertisements.reverse.find? fun it => routesContain (s.peerRoutes it) a protocol).isSome = true := by
  simp only [List.find?_isSome, List.mem_reverse, Server.advertised, List.any_eq_true]
  constructor
  · rintro ⟨it, hmem, hroute⟩
    exact ⟨1, it, hmem, (routesContain_control _ a).trans hroute⟩
  rintro ⟨protocol, it, hmem, hroute⟩
  exact ⟨it, hmem, rangesContain_of_routesContain hroute⟩

/-- In every state, the server claims an address just when it delivers to it, but for an address of its own that a peer
has a route to. -/
theorem contains_iff_lookup_iff (s : Server) (a : Addr) :
    (s.contains a = true ↔ ∃ protocol, (s.lookup a protocol).isSome = true) ↔
      ¬ (s.own a = true ∧ s.addresses a = none ∧ s.advertised a = true) := by
  unfold Server.contains Server.lookup
  cases haddress : s.addresses a with
  | some current => simp
  | none =>
    cases hown : s.own a with
    | true => simp
    | false => simpa using advertised_iff s a

/-- The peer's routes cover the server's own address. -/
theorem own_address_claimed : ∃ s, Machine.run step { inet4Address := .v4 0x0a000001#32 }
      [.register 0 [.v4 0x0a000002#32], .handleRouteAdvertisement 0 [⟨.v4 0#32, .v4 0xffffffff#32, 0⟩]] = some s ∧
    s.contains (.v4 0x0a000001#32) = true ∧ ∀ protocol, s.lookup (.v4 0x0a000001#32) protocol = none :=
  ⟨_, rfl, by decide, fun _ => rfl⟩

end SingBox.Masque
