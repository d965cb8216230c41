import Mathlib.Data.BitVec
/-!
# Addresses, prefixes and destinations

`Addr` and `Prefix` follow Go's `net/netip`; `Socksaddr` is the destination
type of the sing library, whose predicates are outside this repository and
come in as fields of `Env` (`Rule/Item.lean`).
-/
namespace SingBox

/-- `netip.Addr`. The zero value `invalid` is what Go returns for "no address".
Zones are left out: no modelled function reads one. -/
inductive Addr where
  | invalid
  | v4 (bits : BitVec 32)
  | v6 (bits : BitVec 128)
  deriving DecidableEq, Inhabited

namespace Addr

def isValid : Addr → Bool
  | .invalid => false
  | _ => true

def is4 : Addr → Bool
  | .v4 _ => true
  | _ => false

/-- `Is6` counts IPv4-mapped addresses in. -/
def is6 : Addr → Bool
  | .v6 _ => true
  | _ => false

def is4In6 : Addr → Bool
  | .v6 b => b >>> 32 == 0xffff#128
  | _ => false

/-- `Unmap` removes the IPv4-mapped prefix. -/
def unmap : Addr → Addr
  | .v6 b => if b >>> 32 == 0xffff#128 then .v4 (b.setWidth 32) else .v6 b
  | a => a

/-- `Next` is the zero value past the last address of the family. -/
def next : Addr → Addr
  | .invalid => .invalid
  | .v4 b => if b = BitVec.allOnes 32 then .invalid else .v4 (b + 1)
  | .v6 b => if b = BitVec.allOnes 128 then .invalid else .v6 (b + 1)

end Addr

/-- `netip.Prefix`: an address, host bits included, and a length. -/
structure Prefix where
  addr : Addr
  bits : Nat
  deriving DecidableEq, Inhabited

namespace Prefix

def isValid (p : Prefix) : Bool :=
  match p.addr with
  | .invalid => false
  | .v4 _ => p.bits ≤ 32
  | .v6 _ => p.bits ≤ 128

/-- `Contains`: families never mix, and an invalid address is in no prefix. -/
def contains (p : Prefix) (a : Addr) : Bool :=
  p.isValid && match p.addr, a with
    | .v4 n, .v4 b => (n ^^^ b) >>> (32 - p.bits) == 0
    | .v6 n, .v6 b => (n ^^^ b) >>> (128 - p.bits) == 0
    | _, _ => false

/-- `Overlaps`: the shorter prefix contains the other's address. -/
def overlaps (p q : Prefix) : Bool :=
  p.isValid && q.isValid && if p.bits ≤ q.bits then p.contains q.addr else q.contains p.addr

end Prefix

/-- `netip.AddrPort` -/
structure AddrPort where
  addr : Addr
  port : UInt16
  deriving DecidableEq, Inhabited

/-- The sing library's destination: an address or a name, and a port. -/
structure Socksaddr where
  addr : Addr := .invalid
  port : UInt16 := 0
  fqdn : String := ""
  deriving DecidableEq, Inhabited

end SingBox
