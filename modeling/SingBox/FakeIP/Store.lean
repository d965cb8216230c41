import SingBox.FakeIP.CacheFile
import SingBox.Lib.Machine
/-!
# The FakeIP store

`Store` of `dns/transport/fakeip` hands out the addresses of two ranges in
ring order. It writes ahead to the metadata a position 1024 addresses further
on, so that a restart after a crash continues past every address handed out.

A `System` is a store on a cache file, with what the two have done so far as
far as the results speak about it. Its events are the calls of the store, the
phases of a flush, and a crash followed by `Start`.
-/
namespace SingBox.FakeIP

def reservedAddressCount : Nat := 1024

/-- `broadcastAddress`: all host bits set. -/
def broadcastAddress (p : Prefix) : Addr :=
  match p.addr with
  | .invalid => .invalid
  | .v4 n => .v4 (n ||| (BitVec.allOnes 32 >>> p.bits))
  | .v6 n => .v6 (n ||| (BitVec.allOnes 128 >>> p.bits))

def nextAddress (addressRange : Prefix) (last current : Addr) : Addr :=
  let address := current.next
  if address = last ∨ addressRange.contains address = false then addressRange.addr.next.next else address

/-- `inet4Last` or `inet6Last`, which `NewStore` leaves zero for no range. -/
def lastAddress (range : Prefix) : Addr := if range.isValid then broadcastAddress range else .invalid

def advance (range : Prefix) (address : Addr) : Addr :=
  if address.isValid then nextAddress range (lastAddress range) address else address

/-- `Store`, less the storage it is given. -/
structure Store where
  inet4Range : Prefix
  inet6Range : Prefix
  inet4Current : Addr
  inet6Current : Addr
  reservedCount : Nat

namespace Store
variable (s : Store)

def range (isIPv6 : Bool) : Prefix := if isIPv6 then s.inet6Range else s.inet4Range
def current (isIPv6 : Bool) : Addr := if isIPv6 then s.inet6Current else s.inet4Current
def contains (address : Addr) : Bool := s.inet4Range.contains address || s.inet6Range.contains address

/-- `NewStore`. -/
def new (inet4Range inet6Range : Prefix) : Store := ⟨inet4Range, inet6Range, .invalid, .invalid, 0⟩

def resetCurrent : Store :=
  { s with
    reservedCount := 0
    inet4Current := if s.inet4Range.isValid then s.inet4Range.addr.next else s.inet4Current
    inet6Current := if s.inet6Range.isValid then s.inet6Range.addr.next else s.inet6Current }

/-- The metadata `Close` and `Reset` save. -/
def metadata : FakeIPMetadata := ⟨s.inet4Range, s.inet6Range, s.inet4Current, s.inet6Current⟩

def reservation : FakeIPMetadata :=
  { s.metadata with
    inet4Current := (advance s.inet4Range)^[reservedAddressCount] s.inet4Current
    inet6Current := (advance s.inet6Range)^[reservedAddressCount] s.inet6Current }

/-- The part of `Start` that reads the metadata; without usable metadata the
store begins anew and has the storage reset. -/
def start (metadata : Option FakeIPMetadata) : Store × Bool :=
  match metadata with
  | some m =>
    if m.inet4Range = s.inet4Range ∧ m.inet6Range = s.inet6Range then
      ({ s with inet4Current := m.inet4Current, inet6Current := m.inet6Current }, false)
    else (s.resetCurrent, true)
  | none => (s.resetCurrent, true)

/-- The allocation at the end of `Create`. -/
def allocate (isIPv6 : Bool) : Store :=
  let address := nextAddress (s.range isIPv6) (lastAddress (s.range isIPv6)) (s.current isIPv6)
  if isIPv6 then { s with reservedCount := s.reservedCount - 1, inet6Current := address }
  else { s with reservedCount := s.reservedCount - 1, inet4Current := address }

end Store

/-- A `Create` that waits for the flush of its reservation. -/
structure Creating where
  domain : String
  isIPv6 : Bool
  /-- a flush that has the reservation in its buffer has begun -/
  flushed : Bool

/-- `handed` are the addresses newly handed out since the last `Start` or
`Reset`, `fresh` those since metadata last became durable, and `closed` says
that `Close` was called. -/
structure System where
  store : Store
  cache : CacheFile
  creating : Option Creating := none
  /-- metadata `Close` has taken and not yet saved -/
  closing : Option FakeIPMetadata := none
  closed : Bool := false
  handed : Bool → List Addr := fun _ => []
  fresh : Bool → List Addr := fun _ => []

inductive Event where
  | create (domain : String) (isIPv6 : Bool)
  | createResume
  | reset (ok : Bool)
  | close
  | closeSave
  | flushBegin
  | flushCommit (order : List (Sigma fun _ : Addr => String))
  | flushDone
  | flushFail (order : List (Sigma fun _ : Addr => String))
  | restart (inet4Range inet6Range : Prefix) (ok : Bool)

namespace System

section
variable (s : System)

/-- The end of `Create`: the next address of the ring goes to the domain. -/
def assign (domain : String) (isIPv6 : Bool) : System :=
  let store := s.store.allocate isIPv6
  let address := store.current isIPv6
  { s with
    store := store
    cache := s.cache.queueFakeIP address domain
    handed := Function.update s.handed isIPv6 (s.handed isIPv6 ++ [address])
    fresh := Function.update s.fresh isIPv6 (s.fresh isIPv6 ++ [address]) }

/-- What `Create` returns: the address of the domain or the next one of the ring, `none` for its error. -/
def answer (domain : String) (isIPv6 : Bool) : Option Addr :=
  match s.cache.fakeIPLoadDomain domain isIPv6 with
  | some address => some address
  | none =>
    if (s.store.current isIPv6).isValid then some ((s.store.allocate isIPv6).current isIPv6) else none

/-- `Create`, up to the flush of a reservation where it makes one. `Create`
returns without effect when the domain has an address or there is no range. -/
def create (domain : String) (isIPv6 : Bool) : System :=
  if (s.cache.fakeIPLoadDomain domain isIPv6).isSome then s
  else if !(s.store.current isIPv6).isValid then s
  else if s.store.reservedCount = 0 then
    { s with cache := s.cache.saveMetadata s.store.reservation, creating := some ⟨domain, isIPv6, false⟩ }
  else s.assign domain isIPv6

/-- `Create` once `FakeIPSaveMetadata` has returned, which it does without an
error whatever became of the flush. -/
def createResume : Option System :=
  match s.creating, s.cache.writing with
  | some c, none =>
    if c.flushed then
      some ({ s with
        store := { s.store with reservedCount := reservedAddressCount }
        creating := none }.assign c.domain c.isIPv6)
    else none
  | _, _ => none

/-- `Reset`: a failure to drop the buckets is reported and nothing else is
done. Flushing the metadata is left to the flush events. -/
def reset (ok : Bool) : Option System :=
  (s.cache.fakeIPReset ok).map fun cache =>
    if ok then
      let store := s.store.resetCurrent
      { s with store := store, cache := cache.saveMetadata store.metadata, handed := fun _ => [], fresh := fun _ => [] }
    else { s with cache := cache }

/-- A crash, and `Start` of a store on what the database holds. `Start`
ignores whether the storage could be reset. -/
def restart (inet4Range inet6Range : Prefix) (ok : Bool) : System :=
  let (store, anew) := (Store.new inet4Range inet6Range).start s.cache.db.metadata
  { store := store
    cache := .opened (if anew && ok then .empty else s.cache.db)
    fresh := if anew then fun _ => [] else s.fresh }

/-- `Create`, `Reset` and `Close` exclude each other by `addressAccess`. -/
def step : Event → Option System
  | .create domain isIPv6 => if s.creating.isNone then some (s.create domain isIPv6) else none
  | .createResume => s.createResume
  | .reset ok => if s.creating.isNone then s.reset ok else none
  | .close =>
    if s.creating.isNone then some { s with closing := some s.store.metadata, closed := true } else none
  | .closeSave => s.closing.map fun m => { s with cache := s.cache.saveMetadata m, closing := none }
  | .flushBegin => s.cache.flushBegin.map fun cache =>
      { s with cache := cache, creating := s.creating.map fun c => { c with flushed := true } }
  | .flushCommit order => (s.cache.flushCommit order).map fun cache =>
      { s with
        cache := cache
        fresh := if (s.cache.writing.bind (·.fakeIPMetadata)).isSome then fun _ => [] else s.fresh }
  | .flushDone => s.cache.flushDone.map fun cache => { s with cache := cache }
  | .flushFail order => (s.cache.flushFail order).map fun cache => { s with cache := cache }
  | .restart inet4Range inet6Range ok => some (s.restart inet4Range inet6Range ok)

end

def init (inet4Range inet6Range : Prefix) : System where
  store := ((Store.new inet4Range inet6Range).start none).1
  cache := .opened .empty

end System
end SingBox.FakeIP
