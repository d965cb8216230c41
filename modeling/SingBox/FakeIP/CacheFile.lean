import Mathlib.Data.List.AList
import SingBox.Netip
/-!
# FakeIP in the cache file

The cache file (`experimental/cachefile`) keeps the FakeIP mapping in a
database and buffers writes: `pending` collects, and `Flush` moves it to
`writing` while a transaction stores it. Readers look at `pending`, `writing`
and the database in this order. In the two address maps of a buffer the zero
address is a tombstone: the domain lost its address.

`Flush` is split at the points where its locks let other calls run:
`flushBegin`, `flushCommit` or `flushFail`, `flushDone`. The DNS response
cache and the rejection cache share the buffers but none of these maps; they
and the counters that start a flush are left out.
-/
namespace SingBox.FakeIP

structure FakeIPMetadata where
  inet4Range : Prefix
  inet6Range : Prefix
  inet4Current : Addr
  inet6Current : Addr

/-- `pendingWrites`. Only `fakeIPDomain` is iterated over. -/
structure PendingWrites where
  fakeIPDomain : AList fun _ : Addr => String
  fakeIPAddress4 : String → Option Addr
  fakeIPAddress6 : String → Option Addr
  fakeIPMetadata : Option FakeIPMetadata

def newPendingWrites : PendingWrites := ⟨∅, fun _ => none, fun _ => none, none⟩

namespace PendingWrites

def fakeIPAddress (p : PendingWrites) (domain : String) (isIPv6 : Bool) : Option Addr :=
  if isIPv6 then p.fakeIPAddress6 domain else p.fakeIPAddress4 domain

/-- Write the address map of the family `address.Is4()` selects. -/
def setAddress (p : PendingWrites) (is4 : Bool) (domain : String) (value : Addr) : PendingWrites :=
  if is4 then { p with fakeIPAddress4 := Function.update p.fakeIPAddress4 domain (some value) }
  else { p with fakeIPAddress6 := Function.update p.fakeIPAddress6 domain (some value) }

def setDomain (p : PendingWrites) (address : Addr) (domain : String) : PendingWrites :=
  { p with fakeIPDomain := p.fakeIPDomain.insert address domain }.setAddress address.is4 domain address

end PendingWrites

/-- The buckets `fakeip_address`, `fakeip_domain4` and `fakeip_domain6`; the
metadata has a key of its own in the first one. -/
structure Database where
  address : Addr → Option String
  domain4 : String → Option Addr
  domain6 : String → Option Addr
  metadata : Option FakeIPMetadata

namespace Database

def empty : Database := ⟨fun _ => none, fun _ => none, fun _ => none, none⟩

variable (db : Database)

def domainBucket (is4 : Bool) : String → Option Addr := if is4 then db.domain4 else db.domain6

def setDomainBucket (is4 : Bool) (bucket : String → Option Addr) : Database :=
  if is4 then { db with domain4 := bucket } else { db with domain6 := bucket }

/-- The domain bucket without the entry of the domain that held the address. -/
def dropOld (bucket : String → Option Addr) (oldDomain : Option String) (address : Addr) : String → Option Addr :=
  match oldDomain with
  | some old => if bucket old = some address then Function.update bucket old none else bucket
  | none => bucket

/-- `putFakeIP`. The database refuses an empty key: the slice of the zero
address, or the empty domain. -/
def putFakeIP (address : Addr) (domain : String) : Option Database :=
  if address.isValid then
    let bucket := dropOld (db.domainBucket address.is4) (db.address address) address
    if domain = "" then none
    else some ({ db with address := Function.update db.address address (some domain) }.setDomainBucket
      address.is4 (Function.update bucket domain (some address)))
  else none

/-- `writePending`, with the order in which the map is walked. -/
def writePending (order : List (Sigma fun _ : Addr => String))
    (metadata : Option FakeIPMetadata) : Option Database := do
  let db ← order.foldlM (fun db e => db.putFakeIP e.1 e.2) db
  pure (match metadata with
    | some m => { db with metadata := some m }
    | none => db)

end Database

/-- `writing` is set while a flush runs, `committed` once its transaction is
through and only the buffer is left to drop. -/
structure CacheFile where
  pending : PendingWrites
  writing : Option PendingWrites
  committed : Bool
  db : Database

namespace CacheFile

def opened (db : Database) : CacheFile := ⟨newPendingWrites, none, false, db⟩

variable (c : CacheFile)

def fakeIPLoad (address : Addr) : Option String :=
  (c.pending.fakeIPDomain.lookup address).or
    ((c.writing.bind (·.fakeIPDomain.lookup address)).or ((c.db.address address).filter (· ≠ "")))

/-- `FakeIPLoadDomain`: a tombstone is found but not loaded. -/
def fakeIPLoadDomain (domain : String) (isIPv6 : Bool) : Option Addr :=
  ((c.pending.fakeIPAddress domain isIPv6).or
    ((c.writing.bind (·.fakeIPAddress domain isIPv6)).or (c.db.domainBucket (!isIPv6) domain))).filter (·.isValid)

/-- `queueFakeIP`, all that `FakeIPStoreAsync` does. -/
def queueFakeIP (address : Addr) (domain : String) : CacheFile :=
  let pending := match c.fakeIPLoad address with
    | some oldDomain => c.pending.setAddress address.is4 oldDomain .invalid
    | none => c.pending
  { c with pending := pending.setDomain address domain }

/-- The buffered part of `FakeIPSaveMetadata`; it then calls `Flush`. -/
def saveMetadata (metadata : FakeIPMetadata) : CacheFile :=
  { c with pending := { c.pending with fakeIPMetadata := some metadata } }

/-! ## Flush -/

/-- `Flush` up to its transaction. One flush runs at a time. A flush of an
empty buffer, which the source skips, would change nothing. -/
def flushBegin : Option CacheFile :=
  match c.writing with
  | none => some { c with pending := newPendingWrites, writing := some c.pending, committed := false }
  | some _ => none

/-- The transaction succeeds; `order` is the order the map is walked in. -/
def flushCommit (order : List (Sigma fun _ : Addr => String)) : Option CacheFile :=
  match c.writing, c.committed with
  | some writing, false =>
    if order.Perm writing.fakeIPDomain.entries then
      (c.db.writePending order writing.fakeIPMetadata).map fun db => { c with db := db, committed := true }
    else none
  | _, _ => none

/-- `Flush` after a successful transaction. -/
def flushDone : Option CacheFile :=
  match c.writing, c.committed with
  | some _, true => some { c with writing := none, committed := false }
  | _, _ => none

/-- One round of the FakeIP loop of `restorePendingLocked`. -/
def restoreDomain (pending : PendingWrites) (address : Addr) (domain : String) : PendingWrites :=
  if (pending.fakeIPDomain.lookup address).isSome then pending
  else if (pending.fakeIPAddress domain address.is6).isSome then pending
  else pending.setDomain address domain

def restorePendingLocked (pending writing : PendingWrites) (order : List (Sigma fun _ : Addr => String)) :
    PendingWrites :=
  let pending := order.foldl (fun p e => restoreDomain p e.1 e.2) pending
  { pending with fakeIPMetadata := pending.fakeIPMetadata.or writing.fakeIPMetadata }

def flushFail (order : List (Sigma fun _ : Addr => String)) : Option CacheFile :=
  match c.writing, c.committed with
  | some writing, false =>
    if order.Perm writing.fakeIPDomain.entries then
      some { c with pending := restorePendingLocked c.pending writing order, writing := none }
    else none
  | _, _ => none

/-- `FakeIPReset`: it waits for a running flush; `ok` says whether the
transaction that drops the buckets succeeds. -/
def fakeIPReset (ok : Bool) : Option CacheFile :=
  match c.writing with
  | none => some { c with pending := newPendingWrites, db := if ok then .empty else c.db }
  | some _ => none

end CacheFile
end SingBox.FakeIP
