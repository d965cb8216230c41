import Mathlib.Data.List.AList
import SingBox.Lib.Bytes
/-!
# DNS responses in the cache file

The cache file (`experimental/cachefile`) buffers DNS responses in `pending`;
`Flush` moves the buffer to `writing` while a transaction stores it. Readers
look at `pending`, `writing` and then, after letting go of the buffers, at the
database.

The calls are split where their locks let others run: `LoadDNSCache` into
`lookBuffers` and `viewDatabase`, `DeleteDNSCache` and `ClearDNSCache` into the
part on the buffer and the transaction, `Flush` at its transaction. `Flush`,
`DeleteDNSCache` and `ClearDNSCache` exclude one another by `flushAccess`.
-/
namespace SingBox.Cachefile

structure SaveCacheKey where
  transportName : String
  questionName : String
  qType : UInt16
  deriving DecidableEq

/-- `saveDNSCacheEntry`: eight bytes of expiry and a packed message. -/
structure SaveDNSCacheEntry where
  value : List UInt8
  length_le : 8 ≤ value.length
  deriving DecidableEq

/-- What `LoadDNSCache` returns: the packed message and the Unix time it expires at. -/
structure LoadedEntry where
  rawMessage : List UInt8
  expireAt : Int64
  deriving DecidableEq

/-- The value `queueDNSCache` makes. -/
def newEntry (rawMessage : List UInt8) (expireAt : Int64) : SaveDNSCacheEntry where
  value := Bytes.bigEndian 8 expireAt.toUInt64.toNat ++ rawMessage
  length_le := by simp

def readValue (value : List UInt8) : LoadedEntry :=
  ⟨value.drop 8, (UInt64.ofNat (Bytes.ofBigEndian (value.take 8))).toInt64⟩

/-- How `LoadDNSCache` and `DeleteDNSCache` read a stored value. -/
def readContent (content : Option (List UInt8)) : Option LoadedEntry :=
  content.bind fun value => if value.length < 8 then none else some (readValue value)

@[simp] lemma readValue_newEntry (rawMessage : List UInt8) (expireAt : Int64) :
    readValue (newEntry rawMessage expireAt).value = ⟨rawMessage, expireAt⟩ := by
  have hlen : (Bytes.bigEndian 8 expireAt.toUInt64.toNat).length = 8 := Bytes.length_bigEndian ..
  have htime : Bytes.ofBigEndian (Bytes.bigEndian 8 expireAt.toUInt64.toNat) = expireAt.toUInt64.toNat :=
    Bytes.ofBigEndian_bigEndian expireAt.toUInt64.toNat_lt
  simp [readValue, newEntry, List.take_append_of_le_length hlen.ge, List.drop_append_of_le_length hlen.ge,
    List.take_of_length_le hlen.le, List.drop_of_length_le hlen.le, htime]

lemma readContent_value (e : SaveDNSCacheEntry) : readContent (some e.value) = some (readValue e.value) := by
  simp [readContent, Nat.not_lt.2 e.length_le]

/-! ## The database -/

/-- The bucket `dns_cache`: a bucket for each transport, entries by `cacheEntryKey`. -/
abbrev Bucket := String → List UInt8 → Option (List UInt8)

def cacheEntryKey (key : SaveCacheKey) : List UInt8 :=
  Bytes.bigEndian 2 key.qType.toNat ++ key.questionName.toUTF8.data.toList

section
variable (bucket : Bucket)

def getCacheEntry (key : SaveCacheKey) : Option (List UInt8) :=
  bucket key.transportName (cacheEntryKey key)

def setCacheEntry (key : SaveCacheKey) (value : Option (List UInt8)) : Bucket :=
  Function.update bucket key.transportName
    (Function.update (bucket key.transportName) (cacheEntryKey key) value)

/-- `putCacheEntry`. The database refuses an empty bucket name. -/
def putCacheEntry (key : SaveCacheKey) (value : List UInt8) : Option Bucket :=
  if key.transportName = "" then none else some (setCacheEntry bucket key (some value))

/-- The map `pendingWrites.dnsCache`. -/
abbrev Pending := AList fun _ : SaveCacheKey => SaveDNSCacheEntry

/-- The DNS part of `writePending`. -/
def writePending (pending : Pending) : Option Bucket :=
  pending.entries.foldlM (fun bucket e => putCacheEntry bucket e.1 e.2.value) bucket

end

/-- The DNS part of `restorePendingLocked`. -/
def restorePendingLocked (pending writing : Pending) : Pending :=
  writing.entries.foldl (fun pending e => if (pending.lookup e.1).isSome then pending else pending.insert e.1 e.2)
    pending

/-! ## The cache file -/

/-- Who holds `flushAccess`. A delete or clear past its first part knows which
keys it took out of the buffer. -/
inductive Holder where
  | free
  | flush (writing : Pending) (committed : Bool)
  | delete (key : SaveCacheKey) (rawMessage : List UInt8) (dropped : Bool)
  | clear (dropped : Pending)

structure CacheFile where
  pending : Pending
  holder : Holder
  db : Bucket

namespace CacheFile

def opened (db : Bucket) : CacheFile := ⟨∅, .free, db⟩

def writing (c : CacheFile) : Pending :=
  match c.holder with
  | .flush writing _ => writing
  | _ => ∅

variable (c : CacheFile)

section
variable (key : SaveCacheKey)

/-- `queueDNSCache`, all that `SaveDNSCacheAsync` does. -/
def queueDNSCache (entry : SaveDNSCacheEntry) : CacheFile :=
  { c with pending := c.pending.insert key entry }

/-- The first part of `LoadDNSCache`. -/
def lookBuffers : Option LoadedEntry :=
  ((c.pending.lookup key).or (c.writing.lookup key)).map fun e => readValue e.value

/-- The second part of `LoadDNSCache`. -/
def viewDatabase : Option LoadedEntry := readContent (getCacheEntry c.db key)

/-- `DeleteDNSCache` up to its transaction. -/
def deleteBegin (rawMessage : List UInt8) : Option CacheFile :=
  match c.holder with
  | .free =>
    match c.pending.lookup key with
    | some entry =>
      if (readValue entry.value).rawMessage ≠ rawMessage then some c
      else some { c with pending := c.pending.erase key, holder := .delete key rawMessage true }
    | none => some { c with holder := .delete key rawMessage false }
  | _ => none

/-- Whether the transaction of a delete has something to remove. -/
def stored (rawMessage : List UInt8) : Bool :=
  (c.viewDatabase key).any (·.rawMessage = rawMessage)

end

/-- The transaction of `DeleteDNSCache`; its error is ignored. -/
def deleteCommit (ok : Bool) : Option CacheFile :=
  match c.holder with
  | .delete key rawMessage _ =>
    if ok && c.stored key rawMessage then some { c with db := setCacheEntry c.db key none, holder := .free }
    else some { c with holder := .free }
  | _ => none

/-- `ClearDNSCache` up to its transaction. -/
def clearBegin : Option CacheFile :=
  match c.holder with
  | .free => some { c with pending := ∅, holder := .clear c.pending }
  | _ => none

/-- The transaction of a successful `ClearDNSCache`. -/
def clearCommit : Option CacheFile :=
  match c.holder with
  | .clear _ => some { c with db := fun _ _ => none, holder := .free }
  | _ => none

/-- `Flush` up to its transaction. A flush of an empty buffer, which the source
skips, would change nothing. -/
def flushBegin : Option CacheFile :=
  match c.holder with
  | .free => some { c with pending := ∅, holder := .flush c.pending false }
  | _ => none

/-- The transaction of `Flush` succeeds. -/
def flushCommit : Option CacheFile :=
  match c.holder with
  | .flush writing false => (writePending c.db writing).map fun db => { c with db := db, holder := .flush writing true }
  | _ => none

def flushFail : Option CacheFile :=
  match c.holder with
  | .flush writing false => some { c with pending := restorePendingLocked c.pending writing, holder := .free }
  | _ => none

/-- `Flush` after a successful transaction. -/
def flushDone : Option CacheFile :=
  match c.holder with
  | .flush _ true => some { c with holder := .free }
  | _ => none

end CacheFile
end SingBox.Cachefile
