import SingBox.Cachefile.DnsCache
import SingBox.Dns.Client.Key
/-!
# The caches of the DNS client

A client keeps responses in memory or, when it has a `dnsCache`, in the cache
file, and rejections in the rejection cache. The cache file enters as the plain
map that `Cachefile/PlainMap.lean` compares it with.

The packing of messages and the lifetimes of the memory cache belong to other
packages: fields of `Library`.
-/
namespace SingBox.Dns
open Function
open Route (DNSQueryOptions)
open Cachefile (SaveCacheKey)

def second : Int := 1000000000

/-- What `NewClient` makes of its options. -/
structure ClientOptions where
  timeout : Nat := 10000000000
  disableCache : Bool := false
  disableExpire : Bool := false
  optimisticTimeout : Nat := 0
  roundRobinCache : Bool := false
  minCacheTTL : UInt32 := 0
  maxCacheTTL : UInt32 := 0
  clientSubnet : Prefix := ⟨.invalid, 0⟩
  minCacheTTL_le : maxCacheTTL = 0 ∨ minCacheTTL ≤ maxCacheTTL := by decide

/-- Messages to bytes and back, and when an entry added to the memory cache at
some time for some seconds expires. -/
structure Library where
  pack : Msg → Option (List UInt8)
  unpack : List UInt8 → Option Msg
  expireAfter : Int → UInt32 → Int

/-- A `dnsMsg` in the memory cache, and when it expires. -/
structure MemoryEntry where
  msg : Msg
  rotation : Rotation := {}
  expireAt : Int

/-- An entry of the `DNSCacheStore`, its expiry in Unix seconds. -/
structure StoredEntry where
  rawMessage : List UInt8
  expireAt : Int

/-- The caches of `Client`. -/
structure Client where
  options : ClientOptions
  lib : Library
  cache : Option (DnsCacheKey → Option MemoryEntry)
  dnsCache : Option (SaveCacheKey → Option StoredEntry)
  roundRobinIndex : Option (DnsCacheKey → Option Rotation)
  rdrc : Option (SaveCacheKey → Bool)

def DnsCacheKey.saveKey (k : DnsCacheKey) : SaveCacheKey :=
  ⟨k.persistentName, k.question.name, k.question.qtype⟩

def rejectKey (transportTag : String) (question : Question) : SaveCacheKey :=
  ⟨transportTag, question.name, question.qtype⟩

namespace Client

/-- A client after `Start`, with empty caches. -/
def start (options : ClientOptions) (lib : Library) (storeDNS storeRDRC : Bool) : Client where
  options := options
  lib := lib
  cache := if storeDNS || options.disableCache then none else some fun _ => none
  dnsCache := if storeDNS then some fun _ => none else none
  roundRobinIndex := if storeDNS && options.roundRobinCache then some fun _ => none else none
  rdrc := if storeRDRC then some fun _ => false else none

/-! ## Loading -/

/-- The lifetime left and whether the entry is stale, or nothing for an entry that is over. -/
def lifetime (options : ClientOptions) (now expireAt : Int) : Option (UInt32 × Bool) :=
  if now > expireAt then
    if options.optimisticTimeout > 0 && now < expireAt + options.optimisticTimeout then some (1, true) else none
  else some (UInt32.ofNat ((expireAt - now) / second).toNat, false)

variable (c : Client)

/-- `loadPersistentResponse`: the response, whether it is stale, and the store after it. -/
def loadPersistentResponse (store : SaveCacheKey → Option StoredEntry) (key : DnsCacheKey) (now : Int) :
    Option (Msg × Bool) × (SaveCacheKey → Option StoredEntry) :=
  match store key.saveKey with
  | none => (none, store)
  | some entry =>
    match c.lib.unpack entry.rawMessage with
    | none => (none, update store key.saveKey none)
    | some response =>
      if c.options.disableExpire then (some (response, false), store)
      else
        ((lifetime c.options now (entry.expireAt * second)).map fun (ttl, isStale) =>
          (normalizeTTL response ttl, isStale), store)

def getRoundRobin (entry : MemoryEntry) : MemoryEntry × Msg :=
  if c.options.roundRobinCache then
    let (rotation, msg) := applyRoundRobin entry.rotation entry.msg
    ({ entry with rotation }, msg)
  else (entry, entry.msg)

/-- The part of `loadResponse` on the memory cache. -/
def loadMemoryResponse (cache : DnsCacheKey → Option MemoryEntry) (key : DnsCacheKey) (now : Int) :
    Option (Msg × Bool) × (DnsCacheKey → Option MemoryEntry) :=
  match cache key with
  | none => (none, cache)
  | some cached =>
    let (entry, response) := c.getRoundRobin cached
    if c.options.disableExpire then (some (response, false), update cache key (some entry))
    else
      match lifetime c.options now cached.expireAt with
      | some (ttl, isStale) => (some (normalizeTTL response ttl, isStale), update cache key (some entry))
      | none => (none, update cache key none)

def loadResponse (key : DnsCacheKey) (now : Int) : Option (Msg × Bool) × Client :=
  match c.dnsCache with
  | some store =>
    let (loaded, store) := c.loadPersistentResponse store key now
    let c := { c with dnsCache := some store }
    match loaded, c.roundRobinIndex with
    | some (response, isStale), some index =>
      let (rotation, response) := applyRoundRobin ((index key).getD {}) response
      (some (response, isStale), { c with roundRobinIndex := some (update index key (some rotation)) })
    | loaded, _ => (loaded, c)
  | none =>
    match c.cache with
    | none => (none, c)
    | some cache =>
      let (loaded, cache) := c.loadMemoryResponse cache key now
      (loaded, { c with cache := some cache })

/-! ## Storing -/

def applyResponseOptions (question : Question) (response : Msg) (options : DNSQueryOptions) : Msg × UInt32 :=
  let response := filterHints question response options.strategy
  let timeToLive := max (computeTimeToLive response) c.options.minCacheTTL
  let timeToLive := if c.options.maxCacheTTL > 0 then min timeToLive c.options.maxCacheTTL else timeToLive
  let timeToLive := options.rewriteTTL.getD timeToLive
  (normalizeTTL response timeToLive, timeToLive)

/-- `storeCache`, and whether the response was stored. -/
def storeCache (key : DnsCacheKey) (message : Msg) (timeToLive : UInt32) (now : Int) : Client × Bool :=
  if timeToLive = 0 then (c, false)
  else match c.dnsCache with
    | some store =>
      match c.lib.pack message with
      | none => (c, false)
      | some packed =>
        let expireAt := now + second * timeToLive.toNat
        ({ c with dnsCache := some (update store key.saveKey (some ⟨packed, expireAt / second⟩)) }, true)
    | none =>
      match c.cache with
      | none => (c, false)
      | some cache =>
        let entry : MemoryEntry := { msg := message, expireAt := c.lib.expireAfter now timeToLive }
        ({ c with cache := some (update cache key (some entry)) }, true)

/-- `SaveRDRCAsync`, when there is a rejection cache. -/
def saveRDRC (key : SaveCacheKey) : Client :=
  { c with rdrc := c.rdrc.map fun rejected => update rejected key true }

/-- `LoadRDRC`, when there is a rejection cache. -/
def loadRDRC (key : SaveCacheKey) : Bool := c.rdrc.any (· key)

/-- `ClearCache`, when the cache file is cleared without an error. -/
def clearCache : Client :=
  { c with
    roundRobinIndex := c.roundRobinIndex.map fun _ _ => none
    cache := c.cache.map fun _ _ => none
    dnsCache := c.dnsCache.map fun _ _ => none }

/-- `cleanupDNSCache` of the cache file, which has the client's settings. -/
def cleanupDNSCache (now : Int) : Client :=
  { c with dnsCache := c.dnsCache.map fun store key => (store key).filter fun entry =>
      c.options.disableExpire || now ≤ entry.expireAt * second + c.options.optimisticTimeout }

end Client
end SingBox.Dns
