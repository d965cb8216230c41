import SingBox.Dns.Client.Cache
/-!
# Exchanges of the DNS client

Any number of `Exchange`, `ExchangeAsync` and `Lookup` calls run on one client
at the same time. A call is split where others can run: before it waits for
another call with the same key, and while the transport is asked. Each step
reads the clock and the environment of its transport anew.

Beside the client the state keeps what the history was: the responses stored,
the rejections saved, and what each call returned and where from.
-/
namespace SingBox.Dns
open Route (DomainStrategy DNSQueryOptions)
open Cachefile (SaveCacheKey)

/-- The constructor of a record is the one of its type, as in every message the DNS library builds. -/
def RR.WellTyped : RR → Prop
  | .a h _ => h.rrtype = typeA
  | .aaaa h _ => h.rrtype = typeAAAA
  | .https h _ => h.rrtype = typeHTTPS
  | .cname h _ => h.rrtype = typeCNAME
  | .soa h _ => h.rrtype = typeSOA
  | .opt h _ => h.rrtype = typeOPT
  | .other h _ => h.rrtype ∉ [typeA, typeAAAA, typeHTTPS, typeCNAME, typeSOA, typeOPT]

instance : DecidablePred RR.WellTyped := fun rr => by cases rr <;> (unfold RR.WellTyped; infer_instance)

def Msg.WellTyped (m : Msg) : Prop := ∀ rr ∈ m.answer ++ m.ns ++ m.extra, rr.WellTyped

instance : DecidablePred Msg.WellTyped := fun _ => List.decidableBAll _ _

/-- What a transport returns; an `RcodeError` is told apart from other errors. -/
inductive TransportReply where
  | response (answer : Msg) (typed : answer.WellTyped)
  | rcode (rcode : Nat)
  | failed (message : String)

/-- The arguments of `Exchange` and `ExchangeAsync`; `contextTransport` is the
transport the context already runs in. -/
structure Call where
  transport : String
  message : Msg
  options : DNSQueryOptions := {}
  checker : Option (Msg → Bool) := none
  contextTransport : Option String := none
  async : Bool := false

inductive ExchangeError where
  | rejected
  | rejectedCached
  | failed (message : String)

/-- `exchangeOperation`. No `cacheKey` stands for `disableCache`; `lock` is what `release` gives back. -/
structure Operation where
  call : Call
  message : Msg
  question : Question
  cacheKey : Option DnsCacheKey
  lock : Option DnsExchangeKey

/-- A call that has not returned: it waits for the holder of a key, or for the
transport. A call of `ExchangeAsync` that has to wait goes on as `Exchange`. -/
inductive InFlight where
  | waiting (call : Call) (cond : Option (DnsExchangeKey × Nat))
  | asking (operation : Operation)

/-- A `backgroundRefreshDNS` that runs. -/
structure Refresh where
  key : DnsCacheKey
  call : Call
  message : Msg

/-! ## The history -/

/-- A response that was stored: the call it was stored by, the answer it was made
from, and when and for how many seconds it was stored. -/
structure Stored where
  key : DnsCacheKey
  call : Call
  answer : Msg
  response : Msg
  storedAt : Int
  timeToLive : UInt32

structure Rejection where
  key : SaveCacheKey
  call : Call
  answer : Msg

/-- Where a result came from; a cached response with the key it was found under. -/
inductive Source where
  | made
  | asked (answer : Msg)
  | cached (key : DnsCacheKey) (entry : Option Stored)
  | rejection (entry : Option Rejection)

structure Returned where
  call : Call
  result : Except ExchangeError Msg
  source : Source

/-- The client, its calls, and their history since the caches were last cleared;
`clock` is the last reading of the clock. -/
structure Exchanges where
  client : Client
  clock : Int := 0
  cacheLock : DnsExchangeKey → Option Nat := fun _ => none
  inFlight : List (Nat × InFlight) := []
  backgroundRefresh : List Refresh := []
  stored : List Stored := []
  rejected : List Rejection := []
  returned : List Returned := []

/-! ## Steps -/

def isBadRcode (answer : Msg) : Bool := answer.rcode ≠ rcodeSuccess && answer.rcode ≠ rcodeNameError

/-- The test of `finishExchange` and `backgroundRefreshDNS`. -/
def rejects (check : Msg → Bool) (answer : Msg) : Bool := isBadRcode answer || !check answer

def exchangeToTransport (message : Msg) : TransportReply → Except String Msg
  | .response answer _ => .ok (stripDNSPadding answer)
  | .rcode rcode => .ok (fixedResponseStatus message rcode)
  | .failed err => .error err

def strategyRejects (strategy : DomainStrategy) (question : Question) : Bool :=
  question.qtype = typeA && strategy = .ipv6Only || question.qtype = typeAAAA && strategy = .ipv4Only

def Call.timeout (call : Call) (c : Client) : Nat :=
  if call.options.timeout = 0 then c.options.timeout else call.options.timeout

def Client.sameEntry (c : Client) (k k' : DnsCacheKey) : Bool :=
  if c.dnsCache.isSome then k.saveKey = k'.saveKey else k = k'

namespace Exchanges
variable (s : Exchanges)

def deliver (call : Call) (result : Except ExchangeError Msg) (source : Source) : Exchanges :=
  { s with returned := ⟨call, result, source⟩ :: s.returned }

/-- `release`. -/
def unlock (lock : Option DnsExchangeKey) : Exchanges :=
  match lock with
  | some key => { s with cacheLock := Function.update s.cacheLock key none }
  | none => s

/-- The last response stored where `key` is looked up. -/
def latest (key : DnsCacheKey) : Option Stored :=
  s.stored.find? fun st => s.client.sameEntry st.key key

def latestRejection (key : SaveCacheKey) : Option Rejection := s.rejected.find? (·.key = key)

def store (key : DnsCacheKey) (call : Call) (answer response : Msg) (timeToLive : UInt32) (now : Int) : Exchanges :=
  let (client, kept) := s.client.storeCache key response timeToLive now
  { s with client, stored := if kept then ⟨key, call, answer, response, now, timeToLive⟩ :: s.stored else s.stored }

def reject (question : Question) (call : Call) (answer : Msg) : Exchanges :=
  let key := rejectKey call.transport question
  { s with
    client := s.client.saveRDRC key
    rejected := if s.client.rdrc.isSome then ⟨key, call, answer⟩ :: s.rejected else s.rejected }

/-- `backgroundRefreshDNS` up to its exchange. -/
def backgroundRefreshDNS (key : DnsCacheKey) (call : Call) (message : Msg) : Exchanges :=
  if s.backgroundRefresh.any (·.key = key) then s
  else { s with backgroundRefresh := ⟨key, call, message⟩ :: s.backgroundRefresh }

/-- The end of `beginExchange`, past the cache. -/
def askTransport (id : Nat) (op : Operation) : Exchanges :=
  if op.call.contextTransport = some op.call.transport then
    (s.unlock op.lock).deliver op.call
      (.error (.failed ("DNS query loopback in transport[" ++ op.call.transport ++ "]"))) .made
  else if op.cacheKey.isSome && op.call.checker.isSome &&
      s.client.loadRDRC (rejectKey op.call.transport op.question) then
    (s.unlock op.lock).deliver op.call (.error .rejectedCached)
      (.rejection (s.latestRejection (rejectKey op.call.transport op.question)))
  else { s with inFlight := (id, .asking op) :: s.inFlight }

/-- The rest of a round of the cache loop without a response to return: wait for
the holder of the key, or go on as its holder. -/
def joinLock (id : Nat) (op : Operation) (exchangeKey : DnsExchangeKey) (owner : Option Nat) : Exchanges :=
  match owner with
  | none => s.askTransport id op
  | some owner =>
    let waiting := if op.call.async then .waiting { op.call with async := false } none
      else .waiting op.call (some (exchangeKey, owner))
    { s with inFlight := (id, waiting) :: s.inFlight }

/-- One round of the cache loop of `beginExchange`. -/
def lookCache (id : Nat) (call : Call) (question : Question) (r : Reading) : Exchanges :=
  let message := prepareExchangeMessage s.client.options.clientSubnet call.message call.options
  let key := newCacheKey s.client.options.clientSubnet call.transport question message call.options r
  let exchangeKey : DnsExchangeKey := ⟨key, call.timeout s.client⟩
  let owner := s.cacheLock exchangeKey
  let lock := if owner.isSome then none else some exchangeKey
  let entry := s.latest key
  let (loaded, client) := s.client.loadResponse key r.now
  let s := { s with
    client
    cacheLock := if owner.isSome then s.cacheLock else Function.update s.cacheLock exchangeKey (some id) }
  match loaded with
  | some (response, isStale) =>
    if isStale && !call.options.disableOptimisticCache then
      ((s.backgroundRefreshDNS key call message).unlock lock).deliver call
        (.ok { response with id := message.id }) (.cached key entry)
    else if !isStale then
      (s.unlock lock).deliver call (.ok { response with id := message.id }) (.cached key entry)
    else s.joinLock id ⟨call, message, question, some key, lock⟩ exchangeKey owner
  | none => s.joinLock id ⟨call, message, question, some key, lock⟩ exchangeKey owner

def beginExchange (id : Nat) (call : Call) (r : Reading) : Exchanges :=
  match call.message.question.head? with
  | none => s.deliver call (.ok (fixedResponseStatus call.message rcodeFormatError)) .made
  | some question =>
    if strategyRejects call.options.strategy question then
      s.deliver call (.ok (fixedResponseStatus call.message rcodeSuccess)) .made
    else if !isSimpleRequest call.message || s.client.options.disableCache || call.options.disableCache then
      let message := prepareExchangeMessage s.client.options.clientSubnet call.message call.options
      s.askTransport id ⟨call, message, question, none, none⟩
    else s.lookCache id call question r

def finishExchange (op : Operation) (answer : Msg) (r : Reading) : Exchanges :=
  let cacheKey := if isBadRcode answer then none else op.cacheKey
  if op.call.checker.any (rejects · answer) then
    (if cacheKey.isSome then s.reject op.question op.call answer else s).deliver op.call (.error .rejected)
      (.asked answer)
  else
    let (response, timeToLive) := s.client.applyResponseOptions op.question answer op.call.options
    let s := match cacheKey.bind (finishCacheKey · r) with
      | some key => s.store key op.call answer response timeToLive r.now
      | none => s
    s.deliver op.call (.ok (matchEdns0 op.message { response with id := op.message.id })) (.asked answer)

def receive (op : Operation) (r : Reading) (reply : TransportReply) : Exchanges :=
  match exchangeToTransport op.message reply with
  | .error err => (s.unlock op.lock).deliver op.call (.error (.failed err)) .made
  | .ok answer => (s.finishExchange op answer r).unlock op.lock

/-- The message of `lookupToExchange`. -/
def lookupMessage (name : String) (qType : UInt16) : Msg where
  recursionDesired := true
  question := [{ name := name, qtype := qType }]

/-- `questionCache`, when caching is not disabled. -/
def questionCache (call : Call) (question : Question) (r : Reading) : Exchanges :=
  let key := newCacheKey s.client.options.clientSubnet call.transport question call.message call.options r
  let entry := s.latest key
  let (loaded, client) := s.client.loadResponse key r.now
  let s := { s with client }
  match loaded with
  | some (response, isStale) =>
    if isStale then
      if call.options.disableOptimisticCache then s
      else
        let message := prepareExchangeMessage s.client.options.clientSubnet call.message call.options
        (s.backgroundRefreshDNS key call message).deliver call (.ok response) (.cached key entry)
    else s.deliver call (.ok response) (.cached key entry)
  | none => s

/-- `backgroundRefreshDNS` after its exchange. -/
def finishRefresh (f : Refresh) (r : Reading) (reply : TransportReply) : Exchanges :=
  match exchangeToTransport f.message reply with
  | .error _ => s
  | .ok answer =>
    if f.call.checker.any (rejects · answer) then s.reject f.key.question f.call answer
    else if f.call.checker.isNone && isBadRcode answer then s
    else match finishCacheKey f.key r with
      | none => s
      | some key =>
        let (response, timeToLive) := s.client.applyResponseOptions f.key.question answer f.call.options
        s.store key f.call answer response timeToLive r.now

end Exchanges

inductive ClientEvent where
  | exchange (id : Nat) (call : Call) (r : Reading)
  | retry (id : Nat) (r : Reading)
  | cancel (id : Nat)
  | reply (id : Nat) (r : Reading) (reply : TransportReply)
  | lookup (call : Call) (name : String) (qType : UInt16) (r : Reading)
  | refreshed (key : DnsCacheKey) (r : Reading) (reply : TransportReply)
  | evict (key : DnsCacheKey)
  | evictIndex (key : DnsCacheKey)
  | cleanup (now : Int)
  | forget (key : SaveCacheKey)
  | clearCache

namespace Exchanges
variable (s : Exchanges)

def find (id : Nat) : Option InFlight := (s.inFlight.find? (·.1 = id)).map Prod.snd
def drop (id : Nat) : Exchanges := { s with inFlight := s.inFlight.filter (·.1 ≠ id) }
def readClock (now : Int) : Exchanges := { s with clock := now }

def released : Option (DnsExchangeKey × Nat) → Bool
  | some (key, owner) => s.cacheLock key ≠ some owner
  | none => true

/-- One step: a call starts, wakes up, is cancelled or hears from its transport;
a lookup asks the cache first; a background refresh ends; the caches lose
entries on their own or are cleared. -/
def step : ClientEvent → Option Exchanges
  | .exchange id call r => if (s.find id).isSome then none else some ((s.readClock r.now).beginExchange id call r)
  | .retry id r =>
    match s.find id with
    | some (.waiting call cond) =>
      if s.released cond then some (((s.readClock r.now).drop id).beginExchange id call r) else none
    | _ => none
  | .cancel id =>
    match s.find id with
    | some (.waiting call _) => some ((s.drop id).deliver call (.error (.failed "context canceled")) .made)
    | _ => none
  | .reply id r reply =>
    match s.find id with
    | some (.asking op) => some (((s.readClock r.now).drop id).receive op r reply)
    | _ => none
  | .lookup call name qType r =>
    let call := { call with message := lookupMessage name qType }
    if s.client.options.disableCache || call.options.disableCache then none
    else some ((s.readClock r.now).questionCache call { name := name, qtype := qType } r)
  | .refreshed key r reply =>
    match s.backgroundRefresh.find? (·.key = key) with
    | some f => some (finishRefresh { s.readClock r.now with
        backgroundRefresh := s.backgroundRefresh.filter (·.key ≠ key) } f r reply)
    | none => none
  | .evict key => some { s with client := { s.client with
      cache := s.client.cache.map fun cache => Function.update cache key none } }
  | .evictIndex key => some { s with client := { s.client with
      roundRobinIndex := s.client.roundRobinIndex.map fun index => Function.update index key none } }
  | .cleanup now => some { s.readClock now with client := s.client.cleanupDNSCache now }
  | .forget key => some { s with client := { s.client with
      rdrc := s.client.rdrc.map fun rejected => Function.update rejected key false } }
  | .clearCache => some { s with client := s.client.clearCache, stored := [] }

end Exchanges
end SingBox.Dns
