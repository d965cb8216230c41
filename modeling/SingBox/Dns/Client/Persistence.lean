import SingBox.Dns.Client.Provenance
import SingBox.Lib.Lists
/-!
# The cache file against the memory cache

Two clients with the same settings, one with the memory cache and one with the
cache file, go through the same history. They differ in how they key their
entries (`DnsCacheKey` against `saveKey`), in the moment an entry expires (the
cache file counts whole seconds) and in what becomes of an expired entry. On
histories where keys and moments are told apart alike (`Comparable`) they give
the same answers.
-/
namespace SingBox.Dns
open Function
open Cachefile (SaveCacheKey)

/-! ## Ages -/

/-- Whether an entry is fresh or stale, or nothing for one that is over. -/
def age (options : ClientOptions) (now expireAt : Int) : Option Bool :=
  (Client.lifetime options now expireAt).map Prod.snd

variable {options : ClientOptions} {clock now : Int} {ε : Type} {ok : ε → Stored → Prop} {expiry : Stored → Int}
open Client

lemma age_over {now' expireAt : Int} (h : age options now expireAt = none)
    (hle : now ≤ now') : age options now' expireAt = none := by
  simp only [age, lifetime, Option.map_eq_none_iff] at h ⊢
  split at h
  · rename_i hgt
    rw [if_pos (by omega)]
    split at h
    · cases h
    rename_i hopt
    rw [if_neg]
    simp only [Bool.and_eq_true, decide_eq_true_eq, not_and, not_lt] at hopt ⊢
    intro hpos
    have := hopt hpos
    omega
  · cases h

namespace Stored

def memoryExpiry (st : Stored) (lib : Library) : Int := lib.expireAfter st.storedAt st.timeToLive
def unixExpiry (st : Stored) : Int := (st.storedAt + second * st.timeToLive.toNat) / second
def fileExpiry (st : Stored) : Int := st.unixExpiry * second

end Stored

/-- What a cache has for the last response stored: an entry for it, or nothing once it is over. -/
def Kept (ok : ε → Stored → Prop) (gone : Stored → Prop) (entry : Option ε) : Option Stored → Prop
  | none => entry = none
  | some st => (∃ e, entry = some e ∧ ok e st) ∨ (entry = none ∧ gone st)

lemma Kept.mono {gone gone' : Stored → Prop} {entry : Option ε}
    {st : Option Stored} (h : Kept ok gone entry st) (ho : ∀ st, gone st → gone' st) : Kept ok gone' entry st := by
  cases st with
  | none => exact h
  | some st => exact h.imp id fun h => ⟨h.1, ho st h.2⟩

variable {st : Stored} {o : Option Stored} {call : Call} {cache : DnsCacheKey → Option MemoryEntry}

lemma Kept.of_some {gone : Stored → Prop} {e : ε} (h : Kept ok gone (some e) o) : ∃ st, o = some st ∧ ok e st := by
  cases o with
  | none => cases h
  | some st =>
    rcases h with ⟨e', he, hok⟩ | ⟨hn, -⟩
    · cases he
      exact ⟨st, rfl, hok⟩
    · cases hn

section
variable (options : ClientOptions) (lib : Library)

/-- An entry that is over at some time, for a cache that lets it expire at `expiry`. -/
def Over (expiry : Stored → Int) (clock : Int) (st : Stored) : Prop :=
  options.disableExpire = false ∧ age options clock (expiry st) = none

/-- The decision of a look at the cache: fresh, stale, or nothing. -/
def decision (expiry : Stored → Int) (now : Int) (st : Option Stored) : Option Bool :=
  st.bind fun st => if options.disableExpire then some false else age options now (expiry st)

def MemoryKept (clock : Int) : Option MemoryEntry → Option Stored → Prop :=
  Kept (fun e st => e.msg = st.response ∧ e.expireAt = st.memoryExpiry lib) (Over options (·.memoryExpiry lib) clock)

def FileKept (clock : Int) : Option StoredEntry → Option Stored → Prop :=
  Kept (fun e st => lib.pack st.response = some e.rawMessage ∧ e.expireAt = st.unixExpiry)
    (Over options Stored.fileExpiry clock)

end

lemma Over.mono {clock' : Int} (hle : clock ≤ clock')
    (h : Over options expiry clock st) : Over options expiry clock' st :=
  ⟨h.1, age_over h.2 hle⟩

lemma Over.decision
    (h : Over options expiry clock st) (hle : clock ≤ now) : decision options expiry now (some st) = none := by
  simp [Dns.decision, h.1, age_over h.2 hle]

lemma Kept.decision_of_none (h : Kept ok (Over options expiry clock) none o) (hle : clock ≤ now) :
    decision options expiry now o = none := by
  cases o with
  | none => rfl
  | some st =>
    rcases h with ⟨e, he, -⟩ | ⟨-, hover⟩
    · cases he
    · exact hover.decision hle

/-! ## Looks at the two caches -/

namespace Client
variable {c : Client} {clock : Int} (key : DnsCacheKey) {now : Int}

lemma loadMemoryResponse_kept {latest : DnsCacheKey → Option Stored}
    (h : ∀ k, MemoryKept c.options c.lib clock (cache k) (latest k)) (hle : clock ≤ now) :
    (c.loadMemoryResponse cache key now).1.map Prod.snd = decision c.options (·.memoryExpiry c.lib) now (latest key) ∧
      ∀ k, MemoryKept c.options c.lib now ((c.loadMemoryResponse cache key now).2 k) (latest k) := by
  have hmono (k) : MemoryKept c.options c.lib now (cache k) (latest k) := (h k).mono fun _ => Over.mono hle
  have hkey := h key
  unfold loadMemoryResponse
  cases hc : cache key with
  | none =>
    rw [hc] at hkey
    exact ⟨(Kept.decision_of_none hkey hle).symm, hmono⟩
  | some cached =>
    rw [hc] at hkey
    obtain ⟨st, hl, hmsg, hexp⟩ := Kept.of_some hkey
    -- a look that returns the entry keeps it, with its rotation moved on
    have hupdate (k) : MemoryKept c.options c.lib now
        (update cache key (some (c.getRoundRobin cached).1) k) (latest k) := by
      by_cases hk : k = key
      · subst hk
        rw [update_self, hl]
        refine .inl ⟨_, rfl, (c.getRoundRobin_msg cached).trans hmsg, ?_⟩
        rw [← hexp]
        unfold getRoundRobin
        split <;> rfl
      · rw [update_of_ne hk]
        exact hmono k
    cases hd : c.options.disableExpire with
    | true => exact ⟨by simp [hl, decision, hd], by simpa [hd] using hupdate⟩
    | false =>
      simp only [Bool.false_eq_true, if_false]
      cases hlife : lifetime c.options now cached.expireAt with
      | some p =>
        obtain ⟨ttl, isStale⟩ := p
        refine ⟨?_, hupdate⟩
        simp [hl, decision, hd, age, ← hexp, hlife]
      | none =>
        refine ⟨by simp [hl, decision, hd, age, ← hexp, hlife], fun k => ?_⟩
        by_cases hk : k = key
        · subst hk
          rw [hl]
          refine .inr ⟨update_self .., hd, ?_⟩
          simp [age, ← hexp, hlife]
        · show MemoryKept c.options c.lib now (update cache key none k) (latest k)
          rw [update_of_ne hk]
          exact hmono k

lemma loadPersistentResponse_kept (hlib : c.lib.Lossless) {store : SaveCacheKey → Option StoredEntry}
    {latest : SaveCacheKey → Option Stored}
    (h : ∀ k, FileKept c.options c.lib clock (store k) (latest k)) (hle : clock ≤ now) :
    (c.loadPersistentResponse store key now).1.map Prod.snd =
        decision c.options Stored.fileExpiry now (latest key.saveKey) ∧
      ∀ k, FileKept c.options c.lib now ((c.loadPersistentResponse store key now).2 k) (latest k) := by
  have hmono (k) : FileKept c.options c.lib now (store k) (latest k) := (h k).mono fun _ => Over.mono hle
  have hkey := h key.saveKey
  unfold loadPersistentResponse
  cases hc : store key.saveKey with
  | none =>
    rw [hc] at hkey
    exact ⟨(Kept.decision_of_none hkey hle).symm, hmono⟩
  | some entry =>
    rw [hc] at hkey
    obtain ⟨st, hl, hpack, hexp⟩ := Kept.of_some hkey
    simp only [hlib _ _ hpack]
    cases hd : c.options.disableExpire with
    | true => exact ⟨by simp [hl, decision, hd], by simpa using hmono⟩
    | false =>
      refine ⟨?_, by simpa using hmono⟩
      simp [hl, decision, hd, age, Stored.fileExpiry, ← hexp, Option.map_map, comp_def]

lemma loadResponse_memory (hd : c.dnsCache = none) (hc : c.cache = some cache) : c.loadResponse key now =
      ((c.loadMemoryResponse cache key now).1, { c with cache := some (c.loadMemoryResponse cache key now).2 }) := by
  simp only [loadResponse, hd, hc]

lemma loadResponse_file (now : Int) {store : SaveCacheKey → Option StoredEntry} (hd : c.dnsCache = some store) :
    (c.loadResponse key now).1.map Prod.snd = (c.loadPersistentResponse store key now).1.map Prod.snd ∧
      (c.loadResponse key now).2.dnsCache = some (c.loadPersistentResponse store key now).2 := by
  simp only [loadResponse, hd]
  split
  · rename_i hl _
    exact ⟨by rw [hl]; rfl, rfl⟩
  · exact ⟨rfl, rfl⟩

end Client

/-! ## Keys of calls -/

/-- The key is one of the call: of its question, its transport and its client subnet. -/
structure DnsCacheKey.Of (clientSubnet : Prefix) (key : DnsCacheKey) (call : Call) : Prop where
  question : call.message.question.head? = some key.question
  transport : key.transportTag = call.transport
  subnet : key.clientSubnet =
    if call.options.removeClientSubnet then ⟨.invalid, 0⟩
    else if (chosenSubnet clientSubnet call.options).isValid then chosenSubnet clientSubnet call.options
    else clientSubnetFromMessage call.message

/-- A cached response is returned under the key it was stored under, and that is a key of both calls. -/
def Source.Own (clientSubnet : Prefix) (call : Call) : Source → Prop
  | .cached key entry => key.Of clientSubnet call ∧ ∀ st ∈ entry, st.key = key ∧ key.Of clientSubnet st.call
  | _ => True

lemma Client.keyOf_of (c : Client) {question : Question} (r : Reading)
    (hq : call.message.question.head? = some question) : (c.keyOf call question r).Of c.options.clientSubnet call where
  question := hq
  transport := rfl
  subnet := by
    simp only [keyOf, newCacheKey, prepareExchangeMessage]
    split
    · rfl
    · split <;> rfl

lemma finishCacheKey_of {clientSubnet : Prefix} {key key' : DnsCacheKey} {r : Reading}
    (hkey : key.Of clientSubnet call) (h : finishCacheKey key r = some key') : key'.Of clientSubnet call := by
  unfold finishCacheKey at h
  dsimp only at h
  split at h
  · cases h
    exact { hkey with }
  · cases h

/-- Every key a client keeps is one of the call it was made for. -/
structure Exchanges.Keyed (clientSubnet : Prefix) (s : Exchanges) : Prop where
  asking : ∀ id op, (id, .asking op) ∈ s.inFlight → ∀ key ∈ op.cacheKey, key.Of clientSubnet op.call
  refresh : ∀ f ∈ s.backgroundRefresh, f.key.Of clientSubnet f.call
  stored : ∀ st ∈ s.stored, st.key.Of clientSubnet st.call
  returned : ∀ r ∈ s.returned, r.source.Own clientSubnet r.call

/-! ## The two clients side by side -/

def ResultAgrees : Except ExchangeError Msg → Except ExchangeError Msg → Prop
  | .ok m, .ok m' => m.Same m'
  | .error e, .error e' => e = e'
  | _, _ => False

lemma ResultAgrees.refl (r : Except ExchangeError Msg) : ResultAgrees r r := by
  cases r with
  | ok m => exact Msg.Same.refl m
  | error e => exact rfl

/-- The same call, answered from the same place with the same. -/
structure Returned.Agrees (r r' : Returned) : Prop where
  call : r.call = r'.call
  source : r.source = r'.source
  result : ResultAgrees r.result r'.result

/-- A client with the memory cache and one with the cache file after the same history. -/
structure Agree (subnet : Prefix) (a b : Exchanges) : Prop where
  clientSubnet : a.client.options.clientSubnet = subnet
  options : b.client.options = a.client.options
  lib : b.client.lib = a.client.lib
  rdrc : b.client.rdrc = a.client.rdrc
  clock : b.clock = a.clock
  cacheLock : b.cacheLock = a.cacheLock
  inFlight : b.inFlight = a.inFlight
  backgroundRefresh : b.backgroundRefresh = a.backgroundRefresh
  stored : b.stored = a.stored
  rejected : b.rejected = a.rejected
  returned : List.Forall₂ Returned.Agrees a.returned b.returned
  keyed : a.Keyed subnet
  memory : a.client.dnsCache = none ∧ ∃ cache, a.client.cache = some cache ∧
    ∀ k, MemoryKept a.client.options a.client.lib a.clock (cache k) (a.stored.find? (·.key = k))
  file : ∃ store, b.client.dnsCache = some store ∧
    ∀ k, FileKept a.client.options a.client.lib a.clock (store k) (a.stored.find? (·.key.saveKey = k))

namespace Agree
variable {subnet : Prefix} {a b : Exchanges}
variable {call : Call} {key : DnsCacheKey}
variable (h : Agree subnet a b)
include h

lemma deliver {result result' : Except ExchangeError Msg} {source : Source}
    (hr : ResultAgrees result result') (hs : source.Own subnet call) :
    Agree subnet (a.deliver call result source) (b.deliver call result' source) :=
  { h with
    returned := .cons ⟨rfl, rfl, hr⟩ h.returned
    keyed := { h.keyed with returned := List.forall_mem_cons.2 ⟨hs, h.keyed.returned⟩ }
    __ := h }

lemma lock {l l' : DnsExchangeKey → Option Nat} (hl : l' = l) :
    Agree subnet { a with cacheLock := l } { b with cacheLock := l' } :=
  { h with cacheLock := hl, keyed := { h.keyed with }, memory := h.memory, file := h.file }

lemma unlock (lock : Option DnsExchangeKey) : Agree subnet (a.unlock lock) (b.unlock lock) := by
  cases lock with
  | none => exact h
  | some key => exact h.lock (by rw [h.cacheLock])

variable (id : Nat) (question : Question)

lemma drop : Agree subnet (a.drop id) (b.drop id) :=
  { h with
    inFlight := by simp [Exchanges.drop, h.inFlight]
    keyed := { h.keyed with asking := fun id op hmem => h.keyed.asking id op (List.mem_of_mem_filter hmem) }
    __ := h }

lemma push {f : InFlight} (hf : ∀ op, f = .asking op → ∀ key ∈ op.cacheKey, key.Of subnet op.call) :
    Agree subnet { a with inFlight := (id, f) :: a.inFlight } { b with inFlight := (id, f) :: b.inFlight } := by
  refine { h with
    inFlight := by simp [h.inFlight]
    keyed := { h.keyed with asking := fun id' op hmem => ?_ }
    __ := h }
  rcases List.mem_cons.1 hmem with he | hmem
  · exact hf op (Prod.mk.inj he).2.symm
  · exact h.keyed.asking id' op hmem

lemma readClock (hle : a.clock ≤ now) : Agree subnet (a.readClock now) (b.readClock now) := by
  obtain ⟨hd, cache, hc, hcache⟩ := h.memory
  obtain ⟨store, hs, hstore⟩ := h.file
  exact { h with
    clock := rfl
    keyed := { h.keyed with }
    memory := ⟨hd, cache, hc, fun k => (hcache k).mono fun _ => Over.mono hle⟩
    file := ⟨store, hs, fun k => (hstore k).mono fun _ => Over.mono hle⟩ }

lemma backgroundRefreshDNS (message : Msg) (hkey : key.Of subnet call) :
    Agree subnet (a.backgroundRefreshDNS key call message) (b.backgroundRefreshDNS key call message) := by
  unfold Exchanges.backgroundRefreshDNS
  rw [h.backgroundRefresh]
  split
  · exact h
  exact { h with
    backgroundRefresh := rfl
    keyed := { h.keyed with refresh := List.forall_mem_cons.2 ⟨hkey, h.keyed.refresh⟩ }
    __ := h }

lemma loadRDRC (key : SaveCacheKey) : b.client.loadRDRC key = a.client.loadRDRC key := by
  simp [Client.loadRDRC, h.rdrc]

lemma latestRejection (key : SaveCacheKey) : b.latestRejection key = a.latestRejection key := by
  simp [Exchanges.latestRejection, h.rejected]

lemma askTransport (op : Operation) (hop : ∀ key ∈ op.cacheKey, key.Of subnet op.call) :
    Agree subnet (a.askTransport id op) (b.askTransport id op) := by
  unfold Exchanges.askTransport
  rw [h.loadRDRC, h.latestRejection]
  split
  · exact (h.unlock _).deliver rfl trivial
  split
  · exact (h.unlock _).deliver rfl trivial
  · exact h.push id fun op' he => InFlight.asking.inj he ▸ hop

lemma joinLock (op : Operation) (exchangeKey : DnsExchangeKey) (owner : Option Nat)
    (hop : ∀ key ∈ op.cacheKey, key.Of subnet op.call) :
    Agree subnet (a.joinLock id op exchangeKey owner) (b.joinLock id op exchangeKey owner) := by
  unfold Exchanges.joinLock
  split
  · exact h.askTransport id op hop
  refine h.push id fun op' he => ?_
  split at he <;> cases he

lemma reject (call : Call) (answer : Msg) :
    Agree subnet (a.reject question call answer) (b.reject question call answer) :=
  { h with
    rdrc := by simp [Exchanges.reject, saveRDRC, h.rdrc]
    rejected := by simp [Exchanges.reject, h.rejected, h.rdrc]
    keyed := { h.keyed with }
    __ := h }

lemma applyResponseOptions (answer : Msg) (options : Route.DNSQueryOptions) :
    b.client.applyResponseOptions question answer options = a.client.applyResponseOptions question answer options := by
  simp [Client.applyResponseOptions, h.options]

lemma store (answer : Msg) {response : Msg} (ttl : UInt32)
    (now : Int) (hkey : key.Of subnet call) (hpack : (a.client.lib.pack response).isSome) :
    Agree subnet (a.store key call answer response ttl now) (b.store key call answer response ttl now) := by
  obtain ⟨hd, cache, hc, hcache⟩ := h.memory
  obtain ⟨store, hs, hstore⟩ := h.file
  obtain ⟨packed, hpacked⟩ := Option.isSome_iff_exists.1 hpack
  unfold Exchanges.store storeCache
  simp only [hd, hc, hs, h.lib, hpacked]
  split
  · simpa using h
  refine { h with
    lib := rfl
    stored := by simp [h.stored]
    keyed := { h.keyed with stored := by simpa using ⟨hkey, h.keyed.stored⟩ }
    memory := ⟨rfl, _, rfl, fun k => ?_⟩
    file := ⟨_, rfl, fun k => ?_⟩ }
  · by_cases hk : k = key
    · subst hk
      simp only [update_self, if_true, List.find?_cons_of_pos, decide_true]
      exact .inl ⟨_, rfl, rfl, rfl⟩
    simp only [update_of_ne hk, if_true]
    rw [List.find?_cons_of_neg (by simpa using Ne.symm hk)]
    exact hcache k
  · by_cases hk : k = key.saveKey
    · subst hk
      simp only [update_self, if_true, List.find?_cons_of_pos, decide_true]
      exact .inl ⟨_, rfl, hpacked, rfl⟩
    simp only [update_of_ne hk, if_true]
    rw [List.find?_cons_of_neg (by simpa using Ne.symm hk)]
    exact hstore k

/-- The entries of the two caches are those of the same responses, when a key shares its entry in the
cache file with no other one. -/
lemma latest (hkey : ∀ st ∈ a.stored, st.key.saveKey = key.saveKey → st.key = key) : b.latest key = a.latest key := by
  obtain ⟨hd, -⟩ := h.memory
  obtain ⟨store, hs, -⟩ := h.file
  simp only [Exchanges.latest, sameEntry, hd, hs, h.stored, Option.isSome_some, Option.isSome_none, if_true,
    Bool.false_eq_true, if_false]
  refine Lists.find?_congr_mem fun st hst => ?_
  rw [decide_eq_decide]
  exact ⟨hkey st hst, fun he => he ▸ rfl⟩

lemma loadResponse (ha : a.Inv {}) (hb : b.Inv {})
    (hclock : a.clock = now) (hkey : ∀ st ∈ a.stored, st.key.saveKey = key.saveKey → st.key = key)
    (hage : ∀ st ∈ a.latest key, a.client.options.disableExpire = true ∨
      age a.client.options now (st.memoryExpiry a.client.lib) = age a.client.options now st.fileExpiry) :
    Agree subnet { a with client := (a.client.loadResponse key now).2 }
        { b with client := (b.client.loadResponse key now).2 } ∧
      (a.client.loadResponse key now).1.map Prod.snd = (b.client.loadResponse key now).1.map Prod.snd ∧
      ∀ m m' isStale, (a.client.loadResponse key now).1 = some (m, isStale) →
        (b.client.loadResponse key now).1 = some (m', isStale) → m.Same m' := by
  have hlatest := h.latest hkey
  obtain ⟨hd, cache, hc, hcache⟩ := h.memory
  obtain ⟨store, hs, hstore⟩ := h.file
  have hlatestA : a.latest key = a.stored.find? (·.key = key) := by simp [Exchanges.latest, sameEntry, hd]
  have hlatestB : b.latest key = a.stored.find? (·.key.saveKey = key.saveKey) := by
    simp [Exchanges.latest, sameEntry, hs, h.stored]
  obtain ⟨hdecA, hkeptA⟩ := loadMemoryResponse_kept key hcache hclock.le
  rw [← h.options, ← h.lib] at hstore
  obtain ⟨hdecB, hkeptB⟩ := loadPersistentResponse_kept key hb.lib hstore hclock.le
  obtain ⟨hloadB, hstoreB⟩ := loadResponse_file key now hs
  have hlosesA := (a.client.loadResponse_spec key now).1
  have hlosesB := (b.client.loadResponse_spec key now).1
  refine ⟨?_, ?_, ?_⟩
  · refine { h with
      options := hlosesB.options.trans (h.options.trans hlosesA.options.symm)
      lib := hlosesB.lib.trans (h.lib.trans hlosesA.lib.symm)
      rdrc := hlosesB.rdrc.trans (h.rdrc.trans hlosesA.rdrc.symm)
      clientSubnet := by rw [hlosesA.options]; exact h.clientSubnet
      keyed := { h.keyed with }
      memory := ?_
      file := ⟨_, hstoreB, fun k => ?_⟩ }
    · rw [loadResponse_memory key hd hc]
      exact ⟨hd, _, rfl, hclock ▸ hkeptA⟩
    rw [hlosesA.options, hlosesA.lib, hclock, ← h.options, ← h.lib]
    exact hkeptB k
  · rw [loadResponse_memory key hd hc, hloadB, hdecA, hdecB, h.options, ← hlatestA, ← hlatestB, hlatest]
    cases hl : a.latest key with
    | none => rfl
    | some st =>
      rcases hage st hl with hexp | hage
      · simp [decision, hexp]
      · simp [decision, hage]
  · intro m m' isStale hm hm'
    obtain ⟨m₀, hheldA, hsameA⟩ := (a.client.loadResponse_spec key now).2 m isStale hm
    obtain ⟨m₀', hheldB, hsameB⟩ := (b.client.loadResponse_spec key now).2 m' isStale hm'
    obtain ⟨st, hst, rfl⟩ := ha.holds key m₀ hheldA
    obtain ⟨st', hst', rfl⟩ := hb.holds key m₀' hheldB
    obtain rfl : st = st' := Option.some.inj (hst.symm.trans (hlatest.symm.trans hst'))
    have htyped := (ha.stored st (Exchanges.mem_of_latest hst).1).typed
    exact (hsameA htyped).trans (hsameB htyped).symm

end Agree
end SingBox.Dns
