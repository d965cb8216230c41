import SingBox.Dns.Client.Same
import SingBox.Lib.Machine
/-!
# Where the client's responses come from

Every response a client returns is one it makes itself, the answer its
transport gave to this call, or the last response stored where the call looks.
The last two passed the checker of the call that asked the transport. This
holds along every run (`Exchanges.Inv`); what more a run is asked to respect
is collected in `Rules`.
-/
namespace SingBox.Dns
open Function Option
open Cachefile (SaveCacheKey)

/-! ## The caches -/

def Library.Lossless (lib : Library) : Prop := ∀ m b, lib.pack m = some b → lib.unpack b = some m

open Client

namespace Client

section
variable (c : Client)

/-- The response in the cache under a key, whatever its age. -/
def holds (key : DnsCacheKey) : Option Msg :=
  match c.dnsCache with
  | some store => (store key.saveKey).bind fun e => c.lib.unpack e.rawMessage
  | none => c.cache.bind fun cache => (cache key).map (·.msg)

/-- The same client, with no more entries than before. -/
structure Loses (c c' : Client) : Prop where
  options : c'.options = c.options
  lib : c'.lib = c.lib
  rdrc : c'.rdrc = c.rdrc
  persistent : c'.dnsCache.isSome = c.dnsCache.isSome
  holds : ∀ k m, c'.holds k = some m → c.holds k = some m

lemma Loses.refl : c.Loses c := ⟨rfl, rfl, rfl, rfl, fun _ _ h => h⟩

lemma Loses.sameEntry {c c' : Client} (h : c.Loses c') : c'.sameEntry = c.sameEntry := by
  funext k k'
  simp [Client.sameEntry, h.persistent]

lemma update_some {α β : Type} [DecidableEq α] {f : α → Option β} {a b : α} {v : β}
    (h : update f a none b = some v) : f b = some v := by
  by_cases hb : b = a
  · simp [hb] at h
  · rwa [update_of_ne hb] at h

lemma loadPersistentResponse_store (store : SaveCacheKey → Option StoredEntry) (key : DnsCacheKey)
    (now : Int) (k : SaveCacheKey) (e : StoredEntry) :
    (c.loadPersistentResponse store key now).2 k = some e → store k = some e := by
  unfold loadPersistentResponse
  intro h
  split at h
  · exact h
  split at h
  · exact update_some h
  · split at h <;> exact h

lemma loadPersistentResponse_loaded {c : Client} {store : SaveCacheKey → Option StoredEntry} {key : DnsCacheKey}
    {now : Int} {m : Msg} {isStale : Bool} (h : (c.loadPersistentResponse store key now).1 = some (m, isStale)) :
    ∃ e m₀, store key.saveKey = some e ∧ c.lib.unpack e.rawMessage = some m₀ ∧
      (m = m₀ ∨ ∃ ttl, m = normalizeTTL m₀ ttl) := by
  unfold loadPersistentResponse at h
  split at h
  · cases h
  rename_i e he
  split at h
  · cases h
  rename_i m₀ hm₀
  refine ⟨e, m₀, he, hm₀, ?_⟩
  split at h
  · simp only [some.injEq, Prod.mk.injEq] at h
    exact .inl h.1.symm
  obtain ⟨⟨ttl, stale⟩, -, heq⟩ := map_eq_some_iff.1 h
  simp only [Prod.mk.injEq] at heq
  exact .inr ⟨ttl, heq.1.symm⟩

lemma getRoundRobin_msg (e : MemoryEntry) : (c.getRoundRobin e).1.msg = e.msg := by
  unfold getRoundRobin
  split <;> rfl

lemma getRoundRobin_same {e : MemoryEntry} (h : e.msg.WellTyped) : (c.getRoundRobin e).2.Same e.msg := by
  unfold getRoundRobin
  split
  · exact applyRoundRobin_same _ h
  · exact .refl _

lemma loadMemoryResponse_cache (cache : DnsCacheKey → Option MemoryEntry) (key : DnsCacheKey)
    (now : Int) (k : DnsCacheKey) (e : MemoryEntry) (h : (c.loadMemoryResponse cache key now).2 k = some e) :
    ∃ e₀, cache k = some e₀ ∧ e.msg = e₀.msg := by
  unfold loadMemoryResponse at h
  split at h
  · exact ⟨e, h, rfl⟩
  rename_i cached hcached
  have hsome (h : update cache key (some (c.getRoundRobin cached).1) k = some e) :
      ∃ e₀, cache k = some e₀ ∧ e.msg = e₀.msg := by
    by_cases hk : k = key
    · subst hk
      rw [update_self] at h
      exact ⟨cached, hcached, some.inj h ▸ c.getRoundRobin_msg cached⟩
    · rw [update_of_ne hk] at h
      exact ⟨e, h, rfl⟩
  dsimp only at h
  split at h
  · exact hsome h
  split at h
  · exact hsome h
  · exact ⟨e, update_some h, rfl⟩

lemma loadMemoryResponse_loaded {c : Client} {cache : DnsCacheKey → Option MemoryEntry} {key : DnsCacheKey}
    {now : Int} {m : Msg} {isStale : Bool} (h : (c.loadMemoryResponse cache key now).1 = some (m, isStale)) :
    ∃ e, cache key = some e ∧ (e.msg.WellTyped → m.Same e.msg) := by
  unfold loadMemoryResponse at h
  split at h
  · cases h
  rename_i e he
  refine ⟨e, he, fun ht => ?_⟩
  dsimp only at h
  split at h
  · simp only [some.injEq, Prod.mk.injEq] at h
    exact h.1 ▸ c.getRoundRobin_same ht
  split at h
  · simp only [some.injEq, Prod.mk.injEq] at h
    exact h.1 ▸ (normalizeTTL_same _ _).trans (c.getRoundRobin_same ht)
  · cases h

lemma loses_store {c : Client} {store store' : SaveCacheKey → Option StoredEntry} (h : c.dnsCache = some store)
    (hs : ∀ k e, store' k = some e → store k = some e) (index : Option (DnsCacheKey → Option Rotation)) :
    c.Loses { c with dnsCache := some store', roundRobinIndex := index } := by
  refine ⟨rfl, rfl, rfl, by simp [h], fun k m hm => ?_⟩
  obtain ⟨e, he, hm⟩ := bind_eq_some_iff.1 hm
  simp only [holds, h]
  exact bind_eq_some_iff.2 ⟨e, hs _ _ he, hm⟩

lemma loses_cache {c : Client} {cache cache' : DnsCacheKey → Option MemoryEntry} (hd : c.dnsCache = none)
    (h : c.cache = some cache) (hs : ∀ k e, cache' k = some e → ∃ e₀, cache k = some e₀ ∧ e.msg = e₀.msg) :
    c.Loses { c with cache := some cache' } := by
  refine ⟨rfl, rfl, rfl, rfl, fun k m hm => ?_⟩
  simp only [holds, hd, h, bind_some] at hm ⊢
  obtain ⟨e, he, rfl⟩ := map_eq_some_iff.1 hm
  obtain ⟨e₀, he₀, heq⟩ := hs k e he
  rw [he₀, heq]
  rfl

/-- What `loadResponse` returns is held under the key, and it adds nothing to the cache. -/
lemma loadResponse_spec (key : DnsCacheKey) (now : Int) : c.Loses (c.loadResponse key now).2 ∧
      ∀ m isStale, (c.loadResponse key now).1 = some (m, isStale) →
        ∃ m₀, c.holds key = some m₀ ∧ (m₀.WellTyped → m.Same m₀) := by
  unfold loadResponse
  split
  · rename_i store hd
    have hstore := c.loadPersistentResponse_store store key now
    have hloaded {m isStale} (h : (c.loadPersistentResponse store key now).1 = some (m, isStale)) :
        ∃ m₀, c.holds key = some m₀ ∧ (m = m₀ ∨ ∃ ttl, m = normalizeTTL m₀ ttl) := by
      obtain ⟨e, m₀, he, hm₀, h⟩ := loadPersistentResponse_loaded h
      exact ⟨m₀, by simp [holds, hd, he, hm₀], h⟩
    have hsame {m m₀ : Msg} (h : m = m₀ ∨ ∃ ttl, m = normalizeTTL m₀ ttl) (ht : m₀.WellTyped) :
        m.WellTyped ∧ m.Same m₀ := by
      rcases h with rfl | ⟨ttl, rfl⟩
      · exact ⟨ht, .refl _⟩
      · exact ⟨normalizeTTL_typed ht ttl, normalizeTTL_same _ _⟩
    dsimp only
    split
    · rename_i response stale index hl hi
      refine ⟨loses_store hd hstore _, fun m isStale h => ?_⟩
      cases h
      obtain ⟨m₀, hm₀, hrel⟩ := hloaded hl
      refine ⟨m₀, hm₀, fun ht => ?_⟩
      obtain ⟨htyped, hs⟩ := hsame hrel ht
      exact (applyRoundRobin_same _ htyped).trans hs
    · refine ⟨loses_store hd hstore _, fun m isStale h => ?_⟩
      obtain ⟨m₀, hm₀, hrel⟩ := hloaded h
      exact ⟨m₀, hm₀, fun ht => (hsame hrel ht).2⟩
  · rename_i hd
    split
    · exact ⟨.refl c, nofun⟩
    rename_i cache hc
    refine ⟨loses_cache hd hc (c.loadMemoryResponse_cache cache key now), fun m isStale h => ?_⟩
    obtain ⟨e, he, hs⟩ := loadMemoryResponse_loaded h
    exact ⟨e.msg, by simp [holds, hd, hc, he], hs⟩

/-- A response was kept under a key, or nothing happened. -/
structure Stores (c c' : Client) (kept : Bool) (key : DnsCacheKey) (message : Msg) : Prop where
  options : c'.options = c.options
  lib : c'.lib = c.lib
  rdrc : c'.rdrc = c.rdrc
  persistent : c'.dnsCache.isSome = c.dnsCache.isSome
  holds : ∀ k m, c'.holds k = some m →
    (kept = true ∧ c.sameEntry key k = true ∧ m = message) ∨
      ((kept = true → c.sameEntry key k = false) ∧ c.holds k = some m)

lemma Stores.refl (key : DnsCacheKey) (message : Msg) : c.Stores c false key message :=
  ⟨rfl, rfl, rfl, rfl, fun _ _ h => .inr ⟨nofun, h⟩⟩

end

lemma storeCache_stores {c : Client} (hlib : c.lib.Lossless) (key : DnsCacheKey) (message : Msg)
    (timeToLive : UInt32) (now : Int) :
    c.Stores (c.storeCache key message timeToLive now).1 (c.storeCache key message timeToLive now).2 key message := by
  unfold storeCache
  split
  · exact .refl c key message
  split
  · rename_i store hd
    split
    · exact .refl c key message
    rename_i packed hp
    refine ⟨rfl, rfl, rfl, by simp [hd], fun k m h => ?_⟩
    by_cases hk : k.saveKey = key.saveKey
    · simp only [holds, hk, update_self, bind_some, hlib _ _ hp] at h
      exact .inl ⟨rfl, by simp [sameEntry, hd, hk], (some.inj h).symm⟩
    simp only [holds, update_of_ne hk] at h
    refine .inr ⟨fun _ => by simp [sameEntry, hd, Ne.symm hk], ?_⟩
    simpa [holds, hd] using h
  · rename_i hd
    split
    · exact .refl c key message
    rename_i cache hc
    refine ⟨rfl, rfl, rfl, rfl, fun k m h => ?_⟩
    by_cases hk : k = key
    · subst hk
      simp only [holds, hd, bind_some, update_self, map_some] at h
      exact .inl ⟨rfl, by simp [sameEntry, hd], (some.inj h).symm⟩
    simp only [holds, hd, bind_some, update_of_ne hk] at h
    refine .inr ⟨fun _ => by simp [sameEntry, hd, Ne.symm hk], ?_⟩
    simpa [holds, hd, hc] using h

end Client

/-! ## What a run is asked to respect -/

/-- Conditions on the steps of a run: on a cached response and the call it is
returned to, on a saved rejection and the call it refuses, on an answer of a
transport, and on an answer to a background refresh. -/
structure Rules where
  served : Stored → Call → Prop := fun _ _ => True
  refused : Rejection → Call → Prop := fun _ _ => True
  heard : Question → Msg → Prop := fun _ _ => True
  refreshed : Call → Msg → Prop := fun _ _ => True

def Client.keyOf (c : Client) (call : Call) (question : Question) (r : Reading) : DnsCacheKey :=
  newCacheKey c.options.clientSubnet call.transport question
    (prepareExchangeMessage c.options.clientSubnet call.message call.options) call.options r

namespace Exchanges

def waiting (s : Exchanges) (id : Nat) : Option Call :=
  match s.find id with
  | some (.waiting call _) => some call
  | _ => none

def asking (s : Exchanges) (id : Nat) : Option Operation :=
  match s.find id with
  | some (.asking op) => some op
  | _ => none

end Exchanges

namespace Rules

/-- A look at the cache for a call: the response found there may be returned to it. -/
def Looks (R : Rules) (s : Exchanges) (call : Call) (key : DnsCacheKey) (r : Reading) : Prop :=
  ∀ st ∈ s.latest key, (s.client.loadResponse key r.now).1.isSome → R.served st call

/-- A call that begins: also a rejection found for it may refuse it. -/
def Begins (R : Rules) (s : Exchanges) (call : Call) (r : Reading) : Prop :=
  ∀ question ∈ call.message.question.head?,
    R.Looks s call (s.client.keyOf call question r) r ∧
      ∀ rejection ∈ s.latestRejection (rejectKey call.transport question), call.checker.isSome →
        s.client.loadRDRC (rejectKey call.transport question) = true → R.refused rejection call

def Respected (R : Rules) (s : Exchanges) : ClientEvent → Prop
  | .exchange _ call r => R.Begins s call r
  | .retry id r => ∀ call ∈ s.waiting id, R.Begins s call r
  | .reply id _ reply => ∀ op ∈ s.asking id, ∀ answer ∈ (exchangeToTransport op.message reply).toOption,
      R.heard op.question answer
  | .lookup call name qType r => R.Looks s { call with message := Exchanges.lookupMessage name qType }
      (newCacheKey s.client.options.clientSubnet call.transport { name := name, qtype := qType }
        (Exchanges.lookupMessage name qType) call.options r) r
  | .refreshed key _ reply => ∀ f ∈ s.backgroundRefresh.find? (·.key = key),
      ∀ answer ∈ (exchangeToTransport f.message reply).toOption,
        R.heard f.key.question answer ∧ R.refreshed f.call answer
  | .cancel _ | .evict _ | .evictIndex _ | .cleanup _ | .forget _ | .clearCache => True

section
variable (R : Rules) [∀ st call, Decidable (R.served st call)] [∀ rejection call, Decidable (R.refused rejection call)]
  [∀ question answer, Decidable (R.heard question answer)] [∀ call answer, Decidable (R.refreshed call answer)]

instance (s : Exchanges) (call : Call) (key : DnsCacheKey) (r : Reading) : Decidable (R.Looks s call key r) :=
  inferInstanceAs (Decidable (∀ st ∈ s.latest key, _))

instance (s : Exchanges) (call : Call) (r : Reading) : Decidable (R.Begins s call r) :=
  inferInstanceAs (Decidable (∀ question ∈ call.message.question.head?, _ ∧ _))

instance (s : Exchanges) (e : ClientEvent) : Decidable (R.Respected s e) :=
  match e with
  | .exchange _ call r => inferInstanceAs (Decidable (R.Begins s call r))
  | .retry id r => inferInstanceAs (Decidable (∀ call ∈ s.waiting id, R.Begins s call r))
  | .reply .. => inferInstanceAs (Decidable (∀ op ∈ _, _))
  | .lookup call name qType r => inferInstanceAs (Decidable (R.Looks s _ _ r))
  | .refreshed .. => inferInstanceAs (Decidable (∀ f ∈ _, _))
  | .cancel _ | .evict _ | .evictIndex _ | .cleanup _ | .forget _ | .clearCache => isTrue trivial

end

/-! ## What every step keeps -/

/-- A stored response is the answer its call's checker accepted, with the options of the call applied. -/
structure StoredOk (R : Rules) (st : Stored) : Prop where
  accepted : ∀ f, st.call.checker = some f → rejects f st.answer = false
  same : st.response.Same (filterHints st.key.question st.answer st.call.options.strategy)
  typed : st.response.WellTyped
  heard : R.heard st.key.question st.answer

/-- A saved rejection is of an answer its call's checker rejected. -/
structure RejectionOk (R : Rules) (rejection : Rejection) : Prop where
  rejected : ∃ f, rejection.call.checker = some f ∧ rejects f rejection.answer = true
  good : isBadRcode rejection.answer = false ∨ R.refreshed rejection.call rejection.answer

def ReturnedOk (R : Rules) (r : Returned) : Prop :=
  match r.source with
  | .made => r.result ≠ .error .rejectedCached ∧
      ∀ m, r.result = .ok m → r.call.message.question.head? = none ∨
        ∃ question, r.call.message.question.head? = some question ∧
          strategyRejects r.call.options.strategy question = true
  | .asked answer => r.result ≠ .error .rejectedCached ∧
      ∀ m, r.result = .ok m → (∀ f, r.call.checker = some f → rejects f answer = false) ∧
        ∃ question, r.call.message.question.head? = some question ∧ R.heard question answer ∧
          m.Same (filterHints question answer r.call.options.strategy)
  | .cached _ entry => ∃ st m question, entry = some st ∧ r.result = .ok m ∧ R.StoredOk st ∧
      r.call.message.question.head? = some question ∧ st.key.question.name = question.name ∧
      st.key.question.qtype = question.qtype ∧ m.Same st.response ∧ R.served st r.call
  | .rejection entry => ∃ rejection question, entry = some rejection ∧ r.result = .error .rejectedCached ∧
      R.RejectionOk rejection ∧ r.call.message.question.head? = some question ∧
      rejection.key = rejectKey r.call.transport question ∧ R.refused rejection r.call

end Rules

/-- The key of an operation is one of its own question. -/
structure Operation.Ok (op : Operation) : Prop where
  asked : op.call.message.question.head? = some op.question
  key : ∀ key, op.cacheKey = some key → key.question = op.question

structure Refresh.Ok (f : Refresh) : Prop where
  asked : f.call.message.question.head? = some f.key.question

structure Exchanges.Inv (R : Rules) (s : Exchanges) : Prop where
  lib : s.client.lib.Lossless
  holds : ∀ k m, s.client.holds k = some m → ∃ st, s.latest k = some st ∧ m = st.response
  stored : ∀ st ∈ s.stored, R.StoredOk st
  rejections : ∀ rejection ∈ s.rejected, R.RejectionOk rejection
  rdrc : ∀ k, s.client.loadRDRC k = true → ∃ rejection, s.latestRejection k = some rejection
  asking : ∀ id op, (id, .asking op) ∈ s.inFlight → op.Ok
  refresh : ∀ f ∈ s.backgroundRefresh, f.Ok
  returned : ∀ r ∈ s.returned, R.ReturnedOk r

namespace Exchanges.Inv
variable {R : Rules} {s : Exchanges} {call : Call} {key : DnsCacheKey}
variable (h : s.Inv R)
include h

lemma deliver {result : Except ExchangeError Msg} {source : Source}
    (hr : R.ReturnedOk ⟨call, result, source⟩) : (s.deliver call result source).Inv R :=
  { h with returned := fun r hmem => (List.mem_cons.1 hmem).elim (fun he => he ▸ hr) (h.returned r) }

lemma unlock (lock : Option DnsExchangeKey) : (s.unlock lock).Inv R := by
  cases lock with
  | none => exact h
  | some key => exact { h with }

lemma readClock (now : Int) : (s.readClock now).Inv R := { h with }

lemma drop (id : Nat) : (s.drop id).Inv R :=
  { h with asking := fun id op hmem => h.asking id op (List.mem_of_mem_filter hmem) }

lemma push (id : Nat) {f : InFlight} (hf : ∀ op, f = .asking op → op.Ok) :
    Inv R { s with inFlight := (id, f) :: s.inFlight } :=
  { h with
    asking := fun id op hmem => by
      rcases List.mem_cons.1 hmem with he | hmem
      · exact hf op (Prod.mk.inj he).2.symm
      · exact h.asking id op hmem }

omit h in
lemma latest_loses {c : Client} (hl : s.client.Loses c) (k : DnsCacheKey) :
    latest { s with client := c } k = s.latest k := by
  simp [latest, hl.sameEntry]

lemma loses {c : Client} (hl : s.client.Loses c) : Inv R { s with client := c } :=
  { h with
    lib := by rw [hl.lib]; exact h.lib
    holds := fun k m hm => by
      rw [latest_loses hl]
      exact h.holds k m (hl.holds k m hm)
    rdrc := fun k hk => h.rdrc k (by simpa [loadRDRC, hl.rdrc] using hk) }

lemma lock (cacheLock : DnsExchangeKey → Option Nat) : Inv R { s with cacheLock := cacheLock } := { h with }

lemma backgroundRefreshDNS {message : Msg} (hcall : call.message.question.head? = some key.question) :
    (s.backgroundRefreshDNS key call message).Inv R := by
  unfold Exchanges.backgroundRefreshDNS
  split
  · exact h
  · exact { h with refresh := fun f hf => (List.mem_cons.1 hf).elim (fun he => he ▸ ⟨hcall⟩) (h.refresh f) }

lemma store {answer response : Msg}
    {now : Int} {timeToLive : UInt32} (hst : R.StoredOk ⟨key, call, answer, response, now, timeToLive⟩) :
    (s.store key call answer response timeToLive now).Inv R := by
  have hs := storeCache_stores h.lib key response timeToLive now
  simp only [Exchanges.store]
  generalize s.client.storeCache key response timeToLive now = p at hs ⊢
  obtain ⟨c, kept⟩ := p
  have hsame : c.sameEntry = s.client.sameEntry := by
    funext k k'
    simp [sameEntry, hs.persistent]
  have hrdrc : c.rdrc = s.client.rdrc := hs.rdrc
  refine { h with
    lib := by rw [hs.lib]; exact h.lib
    holds := fun k m hm => ?_
    stored := fun st hmem => ?_
    rdrc := fun k hk => h.rdrc k (by simpa [loadRDRC, hrdrc] using hk) }
  · simp only [latest, hsame]
    rcases hs.holds k m hm with ⟨rfl, hk, rfl⟩ | ⟨hk, hm⟩
    · exact ⟨⟨key, call, answer, m, now, timeToLive⟩, by simp [hk], rfl⟩
    obtain ⟨st, hst, rfl⟩ := h.holds k m hm
    refine ⟨st, ?_, rfl⟩
    cases kept with
    | true => simpa [hk rfl, latest] using hst
    | false => simpa [latest] using hst
  · dsimp only at hmem
    split at hmem
    · exact (List.mem_cons.1 hmem).elim (fun he => he ▸ hst) (h.stored st)
    · exact h.stored st hmem

lemma reject (question : Question) {answer : Msg}
    (hr : ∀ key, R.RejectionOk ⟨key, call, answer⟩) : (s.reject question call answer).Inv R := by
  refine { h with
    holds := h.holds
    rejections := fun rejection hmem => ?_
    rdrc := fun k hk => ?_ }
  · dsimp only [Exchanges.reject] at hmem
    split at hmem
    · exact (List.mem_cons.1 hmem).elim (fun he => he ▸ hr _) (h.rejections rejection)
    · exact h.rejections rejection hmem
  simp only [Exchanges.reject, loadRDRC, saveRDRC, any_map] at hk
  cases hrd : s.client.rdrc with
  | none => simp [hrd] at hk
  | some rejected =>
    simp only [Exchanges.reject, latestRejection, hrd, isSome_some, if_true]
    by_cases hkey : rejectKey call.transport question = k
    · exact ⟨⟨k, call, answer⟩, by simp [hkey]⟩
    obtain ⟨rejection, hrej⟩ := h.rdrc k (by
      simpa [hrd, update_of_ne (Ne.symm hkey), loadRDRC] using hk)
    exact ⟨rejection, by simpa [hkey, latestRejection] using hrej⟩

end Exchanges.Inv

lemma finishCacheKey_question {key key' : DnsCacheKey} {r : Reading} (h : finishCacheKey key r = some key') :
    key'.question = key.question := by
  unfold finishCacheKey at h
  dsimp only at h
  split at h
  · exact some.inj h ▸ rfl
  · cases h

lemma Client.applyResponseOptions_same (c : Client) (question : Question) (answer : Msg)
    (options : Route.DNSQueryOptions) :
    (c.applyResponseOptions question answer options).1.Same (filterHints question answer options.strategy) :=
  normalizeTTL_same _ _

lemma Client.applyResponseOptions_typed (c : Client) (question : Question) {answer : Msg} (h : answer.WellTyped)
    (options : Route.DNSQueryOptions) : (c.applyResponseOptions question answer options).1.WellTyped :=
  normalizeTTL_typed (filterHints_typed h _ _) _

lemma Client.sameEntry_question {c : Client} {k k' : DnsCacheKey} (h : c.sameEntry k k' = true) :
    k.question.name = k'.question.name ∧ k.question.qtype = k'.question.qtype := by
  unfold sameEntry at h
  split at h
  · have hk : k.saveKey = k'.saveKey := by simpa using h
    simp only [DnsCacheKey.saveKey, SaveCacheKey.mk.injEq] at hk
    exact hk.2
  · have hk : k = k' := by simpa using h
    exact hk ▸ ⟨rfl, rfl⟩

namespace Exchanges
variable {R : Rules} {s : Exchanges} {call : Call} {key : DnsCacheKey}

lemma mem_of_latest {k : DnsCacheKey} {st : Stored} (h : s.latest k = some st) :
    st ∈ s.stored ∧ st.key.question.name = k.question.name ∧ st.key.question.qtype = k.question.qtype :=
  ⟨List.mem_of_find?_eq_some h, sameEntry_question (by simpa using List.find?_some h)⟩

lemma mem_of_latestRejection {k : SaveCacheKey} {rejection : Rejection}
    (h : s.latestRejection k = some rejection) : rejection ∈ s.rejected ∧ rejection.key = k :=
  ⟨List.mem_of_find?_eq_some h, by simpa using List.find?_some h⟩

section
variable (h : s.Inv R)
include h

section
variable {op : Operation} (hop : op.Ok)
  (hrefused : ∀ rejection ∈ s.latestRejection (rejectKey op.call.transport op.question), op.call.checker.isSome →
    s.client.loadRDRC (rejectKey op.call.transport op.question) = true → R.refused rejection op.call) (id : Nat)
include hop hrefused

lemma askTransport_inv : (s.askTransport id op).Inv R := by
  unfold askTransport
  split
  · exact (h.unlock _).deliver ⟨nofun, nofun⟩
  split
  · rename_i hrej
    simp only [Bool.and_eq_true] at hrej
    obtain ⟨⟨-, hcheck⟩, hload⟩ := hrej
    refine (h.unlock _).deliver ?_
    obtain ⟨rejection, hfound⟩ := h.rdrc _ hload
    obtain ⟨hmem, hkey⟩ := mem_of_latestRejection hfound
    exact ⟨rejection, op.question, hfound, rfl, h.rejections _ hmem, hop.asked, hkey,
      hrefused rejection hfound hcheck hload⟩
  · exact h.push id fun op' he => InFlight.asking.inj he ▸ hop

lemma joinLock_inv (exchangeKey : DnsExchangeKey) (owner : Option Nat) :
    (s.joinLock id op exchangeKey owner).Inv R := by
  unfold joinLock
  split
  · exact askTransport_inv h hop hrefused id
  refine h.push id fun op' he => ?_
  split at he <;> cases he

end

lemma cached_ok {r : Reading} (hq : call.message.question.head? = some key.question) (hserved : R.Looks s call key r)
    {m response : Msg} {isStale : Bool} (hload : (s.client.loadResponse key r.now).1 = some (m, isStale)) (hm : response.Same m) :
    R.ReturnedOk ⟨call, .ok response, .cached key (s.latest key)⟩ := by
  obtain ⟨m₀, hheld, hsame⟩ := (s.client.loadResponse_spec key r.now).2 m isStale hload
  obtain ⟨st, hlatest, rfl⟩ := h.holds key m₀ hheld
  obtain ⟨hmem, hname, htype⟩ := mem_of_latest hlatest
  have hok := h.stored st hmem
  exact ⟨st, response, key.question, hlatest, rfl, hok, hq, hname, htype, hm.trans (hsame hok.typed),
    hserved st hlatest (by simp [hload])⟩

lemma lookCache_inv (id : Nat) {question : Question} {r : Reading}
    (hq : call.message.question.head? = some question) (hr : R.Begins s call r) :
    (s.lookCache id call question r).Inv R := by
  obtain ⟨hserved, hrefused⟩ := hr question hq
  set key := s.client.keyOf call question r with hkey
  have hkq : key.question = question := rfl
  have hl := (s.client.loadResponse_spec key r.now).1
  have hok {m response isStale} := @cached_ok _ _ _ _ h _ (hkq ▸ hq) hserved m response isStale
  have hop (lock) : Operation.Ok ⟨call, prepareExchangeMessage s.client.options.clientSubnet call.message call.options,
      question, some key, lock⟩ := ⟨hq, fun k hk => some.inj hk ▸ hkq⟩
  unfold lookCache
  simp only [show newCacheKey s.client.options.clientSubnet call.transport question
    (prepareExchangeMessage s.client.options.clientSubnet call.message call.options) call.options r = key from rfl]
  generalize hload : s.client.loadResponse key r.now = p at hl hok ⊢
  obtain ⟨loaded, client⟩ := p
  have hinv (cacheLock) := (h.loses hl).lock cacheLock
  have hrdrc : client.rdrc = s.client.rdrc := hl.rdrc
  have hrefused' : ∀ rejection ∈ s.latestRejection (rejectKey call.transport question), call.checker.isSome →
      client.loadRDRC (rejectKey call.transport question) = true → R.refused rejection call := by
    simpa [loadRDRC, hrdrc] using hrefused
  dsimp only
  split
  · rename_i response isStale
    split
    · exact (((hinv _).backgroundRefreshDNS (hkq ▸ hq)).unlock _).deliver (hok rfl (setId_same _ _))
    split
    · exact ((hinv _).unlock _).deliver (hok rfl (setId_same _ _))
    · exact joinLock_inv (hinv _) (hop _) hrefused' id _ _
  · exact joinLock_inv (hinv _) (hop _) hrefused' id _ _

lemma beginExchange_inv (id : Nat) {r : Reading} (hr : R.Begins s call r) : (s.beginExchange id call r).Inv R := by
  unfold beginExchange
  split
  · rename_i hq
    exact h.deliver ⟨nofun, fun _ _ => .inl hq⟩
  rename_i question hq
  split
  · rename_i hs
    exact h.deliver ⟨nofun, fun _ _ => .inr ⟨question, hq, hs⟩⟩
  split
  · exact askTransport_inv h ⟨hq, fun _ hk => by cases hk⟩ (hr question hq).2 id
  · exact lookCache_inv h id hq hr

end

lemma storedOk_of_answer {c : Client} {key key' : DnsCacheKey} {answer : Msg} {now : Int} {ttl : UInt32}
    (hkey : key'.question = key.question) (ht : answer.WellTyped) (hheard : R.heard key.question answer)
    (haccepted : call.checker.any (rejects · answer) = false) :
    R.StoredOk ⟨key', call, answer, (c.applyResponseOptions key.question answer call.options).1, now, ttl⟩ where
  accepted := fun f hf => by
    simp only at hf
    simpa [hf] using haccepted
  same := by
    simp only [hkey]
    exact c.applyResponseOptions_same ..
  typed := c.applyResponseOptions_typed _ ht _
  heard := by
    simp only [hkey]
    exact hheard

lemma exists_of_any {check : Option (Msg → Bool)} {answer : Msg} (h : check.any (rejects · answer) = true) :
    ∃ f, check = some f ∧ rejects f answer = true := by
  cases check with
  | none => cases h
  | some f => exact ⟨f, rfl, h⟩

lemma finishExchange_inv (h : s.Inv R) {op : Operation} (hop : op.Ok) {answer : Msg} (ht : answer.WellTyped)
    (hheard : R.heard op.question answer) (r : Reading) : (s.finishExchange op answer r).Inv R := by
  -- the key under which something may be kept: none for an error code
  have hbad : (if isBadRcode answer then none else op.cacheKey).isSome → isBadRcode answer = false := by
    cases isBadRcode answer <;> simp
  have hkeyOf : ∀ key, (if isBadRcode answer then none else op.cacheKey) = some key → op.cacheKey = some key := by
    cases isBadRcode answer <;> simp
  unfold finishExchange
  dsimp only
  generalize (if isBadRcode answer then none else op.cacheKey) = cacheKey at hbad hkeyOf ⊢
  split
  · rename_i hrej
    obtain ⟨f, hf, hrejects⟩ := exists_of_any hrej
    have hreturned : R.ReturnedOk ⟨op.call, .error .rejected, .asked answer⟩ := ⟨nofun, nofun⟩
    split
    · rename_i hkey
      exact (h.reject _ fun _ => ⟨⟨f, hf, hrejects⟩, .inl (hbad hkey)⟩).deliver hreturned
    · exact h.deliver hreturned
  · rename_i hacc
    have hacc : op.call.checker.any (rejects · answer) = false := by simpa using hacc
    have hreturned : R.ReturnedOk ⟨op.call, .ok (matchEdns0 op.message
        { (s.client.applyResponseOptions op.question answer op.call.options).1 with id := op.message.id }),
        .asked answer⟩ := by
      refine ⟨nofun, fun m hm => ⟨fun f hf => ?_, op.question, hop.asked, hheard, ?_⟩⟩
      · simp only at hf
        simpa [hf] using hacc
      · cases hm
        exact (matchEdns0_same _ _).trans ((setId_same _ _).trans (s.client.applyResponseOptions_same ..))
    split
    · rename_i key hkey
      obtain ⟨key₀, hkey₀, hfinish⟩ := bind_eq_some_iff.1 hkey
      have hop₀ : key₀.question = op.question := hop.key key₀ (hkeyOf key₀ hkey₀)
      refine (h.store ?_).deliver hreturned
      rw [← hop₀] at hheard ⊢
      exact storedOk_of_answer (finishCacheKey_question hfinish) ht hheard hacc
    · exact h.deliver hreturned

lemma receive_inv (h : s.Inv R) {op : Operation} (hop : op.Ok) (r : Reading) {reply : TransportReply}
    (hheard : ∀ answer ∈ (exchangeToTransport op.message reply).toOption, R.heard op.question answer) :
    (s.receive op r reply).Inv R := by
  unfold receive
  split
  · exact (h.unlock _).deliver ⟨nofun, nofun⟩
  rename_i answer ha
  exact (finishExchange_inv h hop (exchangeToTransport_typed ha) (hheard answer (by rw [ha]; rfl)) r).unlock _

lemma questionCache_inv (h : s.Inv R) {question : Question} {r : Reading}
    (hq : call.message.question.head? = some question)
    (hserved : R.Looks s call (newCacheKey s.client.options.clientSubnet call.transport question call.message
      call.options r) r) : (s.questionCache call question r).Inv R := by
  have hkq : (newCacheKey s.client.options.clientSubnet call.transport question call.message call.options r).question =
    question := rfl
  unfold questionCache
  generalize newCacheKey s.client.options.clientSubnet call.transport question call.message call.options r = key
    at hserved hkq ⊢
  have hl := (s.client.loadResponse_spec key r.now).1
  have hok {m isStale} := @cached_ok _ _ _ _ h _ (hkq ▸ hq) hserved m m isStale
  dsimp only
  generalize hload : s.client.loadResponse key r.now = p at hl hok ⊢
  obtain ⟨loaded, client⟩ := p
  have hinv := h.loses hl
  dsimp only
  split
  · split
    · split
      · exact hinv
      · exact (hinv.backgroundRefreshDNS (hkq ▸ hq)).deliver (hok rfl (.refl _))
    · exact hinv.deliver (hok rfl (.refl _))
  · exact hinv

lemma finishRefresh_inv (h : s.Inv R) {f : Refresh} (r : Reading) {reply : TransportReply}
    (hheard : ∀ answer ∈ (exchangeToTransport f.message reply).toOption,
      R.heard f.key.question answer ∧ R.refreshed f.call answer) : (s.finishRefresh f r reply).Inv R := by
  unfold finishRefresh
  split
  · exact h
  rename_i answer ha
  obtain ⟨hh, hrefreshed⟩ := hheard answer (by rw [ha]; rfl)
  split
  · rename_i hrej
    exact h.reject _ fun _ => ⟨exists_of_any hrej, .inr hrefreshed⟩
  rename_i hacc
  split
  · exact h
  split
  · exact h
  rename_i key hkey
  exact h.store (storedOk_of_answer (finishCacheKey_question hkey) (exchangeToTransport_typed ha) hh
    (by simpa using hacc))

lemma loses_map {c : Client} (f : (DnsCacheKey → Option MemoryEntry) → DnsCacheKey → Option MemoryEntry)
    (g : (SaveCacheKey → Option StoredEntry) → SaveCacheKey → Option StoredEntry)
    (index : Option (DnsCacheKey → Option Rotation))
    (hf : ∀ cache k e, f cache k = some e → cache k = some e) (hg : ∀ store k e, g store k = some e → store k = some e) :
    c.Loses { c with cache := c.cache.map f, dnsCache := c.dnsCache.map g, roundRobinIndex := index } := by
  refine ⟨rfl, rfl, rfl, by simp, fun k m hm => ?_⟩
  cases hd : c.dnsCache with
  | some store =>
    simp only [holds, hd, map_some] at hm ⊢
    obtain ⟨e, he, hm⟩ := bind_eq_some_iff.1 hm
    exact bind_eq_some_iff.2 ⟨e, hg _ _ _ he, hm⟩
  | none =>
    simp only [holds, hd, map_none, bind_map] at hm ⊢
    obtain ⟨cache, hc, hm⟩ := bind_eq_some_iff.1 hm
    obtain ⟨e, he, rfl⟩ := map_eq_some_iff.1 hm
    exact bind_eq_some_iff.2 ⟨cache, hc, by rw [hf _ _ _ he]; rfl⟩

lemma mem_of_find {id : Nat} {f : InFlight} (h : s.find id = some f) : (id, f) ∈ s.inFlight := by
  obtain ⟨⟨id', f'⟩, hfind, rfl⟩ := map_eq_some_iff.1 h
  obtain rfl : id' = id := by simpa using List.find?_some hfind
  exact List.mem_of_find?_eq_some hfind

lemma step_inv {s' : Exchanges} {e : ClientEvent} (h : s.Inv R) (hr : R.Respected s e)
    (hs : s.step e = some s') : s'.Inv R := by
  cases e with
  | exchange id call r =>
    simp only [step, ite_none_left_eq_some, some.injEq] at hs
    obtain ⟨-, rfl⟩ := hs
    exact beginExchange_inv (h.readClock r.now) id hr
  | retry id r =>
    simp only [step] at hs
    split at hs
    · rename_i call cond hf
      split at hs
      · cases hs
        exact beginExchange_inv ((h.readClock r.now).drop id) id (hr call (by simp [waiting, hf]))
      · cases hs
    · cases hs
  | cancel id =>
    simp only [step] at hs
    split at hs
    · cases hs
      exact (h.drop id).deliver ⟨nofun, nofun⟩
    · cases hs
  | reply id r reply =>
    simp only [step] at hs
    split at hs
    · rename_i op hf
      cases hs
      exact receive_inv ((h.readClock r.now).drop id) (h.asking id op (mem_of_find hf)) r
        (hr op (by simp [asking, hf]))
    · cases hs
  | lookup call name qType r =>
    simp only [step, ite_none_left_eq_some, some.injEq] at hs
    obtain ⟨-, rfl⟩ := hs
    have hq : (lookupMessage name qType).question.head? = some { name := name, qtype := qType } := rfl
    exact questionCache_inv (h.readClock r.now) hq hr
  | refreshed key r reply =>
    simp only [step] at hs
    split at hs
    · rename_i f hf
      have h' : Inv R { s.readClock r.now with backgroundRefresh := s.backgroundRefresh.filter (·.key ≠ key) } :=
        { h with refresh := fun f hmem => h.refresh f (List.mem_of_mem_filter hmem) }
      cases hs
      exact finishRefresh_inv h' r (hr f hf)
    · cases hs
  | evict key =>
    have hl := loses_map (c := s.client) (fun cache => update cache key none) id s.client.roundRobinIndex
      (fun _ _ _ => update_some) (fun _ _ _ h => h)
    rw [map_id] at hl
    exact some.inj hs ▸ h.loses hl
  | evictIndex key =>
    have hl := loses_map (c := s.client) id id
      (s.client.roundRobinIndex.map fun index => update index key none) (fun _ _ _ h => h) (fun _ _ _ h => h)
    rw [map_id, map_id] at hl
    exact some.inj hs ▸ h.loses hl
  | cleanup now =>
    have hl := loses_map (c := s.client) id (fun store key => (store key).filter fun entry =>
      s.client.options.disableExpire || now ≤ entry.expireAt * second + s.client.options.optimisticTimeout)
      s.client.roundRobinIndex (fun _ _ _ h => h) (fun _ _ _ h => (filter_eq_some_iff.1 h).1)
    rw [map_id] at hl
    exact some.inj hs ▸ (h.readClock now).loses hl
  | forget key =>
    refine some.inj hs ▸ { h with holds := h.holds, rdrc := fun k hk => h.rdrc k ?_ }
    simp only [loadRDRC, any_map] at hk ⊢
    cases hrd : s.client.rdrc with
    | none => simp [hrd] at hk
    | some rejected =>
      by_cases hkey : k = key
      · simp [hrd, hkey] at hk
      · simpa [hrd, update_of_ne hkey] using hk
  | clearCache =>
    have hl : s.client.Loses s.client.clearCache := loses_map (fun _ _ => none) (fun _ _ => none) _ nofun nofun
    have hnone (k) : s.client.clearCache.holds k = none := by
      cases hd : s.client.dnsCache <;> cases hc : s.client.cache <;> simp [holds, clearCache, hd, hc]
    cases hs
    exact { h.loses hl with
      holds := fun k m hm => absurd ((hnone k).symm.trans hm) (some_ne_none m).symm
      stored := fun _ hmem => absurd hmem List.not_mem_nil }

lemma start_holds (options : ClientOptions) (lib : Library) (storeDNS storeRDRC : Bool) (k : DnsCacheKey) :
    (start options lib storeDNS storeRDRC).holds k = none := by
  cases storeDNS with
  | true => rfl
  | false =>
    simp only [holds, start, Bool.false_eq_true, if_false, Bool.false_or]
    cases options.disableCache <;> rfl

lemma start_loadRDRC (options : ClientOptions) (lib : Library) (storeDNS storeRDRC : Bool) (k : SaveCacheKey) :
    (start options lib storeDNS storeRDRC).loadRDRC k = false := by
  cases storeRDRC <;> rfl

lemma start_inv (options : ClientOptions) {lib : Library} (hlib : lib.Lossless) (storeDNS storeRDRC : Bool) :
    Inv R { client := .start options lib storeDNS storeRDRC } := by
  refine ⟨hlib, fun k m hm => ?_, by simp, by simp, fun k hk => ?_, by simp, by simp, by simp⟩
  · rw [start_holds] at hm
    cases hm
  rw [start_loadRDRC] at hk
  cases hk

lemma run_returned (R : Rules) {options : ClientOptions} {lib : Library} (hlib : lib.Lossless)
    {storeDNS storeRDRC : Bool} {es : List ClientEvent}
    (hrun : Machine.run step { client := .start options lib storeDNS storeRDRC } es = some s)
    (hr : Machine.Along step R.Respected { client := .start options lib storeDNS storeRDRC } es) :
    ∀ r ∈ s.returned, R.ReturnedOk r :=
  (Machine.run_inv (fun _ _ _ hi hc hs => step_inv hi hc hs) (start_inv options hlib storeDNS storeRDRC) hr
    hrun).returned

end Exchanges
end SingBox.Dns
